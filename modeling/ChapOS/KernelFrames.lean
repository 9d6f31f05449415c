import ChapOS.KernelRuns
import ChapOS.PageTranslation

/-!
# What leaves the processes alone

Most of the kernel changes neither which processes live nor where they run: the
descriptor calls work on the current PCB's descriptors, the terminals on the
devices, the screen and their backing page.  `KeepsProcesses` collects what all
of these keep, and `KeepsPcbs` what the latter keep.
-/

namespace ChapOS

open CountedLoops

/-- No page beside the image page is unmapped. -/
structure Mappings.Covers (before after : Mappings) : Prop where
  video : before.video = true → after.video = true
  terminal : before.terminal.isSome = true → after.terminal.isSome = true

/-- The image page stays where it is, and no other page is unmapped. -/
structure Mappings.Grows (before after : Mappings) : Prop
    extends before.Covers after where
  image : after.image = before.image

namespace Mappings

theorem Covers.refl (mappings : Mappings) : mappings.Covers mappings :=
  ⟨id, id⟩

theorem Covers.trans {first middle last : Mappings} (before : first.Covers middle)
    (after : middle.Covers last) : first.Covers last :=
  ⟨fun video => after.video (before.video video),
    fun terminal => after.terminal (before.terminal terminal)⟩

theorem Grows.refl (mappings : Mappings) : mappings.Grows mappings :=
  ⟨.refl mappings, rfl⟩

theorem Grows.trans {first middle last : Mappings} (before : first.Grows middle)
    (after : middle.Grows last) : first.Grows last :=
  ⟨before.toCovers.trans after.toCovers, after.image.trans before.image⟩

/-- Whatever address is mapped stays mapped when pages are added and the image
page is mapped elsewhere. -/
theorem Covers.translate {before after : Mappings} (covers : before.Covers after)
    (image : before.image.isSome = true → after.image.isSome = true) {linear : Nat}
    (mapped : (before.translate linear).isSome = true) :
    (after.translate linear).isSome = true := by
  unfold Mappings.translate at mapped ⊢
  by_cases kernel : 0x400000 ≤ linear ∧ linear < 0x800000
  · rw [if_pos kernel]
    rfl
  rw [if_neg kernel] at mapped ⊢
  by_cases screen : 0xB8000 ≤ linear ∧ linear < 0xB9000
  · rw [if_pos screen]
    rfl
  rw [if_neg screen] at mapped ⊢
  by_cases program : 0x08000000 ≤ linear ∧ linear < 0x08400000
  · rw [if_pos program, Option.isSome_map] at mapped ⊢
    exact image mapped
  rw [if_neg program] at mapped ⊢
  by_cases userVideo : 0x08400000 ≤ linear ∧ linear < 0x08401000
  · rw [if_pos userVideo] at mapped ⊢
    cases hasVideo : before.video with
    | false => simp [hasVideo] at mapped
    | true => rw [if_pos (covers.video hasVideo)]; rfl
  rw [if_neg userVideo] at mapped ⊢
  by_cases backing : 0x08401000 ≤ linear ∧ linear < 0x08402000
  · rw [if_pos backing, Option.isSome_map] at mapped ⊢
    exact covers.terminal mapped
  · rw [if_neg backing] at mapped
    exact absurd mapped (by simp)

end Mappings

/-- What the descriptor calls, the terminals and the devices keep: the process
slots, the kernel stack, the image page, every other PCB, and of the current PCB
all but its descriptors. -/
structure KeepsProcesses (layout : KernelLayout) (before after : Kernel) : Prop where
  procIdFlags : after.procIdFlags = before.procIdFlags
  activeProcNum : after.activeProcNum = before.activeProcNum
  tssEsp0 : after.tssEsp0 = before.tssEsp0
  esp : after.esp = before.esp
  userMode : after.userMode = before.userMode
  otherPcbs : ∀ address, address ≠ before.getPcbPtr →
    after.pcbAt address = before.pcbAt address
  procNum : after.currentPcb.procNum = before.currentPcb.procNum
  parentProcNum : after.currentPcb.parentProcNum = before.currentPcb.parentProcNum
  ksp : after.currentPcb.ksp = before.currentPcb.ksp
  mappings : ∀ mappings, before.paging.Represents layout mappings →
    ∃ next, after.paging.Represents layout next ∧ mappings.Grows next
  backing : ∀ id, (after.terminals id).termVidMem = (before.terminals id).termVidMem ∨
    (after.terminals id).termVidMem = termVirAddr

/-- What the terminals, the screen and the devices keep: all PCBs too. -/
structure KeepsPcbs (layout : KernelLayout) (before after : Kernel) : Prop
    extends KeepsProcesses layout before after where
  pcbAt : after.pcbAt = before.pcbAt

namespace KeepsProcesses

variable {layout : KernelLayout} {first middle last : Kernel}

theorem refl (layout : KernelLayout) (kernel : Kernel) :
    KeepsProcesses layout kernel kernel where
  procIdFlags := rfl
  activeProcNum := rfl
  tssEsp0 := rfl
  esp := rfl
  userMode := rfl
  otherPcbs _ _ := rfl
  procNum := rfl
  parentProcNum := rfl
  ksp := rfl
  mappings mappings represents := ⟨mappings, represents, .refl mappings⟩
  backing _ := Or.inl rfl

theorem getPcbPtr (keeps : KeepsProcesses layout first last) :
    last.getPcbPtr = first.getPcbPtr := by
  rw [Kernel.getPcbPtr, keeps.esp, Kernel.getPcbPtr]

theorem trans (before : KeepsProcesses layout first middle)
    (after : KeepsProcesses layout middle last) : KeepsProcesses layout first last where
  procIdFlags := after.procIdFlags.trans before.procIdFlags
  activeProcNum := after.activeProcNum.trans before.activeProcNum
  tssEsp0 := after.tssEsp0.trans before.tssEsp0
  esp := after.esp.trans before.esp
  userMode := after.userMode.trans before.userMode
  otherPcbs address different :=
    (after.otherPcbs address (before.getPcbPtr ▸ different)).trans
      (before.otherPcbs address different)
  procNum := after.procNum.trans before.procNum
  parentProcNum := after.parentProcNum.trans before.parentProcNum
  ksp := after.ksp.trans before.ksp
  mappings mappings represents := by
    obtain ⟨next, nextRepresents, grows⟩ := before.mappings mappings represents
    obtain ⟨final, finalRepresents, growsOn⟩ := after.mappings next nextRepresents
    exact ⟨final, finalRepresents, grows.trans growsOn⟩
  backing id :=
    (after.backing id).elim
      (fun same => (before.backing id).imp same.trans same.trans) Or.inr

/-- A PCB keeps what identifies its process. -/
theorem pcb (keeps : KeepsProcesses layout first last) (address : Nat) :
    (last.pcbAt address).procNum = (first.pcbAt address).procNum ∧
      (last.pcbAt address).parentProcNum = (first.pcbAt address).parentProcNum ∧
      (last.pcbAt address).ksp = (first.pcbAt address).ksp := by
  by_cases current : address = first.getPcbPtr
  · have procNum := keeps.procNum
    have parentProcNum := keeps.parentProcNum
    have ksp := keeps.ksp
    rw [Kernel.currentPcb, keeps.getPcbPtr] at procNum parentProcNum ksp
    rw [current]
    exact ⟨procNum, parentProcNum, ksp⟩
  · rw [keeps.otherPcbs address current]
    exact ⟨rfl, rfl, rfl⟩

end KeepsProcesses

namespace KeepsPcbs

variable {layout : KernelLayout} {first middle last : Kernel}

theorem refl (layout : KernelLayout) (kernel : Kernel) :
    KeepsPcbs layout kernel kernel :=
  ⟨.refl layout kernel, rfl⟩

theorem trans (before : KeepsPcbs layout first middle)
    (after : KeepsPcbs layout middle last) : KeepsPcbs layout first last :=
  ⟨before.toKeepsProcesses.trans after.toKeepsProcesses,
    after.pcbAt.trans before.pcbAt⟩

end KeepsPcbs

namespace Kernel

/-- The kernel with another screen, other terminals and devices. -/
def withPeripherals (kernel : Kernel) (tty : Tty) (terminals : Nat → Term)
    (devices : Devices) (faulting : Bool) : Kernel :=
  { kernel with
    tty := tty, terminals := terminals, devices := devices, faulting := faulting }

variable (layout : KernelLayout) (kernel : Kernel)

theorem keeps_withPeripherals (tty : Tty) {terminals : Nat → Term}
    (devices : Devices) (faulting : Bool)
    (backing : ∀ id, (terminals id).termVidMem = (kernel.terminals id).termVidMem ∨
      (terminals id).termVidMem = termVirAddr) :
    KeepsPcbs layout kernel
      (kernel.withPeripherals tty terminals devices faulting) where
  procIdFlags := rfl
  activeProcNum := rfl
  tssEsp0 := rfl
  esp := rfl
  userMode := rfl
  otherPcbs _ _ := rfl
  procNum := rfl
  parentProcNum := rfl
  ksp := rfl
  mappings mappings represents := ⟨mappings, represents, .refl mappings⟩
  backing := backing
  pcbAt := rfl

theorem keeps_setTty (tty : Tty) : KeepsPcbs layout kernel (kernel.setTty tty) :=
  kernel.keeps_withPeripherals layout tty kernel.devices kernel.faulting
    fun _ => Or.inl rfl

theorem keeps_setDevices (devices : Devices) :
    KeepsPcbs layout kernel (kernel.setDevices devices) :=
  kernel.keeps_withPeripherals layout kernel.tty devices kernel.faulting
    fun _ => Or.inl rfl

theorem keeps_setTerminal (id : Nat) (terminal : Term)
    (backing : terminal.termVidMem = (kernel.terminals id).termVidMem ∨
      terminal.termVidMem = termVirAddr) :
    KeepsPcbs layout kernel (kernel.setTerminal id terminal) := by
  apply kernel.keeps_withPeripherals layout kernel.tty kernel.devices kernel.faulting
  intro other
  by_cases same : other = id
  · rw [same, Function.update_self]
    exact backing
  · rw [Function.update_of_ne same]
    exact Or.inl rfl

theorem keeps_fault : KeepsPcbs layout kernel kernel.fault :=
  kernel.keeps_withPeripherals layout kernel.tty kernel.devices true
    fun _ => Or.inl rfl

theorem keeps_setConsole (console : Console) :
    KeepsPcbs layout kernel (kernel.setConsole console) :=
  kernel.keeps_setTty layout _

theorem keeps_setMem (mem : PhysicalMemory) :
    KeepsPcbs layout kernel (kernel.setMem mem) :=
  kernel.keeps_setConsole layout _

theorem keeps_print (bytes : List UInt8) :
    KeepsPcbs layout kernel (kernel.print bytes) :=
  kernel.keeps_setConsole layout _

theorem keeps_printfPlain (format : String) :
    KeepsPcbs layout kernel (kernel.printfPlain format) :=
  kernel.keeps_setConsole layout _

/-- Mapping a terminal or the video page keeps the image page. -/
theorem keeps_setPaging (mappingCall : MappingCall)
    (notImage : ∀ id, mappingCall ≠ .mapUserImgPage id) :
    KeepsPcbs layout kernel
      (kernel.setPaging (kernel.paging.call layout mappingCall)) where
  procIdFlags := rfl
  activeProcNum := rfl
  tssEsp0 := rfl
  esp := rfl
  userMode := rfl
  otherPcbs _ _ := rfl
  procNum := rfl
  parentProcNum := rfl
  ksp := rfl
  mappings mappings represents := by
    refine ⟨mappings.call mappingCall, represents.call mappingCall, ?_⟩
    cases mappingCall with
    | mapUserImgPage id => exact (notImage id rfl).elim
    | mapTermVID id =>
        simp only [Mappings.call]
        split
        · exact ⟨⟨fun video => video, fun _ => rfl⟩, rfl⟩
        · exact .refl mappings
    | newUserVIDPage => exact ⟨⟨fun _ => rfl, fun terminal => terminal⟩, rfl⟩
  backing _ := Or.inl rfl
  pcbAt := rfl

theorem keeps_mapTermVID (id : Nat) :
    KeepsPcbs layout kernel (kernel.mapTermVID layout id) :=
  kernel.keeps_setPaging layout (.mapTermVID id) (fun _ => by simp)

/-- Overwriting descriptors of the current PCB keeps the processes. -/
theorem keeps_setPcb {pcb : Pcb} (procNum : pcb.procNum = kernel.currentPcb.procNum)
    (parentProcNum : pcb.parentProcNum = kernel.currentPcb.parentProcNum)
    (ksp : pcb.ksp = kernel.currentPcb.ksp) :
    KeepsProcesses layout kernel (kernel.setPcb kernel.getPcbPtr pcb) where
  procIdFlags := rfl
  activeProcNum := rfl
  tssEsp0 := rfl
  esp := rfl
  userMode := rfl
  otherPcbs address different := by
    simp [setPcb, different]
  procNum := by rw [setPcb_currentPcb, procNum]
  parentProcNum := by rw [setPcb_currentPcb, parentProcNum]
  ksp := by rw [setPcb_currentPcb, ksp]
  mappings mappings represents := ⟨mappings, represents, .refl mappings⟩
  backing _ := Or.inl rfl

theorem keeps_setDesc (fd : Nat) (desc : FileDesc) :
    KeepsProcesses layout kernel (kernel.setDesc fd desc) :=
  kernel.keeps_setPcb layout rfl rfl rfl

theorem keeps_open (fs : FileSystem) (stale : StaleLocals)
    (filename : Option CString) :
    KeepsProcesses layout kernel (kernel.open fs stale filename).1 := by
  unfold «open»
  cases filename with
  | none => exact .refl layout kernel
  | some name =>
      dsimp only
      split
      · exact .refl layout kernel
      split
      · exact .refl layout kernel
      split
      · exact .refl layout kernel
      split
      · exact kernel.keeps_setDesc layout _ _
      split
      · exact kernel.keeps_setPcb layout rfl rfl rfl
      split
      · exact (kernel.keeps_setDesc layout _ _).trans
          (keeps_setDevices layout _ _).toKeepsProcesses
      · exact (kernel.keeps_setDesc layout _ _).trans
          (keeps_setDevices layout _ _).toKeepsProcesses

theorem keeps_closeOp (ops : FileOps) :
    KeepsProcesses layout kernel (kernel.closeOp ops).1 := by
  cases ops with
  | rtcOpsTbl => exact (kernel.keeps_setDevices layout _).toKeepsProcesses
  | fileOpsTbl => exact .refl layout kernel
  | dirOpsTbl => exact .refl layout kernel
  | stdinOpsTbl => exact (kernel.keeps_setDevices layout _).toKeepsProcesses
  | stdoutOpsTbl => exact (kernel.keeps_setDevices layout _).toKeepsProcesses
  | noFileOps => exact .refl layout kernel

theorem keeps_close (fd : Int) : KeepsProcesses layout kernel (kernel.close fd).1 := by
  unfold close
  split
  · exact .refl layout kernel
  split
  · exact .refl layout kernel
  dsimp only
  split
  · exact .refl layout kernel
  · exact (kernel.keeps_setDesc layout _ _).trans (keeps_closeOp layout _ _)

theorem keeps_readOp (fs : FileSystem) (stale : StaleLocals) (woken : Tty)
    (ops : FileOps) (fd : Nat) (buf : UserBuffer) (nbytes : Int) :
    KeepsProcesses layout kernel
      (kernel.readOp fs stale woken ops fd buf nbytes).1 := by
  cases ops with
  | rtcOpsTbl => exact (kernel.keeps_setDevices layout _).toKeepsProcesses
  | fileOpsTbl => exact kernel.keeps_setDesc layout _ _
  | dirOpsTbl =>
      simp only [readOp, dirRead]
      split
      · exact kernel.keeps_setDesc layout _ _
      · exact kernel.keeps_setDesc layout _ _
  | stdinOpsTbl => exact (kernel.keeps_setTty layout woken).toKeepsProcesses
  | stdoutOpsTbl => exact .refl layout kernel
  | noFileOps => exact .refl layout kernel

theorem keeps_read (fs : FileSystem) (stale : StaleLocals) (woken : Tty) (fd : Int)
    (buf : Option UserBuffer) (nbytes : Int) :
    KeepsProcesses layout kernel (kernel.read fs stale woken fd buf nbytes).1 := by
  unfold read
  cases buf with
  | none => exact .refl layout kernel
  | some memory =>
      dsimp only
      split
      · exact .refl layout kernel
      split
      · exact .refl layout kernel
      · exact kernel.keeps_readOp layout fs stale woken _ _ _ _

theorem keeps_writeOp (stale : StaleLocals) (ops : FileOps) (buf : CString)
    (nbytes : Int) :
    KeepsProcesses layout kernel (kernel.writeOp stale ops buf nbytes).1 := by
  cases ops with
  | rtcOpsTbl => exact (kernel.keeps_setDevices layout _).toKeepsProcesses
  | fileOpsTbl => exact .refl layout kernel
  | dirOpsTbl => exact .refl layout kernel
  | stdinOpsTbl => exact .refl layout kernel
  | stdoutOpsTbl => exact (kernel.keeps_setConsole layout _).toKeepsProcesses
  | noFileOps => exact .refl layout kernel

theorem keeps_write (stale : StaleLocals) (fd : Int) (buf : Option CString)
    (nbytes : Int) :
    KeepsProcesses layout kernel (kernel.write stale fd buf nbytes).1 := by
  unfold write
  cases buf with
  | none => exact .refl layout kernel
  | some bytes =>
      dsimp only
      split
      · exact .refl layout kernel
      split
      · exact .refl layout kernel
      · exact kernel.keeps_writeOp layout stale _ _ _

theorem keeps_fileCall (fs : FileSystem) (call : FileCall) :
    KeepsProcesses layout kernel (kernel.fileCall fs call).1 := by
  obtain ⟨request, stale⟩ := call
  cases request with
  | «open» filename => exact kernel.keeps_open layout fs stale filename
  | close fd => exact kernel.keeps_close layout fd
  | read fd buf nbytes woken =>
      exact kernel.keeps_read layout fs stale woken fd _ nbytes
  | write fd buf nbytes => exact kernel.keeps_write layout stale fd buf nbytes

theorem keeps_afterCopy (copied : Copied PhysicalMemory) :
    KeepsPcbs layout kernel (kernel.afterCopy copied) := by
  unfold afterCopy
  split
  · exact (kernel.keeps_setMem layout _).trans (keeps_fault layout _)
  · exact kernel.keeps_setMem layout _

theorem keeps_memcpy (dest src n : Nat) :
    KeepsPcbs layout kernel (kernel.memcpy layout dest src n) := by
  rw [memcpy]
  exact kernel.keeps_afterCopy layout _

variable {layout kernel} in
/-- A computation that stops at a page fault. -/
theorem keeps_unlessFaulting {Value : Type} {start : Kernel} (faulted : Value)
    {next : Kernel → Kernel × Value} (keeps : KeepsPcbs layout kernel start)
    (nextKeeps : KeepsPcbs layout kernel (next start).1) :
    KeepsPcbs layout kernel (start.unlessFaulting faulted next).1 := by
  unfold unlessFaulting
  split
  · exact keeps
  · exact nextKeeps

theorem keeps_terminalSave (id : Nat) :
    KeepsPcbs layout kernel (kernel.terminalSave layout id).1 := by
  unfold terminalSave
  split
  · exact .refl layout kernel
  · have saved := kernel.keeps_setTerminal layout id (kernel.savedTerminal id)
      (Or.inl rfl)
    exact (saved.trans (keeps_mapTermVID layout _ _)).trans
      (keeps_memcpy layout _ _ _ _)

theorem keeps_terminalRestore (id : Nat) :
    KeepsPcbs layout kernel (kernel.terminalRestore layout id).1 := by
  unfold terminalRestore
  split
  · exact .refl layout kernel
  · have placed : KeepsPcbs layout kernel
        (kernel.placeCursor (kernel.terminals id).x (kernel.terminals id).y) :=
      kernel.keeps_setConsole layout _
    have copied := (placed.trans (keeps_mapTermVID layout _ id)).trans
      (keeps_memcpy layout _ video (kernel.terminals id).termVidMem pageBytes4KB)
    exact keeps_unlessFaulting _ copied (copied.trans (keeps_setTty layout _ _))

theorem keeps_markLaunched (target : Nat) :
    KeepsPcbs layout kernel (kernel.markLaunched target) :=
  (kernel.keeps_setTerminal layout target
    { kernel.terminals target with isInUseFlag := true } (Or.inl rfl)).trans
      (keeps_setTty layout _ _)

theorem keeps_changeSaved (target : Nat) :
    KeepsPcbs layout kernel (kernel.changeSaved layout target).1 := by
  have restored := kernel.keeps_terminalRestore layout target
  apply keeps_unlessFaulting _ restored
  split
  · exact restored
  · exact restored.trans
      ((keeps_setTty layout _ _).trans (keeps_mapTermVID layout _ target))

theorem keeps_terminalChange (target : Nat) :
    KeepsPcbs layout kernel (kernel.terminalChange layout target).1 := by
  have saved := kernel.keeps_terminalSave layout kernel.tty.keyboard.curTermId
  unfold terminalChange
  split
  · exact .refl layout kernel
  apply keeps_unlessFaulting _ saved
  split
  · exact saved
  · exact saved.trans (keeps_changeSaved layout _ target)

theorem keeps_initTerminal (id : Nat) :
    KeepsPcbs layout kernel (initTerminal layout id kernel) := by
  unfold initTerminal
  split
  · exact .refl layout kernel
  · have fresh := kernel.keeps_setTerminal layout id (freshTerminal id) (Or.inr rfl)
    exact (fresh.trans (keeps_mapTermVID layout _ _)).trans
      (keeps_afterCopy layout _ _)

theorem keeps_selectFirst : KeepsPcbs layout kernel kernel.selectFirst :=
  (kernel.keeps_setTty layout _).trans
    ((keeps_setTty layout _ _).trans
      (keeps_setTerminal layout _ terminalId0
        { kernel.terminals terminalId0 with isInUseFlag := true } (Or.inl rfl)))

theorem keeps_prepareTerminals :
    KeepsPcbs layout kernel (kernel.prepareTerminals layout).1 := by
  have filled : KeepsPcbs layout kernel
      (forUpTo numTerm (initTerminal layout) kernel) := by
    apply forUpTo_invariant fun _ current => KeepsPcbs layout kernel current
    · exact .refl layout kernel
    · intro id _ current keeps
      exact keeps.trans (keeps_initTerminal layout current id)
  have restored := (filled.trans (keeps_selectFirst layout _)).trans
    (keeps_terminalRestore layout _ terminalId0)
  exact keeps_unlessFaulting _ filled
    (keeps_unlessFaulting _ restored (restored.trans (keeps_memcpy layout _ _ _ _)))

theorem keeps_vidmap (screenStart : Nat) :
    KeepsPcbs layout kernel (kernel.vidmap layout screenStart).1 := by
  unfold vidmap
  split
  · exact .refl layout kernel
  · have mapping : KeepsPcbs layout kernel
        (kernel.setPaging (kernel.paging.newUserVIDPage layout userImgEnd)) :=
      kernel.keeps_setPaging layout .newUserVIDPage (fun _ => by simp)
    exact mapping.trans (keeps_afterCopy layout _ _)

theorem keeps_userStore (linear : Nat) (value : UInt8) :
    KeepsPcbs layout kernel (kernel.userStore layout linear value) := by
  unfold userStore
  split
  · exact .refl layout kernel
  split
  · exact kernel.keeps_setMem layout _
  · exact .refl layout kernel

end Kernel

end ChapOS
