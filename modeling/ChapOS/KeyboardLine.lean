import ChapOS.InterruptMasks
import ChapOS.LaunchFailures
import ChapOS.Modifiers

/-!
# The keyboard's interrupt line

`keyboard_int_handler` masks its own line, and the tables of the terminal have a close
function that masks it too.  The handler unmasks the line whenever it returns, and before
it leaves for `halt` or `execute`; and `close` reaches the close function only through a
descriptor that `open` never makes.
-/

namespace ChapOS

open CountedLoops

/-- In `master_mask` neither the keyboard's line nor that of the slave is masked. -/
structure Devices.KeyboardServed (devices : Devices) : Prop where
  keyboard : ¬Masked devices keyboardIrq
  cascade : ¬Masked devices slaveIrq

namespace Devices

variable {devices after : Devices}

/-- A line below 8 depends on `master_mask` only. -/
theorem masked_congr (same : after.masterMask = devices.masterMask) {line : Nat}
    (low : line < 8) : Masked after line ↔ Masked devices line := by
  unfold Masked
  rw [if_pos low, if_pos low, same]

theorem KeyboardServed.congr (served : devices.KeyboardServed)
    (same : after.masterMask = devices.masterMask) : after.KeyboardServed where
  keyboard := by
    rw [masked_congr same (by decide)]
    exact served.keyboard
  cascade := by
    rw [masked_congr same (by decide)]
    exact served.cascade

theorem sendEoi_masterMask (devices : Devices) (irqNum : Nat) :
    (devices.sendEoi irqNum).masterMask = devices.masterMask := by
  unfold sendEoi
  split
  · rfl
  split <;> rfl

/-- The clock's line is one of the slave's. -/
theorem rtcWrite_masterMask (devices : Devices) (rate : Nat) (freq : Option (BitVec 32))
    (nbytes : Int) :
    (devices.rtcWrite rate freq nbytes).1.masterMask = devices.masterMask := by
  unfold rtcWrite
  dsimp only
  split
  · rfl
  cases freq with
  | none => rfl
  | some frequency =>
      dsimp only
      split
      · rfl
      split
      · rfl
      · rfl

/-- Unmasking a line masks none. -/
theorem not_masked_enableIrq (irqNum : BitVec 32) {line : Nat} (lineLt : line < 16)
    (unmasked : ¬Masked devices line) : ¬Masked (devices.enableIrq irqNum.toNat) line := by
  have called := masked_run devices (.enableIrq irqNum) lineLt
  rw [MaskCall.run] at called
  rw [called]
  split
  · exact Bool.false_ne_true
  · exact unmasked

/-- Unmasking the keyboard's line serves it, as long as the slave's is not masked. -/
theorem enableIrq_served (cascade : ¬Masked devices slaveIrq) :
    (devices.enableIrq keyboardIrq).KeyboardServed where
  keyboard := by
    have called := masked_run devices (.enableIrq 1) (show keyboardIrq < 16 by decide)
    rw [if_pos (show MaskCall.Names (.enableIrq 1) keyboardIrq from rfl)] at called
    exact fun masked => absurd (called.mp masked) Bool.false_ne_true
  cascade := not_masked_enableIrq 1 (by decide) cascade

/-- Masking the keyboard's line leaves the slave's. -/
theorem disableIrq_cascade (cascade : ¬Masked devices slaveIrq) :
    ¬Masked (devices.disableIrq keyboardIrq) slaveIrq := by
  have called := masked_run devices (.disableIrq 1) (show slaveIrq < 16 by decide)
  rw [if_neg (show ¬MaskCall.Names (.disableIrq 1) slaveIrq by decide)] at called
  exact fun masked => cascade (called.mp masked)

end Devices

/-- A descriptor whose close function masks the keyboard's line. -/
def FileDesc.ClosesKeyboard (desc : FileDesc) : Prop :=
  desc.flags = flagActive ∧
    (desc.fopsJmpTbPtr = .stdinOpsTbl ∨ desc.fopsJmpTbPtr = .stdoutOpsTbl)

/-- None of the descriptors that `close` closes is one of the terminal's. -/
def Pcb.SparesKeyboard (pcb : Pcb) : Prop :=
  ∀ fd, 2 ≤ fd → fd < 8 → ¬(pcb.fDescs fd).ClosesKeyboard

/-- So it is in all of PCB memory. -/
def Kernel.SparesKeyboard (kernel : Kernel) : Prop :=
  ∀ address, (kernel.pcbAt address).SparesKeyboard

theorem Pcb.SparesKeyboard.setDesc {pcb : Pcb} (spares : pcb.SparesKeyboard) (fd : Nat)
    {desc : FileDesc} (notTerminal : 2 ≤ fd → fd < 8 → ¬desc.ClosesKeyboard) :
    (pcb.setDesc fd desc).SparesKeyboard := by
  intro other low high
  by_cases same : other = fd
  · subst same
    rw [Pcb.setDesc_fDescs_self]
    exact notTerminal low high
  · rw [Pcb.setDesc_fDescs_of_ne _ _ same]
    exact spares other low high

namespace Kernel

/-- What every event keeps of the keyboard's line. -/
structure LineKept (kernel : Kernel) : Prop where
  served : kernel.devices.KeyboardServed
  spares : kernel.SparesKeyboard

section Line

variable {layout : KernelLayout} {fs : FileSystem} {kernel next : Kernel}

namespace LineKept

theorem congr (kept : kernel.LineKept)
    (masterMask : next.devices.masterMask = kernel.devices.masterMask)
    (pcbAt : next.pcbAt = kernel.pcbAt) : next.LineKept := by
  refine ⟨kept.served.congr masterMask, fun address => ?_⟩
  rw [pcbAt]
  exact kept.spares address

theorem setDevices (kept : kernel.LineKept) {devices : Devices}
    (served : devices.KeyboardServed) : (kernel.setDevices devices).LineKept :=
  ⟨served, kept.spares⟩

theorem setPcb (kept : kernel.LineKept) (address : Nat) {pcb : Pcb}
    (spares : pcb.SparesKeyboard) : (kernel.setPcb address pcb).LineKept := by
  refine ⟨kept.served, fun other => ?_⟩
  show (Function.update kernel.pcbAt address pcb other).SparesKeyboard
  rw [Function.update_apply]
  split
  · exact spares
  · exact kept.spares other

theorem setDesc (kept : kernel.LineKept) (fd : Nat) {desc : FileDesc}
    (notTerminal : 2 ≤ fd → fd < 8 → ¬desc.ClosesKeyboard) :
    (kernel.setDesc fd desc).LineKept :=
  kept.setPcb _ ((kept.spares _).setDesc fd notTerminal)

/-- `open` makes descriptors of files, directories and the clock. -/
theorem «open» (kept : kernel.LineKept) (fs : FileSystem) (stale : StaleLocals)
    (filename : Option CString) : (kernel.open fs stale filename).1.LineKept := by
  unfold Kernel.open
  cases filename with
  | none => exact kept
  | some name =>
      dsimp only
      split
      · exact kept
      split
      · exact kept
      cases freeSlot kernel.currentPcb with
      | none => exact kept
      | some fd =>
          dsimp only
          split
          · apply kept.setDesc
            rintro - - ⟨-, stdin | stdout⟩
            · exact nomatch stdin
            · exact nomatch stdout
          split
          · apply kept.setPcb
            apply Pcb.SparesKeyboard.setDesc
            · exact kept.spares kernel.getPcbPtr
            · rintro - - ⟨-, stdin | stdout⟩
              · exact nomatch stdin
              · exact nomatch stdout
          · rw [if_pos (show kernel.devices.rtcOpen.2 = 0 from rfl)]
            apply LineKept.setDevices
            · apply kept.setDesc
              rintro - - ⟨-, stdin | stdout⟩
              · exact nomatch stdin
              · exact nomatch stdout
            · exact kept.served.congr (kernel.devices.rtcWrite_masterMask 0 (some 2) 4)

/-- A read moves the position of its descriptor at most. -/
theorem read (kept : kernel.LineKept) (fs : FileSystem) (stale : StaleLocals)
    (woken : Tty) (fd : Int) (buf : Option UserBuffer) (nbytes : Int) :
    (kernel.read fs stale woken fd buf nbytes).1.LineKept := by
  unfold Kernel.read
  cases buf with
  | none => exact kept
  | some memory =>
      dsimp only
      split
      · exact kept
      split
      · exact kept
      have same := kept.spares kernel.getPcbPtr fd.toNat
      cases (kernel.currentPcb.fDescs fd.toNat).fopsJmpTbPtr with
      | rtcOpsTbl => exact kept.setDevices (kept.served.congr rfl)
      | fileOpsTbl => exact kept.setDesc fd.toNat same
      | dirOpsTbl =>
          unfold readOp dirRead
          dsimp only
          split
          · exact kept.setDesc fd.toNat same
          · exact kept.setDesc fd.toNat same
      | stdinOpsTbl => exact kept.congr rfl rfl
      | stdoutOpsTbl => exact kept
      | noFileOps => exact kept

theorem write (kept : kernel.LineKept) (stale : StaleLocals) (fd : Int)
    (buf : Option CString) (nbytes : Int) :
    (kernel.write stale fd buf nbytes).1.LineKept := by
  unfold Kernel.write
  cases buf with
  | none => exact kept
  | some bytes =>
      dsimp only
      split
      · exact kept
      split
      · exact kept
      cases (kernel.currentPcb.fDescs fd.toNat).fopsJmpTbPtr with
      | rtcOpsTbl =>
          exact kept.setDevices
            (kept.served.congr (kernel.devices.rtcWrite_masterMask _ _ _))
      | fileOpsTbl => exact kept
      | dirOpsTbl => exact kept
      | stdinOpsTbl => exact kept
      | stdoutOpsTbl => exact kept.congr rfl rfl
      | noFileOps => exact kept

/-- `close` closes no descriptor of the terminal. -/
theorem close (kept : kernel.LineKept) (fd : Int) : (kernel.close fd).1.LineKept := by
  unfold Kernel.close
  split
  · exact kept
  rename_i inTable
  split
  · exact kept
  rename_i notTerminal
  dsimp only
  split
  · exact kept
  rename_i active
  simp only [maxOpenFile, fdsStdinIdx, fdsStdoutIdx] at inTable notTerminal
  have spared : ¬(kernel.currentPcb.fDescs fd.toNat).ClosesKeyboard :=
    kept.spares kernel.getPcbPtr fd.toNat (by omega) (by omega)
  have closed : (kernel.setDesc fd.toNat
      { kernel.currentPcb.fDescs fd.toNat with flags := flagInactive }).LineKept := by
    apply kept.setDesc
    rintro - - ⟨active, -⟩
    exact Nat.zero_ne_one active
  generalize kernel.setDesc fd.toNat
    { kernel.currentPcb.fDescs fd.toNat with flags := flagInactive } = after at closed ⊢
  cases ops : (kernel.currentPcb.fDescs fd.toNat).fopsJmpTbPtr with
  | rtcOpsTbl =>
      exact closed.setDevices
        (closed.served.congr (after.devices.rtcWrite_masterMask 0 (some 2) 4))
  | fileOpsTbl => exact closed
  | dirOpsTbl => exact closed
  | stdinOpsTbl => exact absurd ⟨not_not.mp active, Or.inl ops⟩ spared
  | stdoutOpsTbl => exact absurd ⟨not_not.mp active, Or.inr ops⟩ spared
  | noFileOps => exact closed

theorem fileCall (kept : kernel.LineKept) (fs : FileSystem) (call : FileCall) :
    (kernel.fileCall fs call).1.LineKept := by
  obtain ⟨request, stale⟩ := call
  cases request with
  | «open» filename => exact kept.open fs stale filename
  | close fd => exact kept.close fd
  | read fd buf nbytes woken => exact kept.read fs stale woken fd _ nbytes
  | write fd buf nbytes => exact kept.write stale fd buf nbytes

/-- A new process has the terminal at 0 and 1, and above what its slot holds. -/
theorem execute (kept : kernel.LineKept) (layout : KernelLayout) (fs : FileSystem)
    (stale : StaleLocals) (command : Option (List UInt8)) :
    (kernel.execute layout fs stale command).1.LineKept := by
  have done := kernel.execute_cases layout fs stale command
  generalize kernel.execute layout fs stale command = result at done ⊢
  cases done with
  | refused bytes => exact kept.congr rfl rfl
  | headerFault bytes => exact kept.congr rfl rfl
  | loadFault bytes inode id program free faulted => exact kept.congr rfl rfl
  | started bytes inode id entryPoint arg program free loaded =>
      generalize ((kernel.print bytes).loadFor layout fs id inode).memory = mem
      refine ⟨kept.served, fun address fd low high => ?_⟩
      have pcbs := kernel.entered_pcbAt bytes id mem arg address
      rw [loadedFor] at pcbs
      rw [pcbs]
      split
      · rw [newPcb_files _ _ _ low]
        exact kept.spares (pcbAddress id) fd low high
      · exact kept.spares address fd low high

/-- `halt` closes all files of its process. -/
theorem leaveProcess (kept : kernel.LineKept) : kernel.leaveProcess.LineKept := by
  have closed : kernel.closeFiles.LineKept := by
    unfold closeFiles
    apply forUpTo_invariant fun _ (current : Kernel) => current.LineKept
    · exact kept.congr rfl rfl
    · intro i _ current before
      unfold haltSlot
      dsimp only
      apply LineKept.setDesc
      · split
        · exact before.close i
        · exact before
      · rintro - - ⟨-, stdin | stdout⟩
        · exact nomatch stdin
        · exact nomatch stdout
  exact closed.congr rfl rfl

theorem halt (kept : kernel.LineKept) (layout : KernelLayout) (fs : FileSystem)
    (stale : StaleLocals) (status : Nat) :
    (kernel.halt layout fs stale status).1.LineKept := by
  by_cases isRoot : kernel.activeProcNum = 0
  · rw [halt_of_root layout fs stale status isRoot, returnZero_kernel]
    exact kept.leaveProcess.execute layout fs stale shellCommand
  · rw [halt_of_child layout fs stale status isRoot]
    exact kept.leaveProcess.congr rfl rfl

end LineKept

/-- What the handler leaves when it is done with a key, from where the interrupt can be
finished. -/
structure Finishable (done : Kernel × Outcome) : Prop where
  spares : done.1.SparesKeyboard
  cascade : ¬Devices.Masked done.1.devices slaveIrq
  left : (∀ value, done.2 ≠ .returned value) → done.1.devices.KeyboardServed
  displayedLt : done.1.displayed < 3

theorem LineKept.finishable {outcome : Outcome} (kept : kernel.LineKept)
    (displayedLt : kernel.displayed < 3) : Finishable (kernel, outcome) :=
  ⟨kept.spares, kept.served.cascade, fun _ => kept.served, displayedLt⟩

/-- The end of the interrupt unmasks the line, unless control has left for good with the
line unmasked. -/
theorem Finishable.finishInterrupt {done : Kernel × Outcome} (finishable : Finishable done) :
    (Kernel.finishInterrupt done).1.LineKept ∧
      (Kernel.finishInterrupt done).1.displayed < 3 := by
  obtain ⟨spares, cascade, left, displayedLt⟩ := finishable
  obtain ⟨after, outcome⟩ := done
  have sent : ¬Devices.Masked (after.devices.sendEoi keyboardIrq) slaveIrq := by
    rw [Devices.masked_congr (Devices.sendEoi_masterMask _ _) (by decide)]
    exact cascade
  cases outcome with
  | returned value => exact ⟨⟨Devices.enableIrq_served sent, spares⟩, displayedLt⟩
  | running entryPoint => exact ⟨⟨left nofun, spares⟩, displayedLt⟩
  | resumed value => exact ⟨⟨left nofun, spares⟩, displayedLt⟩
  | pageFault => exact ⟨⟨left nofun, spares⟩, displayedLt⟩

end Line

section Frames

variable {layout : KernelLayout} {fs : FileSystem} {kernel next : Kernel}

/-- Neither the devices nor the PCBs have changed, and the same terminal is displayed. -/
structure SameLine (before after : Kernel) : Prop where
  devices : after.devices = before.devices
  pcbAt : after.pcbAt = before.pcbAt
  displayed : after.displayed = before.displayed

theorem afterCopy_sameLine (kernel : Kernel) (copied : Copied PhysicalMemory) :
    SameLine kernel (kernel.afterCopy copied) := by
  unfold afterCopy
  split
  · exact ⟨rfl, rfl, rfl⟩
  · exact ⟨rfl, rfl, rfl⟩

theorem memcpy_sameLine (layout : KernelLayout) (kernel : Kernel) (dest src n : Nat) :
    SameLine kernel (kernel.memcpy layout dest src n) := by
  rw [memcpy]
  exact afterCopy_sameLine kernel _

theorem terminalSave_sameLine (layout : KernelLayout) (kernel : Kernel) (id : Nat) :
    SameLine kernel (kernel.terminalSave layout id).1 := by
  unfold terminalSave
  split
  · exact ⟨rfl, rfl, rfl⟩
  · obtain ⟨devices, pcbAt, displayed⟩ := memcpy_sameLine layout
      ((kernel.setTerminal id (kernel.savedTerminal id)).mapTermVID layout id)
      (kernel.terminals id).termVidMem video pageBytes4KB
    exact ⟨devices, pcbAt, displayed⟩

theorem SameLine.restored {restored : Kernel} (same : SameLine kernel restored)
    (index : Nat) :
    SameLine kernel
      (restored.unlessFaulting (-1 : Int) fun copied =>
        (copied.setBufferIndex index, 0)).1 := by
  unfold unlessFaulting
  split
  · exact same
  · exact ⟨same.devices, same.pcbAt, same.displayed⟩

theorem terminalRestore_sameLine (layout : KernelLayout) (kernel : Kernel) (id : Nat) :
    SameLine kernel (kernel.terminalRestore layout id).1 := by
  unfold terminalRestore
  split
  · exact ⟨rfl, rfl, rfl⟩
  · have copied := memcpy_sameLine layout ((kernel.placeCursor (kernel.terminals id).x
      (kernel.terminals id).y).mapTermVID layout id) video (kernel.terminals id).termVidMem
        pageBytes4KB
    exact @SameLine.restored kernel _ ⟨copied.devices, copied.pcbAt, copied.displayed⟩ _

theorem vidmap_sameLine (layout : KernelLayout) (kernel : Kernel) (screenStart : Nat) :
    SameLine kernel (kernel.vidmap layout screenStart).1 := by
  unfold vidmap
  split
  · exact ⟨rfl, rfl, rfl⟩
  · obtain ⟨devices, pcbAt, displayed⟩ := afterCopy_sameLine
      (kernel.setPaging (kernel.paging.newUserVIDPage layout userImgEnd)) _
    exact ⟨devices, pcbAt, displayed⟩

theorem userStore_sameLine (layout : KernelLayout) (kernel : Kernel) (linear : Nat)
    (value : UInt8) : SameLine kernel (kernel.userStore layout linear value) := by
  unfold userStore
  split
  · exact ⟨rfl, rfl, rfl⟩
  split
  · exact ⟨rfl, rfl, rfl⟩
  · exact ⟨rfl, rfl, rfl⟩

theorem prepareTerminals_devices (layout : KernelLayout) (kernel : Kernel) :
    (kernel.prepareTerminals layout).1.devices = kernel.devices := by
  have filled : (forUpTo numTerm (initTerminal layout) kernel).devices =
      kernel.devices := by
    apply forUpTo_invariant fun _ (current : Kernel) => current.devices = kernel.devices
    · rfl
    · intro id _ current before
      unfold initTerminal
      split
      · exact before
      · rw [colorScreen, (afterCopy_sameLine _ _).devices]
        exact before
  unfold prepareTerminals
  apply Ignores.unlessFaulting _ filled
  have restored := (terminalRestore_sameLine layout (forUpTo numTerm (initTerminal layout)
    kernel).selectFirst terminalId0).devices.trans filled
  unfold displayFirst
  apply Ignores.unlessFaulting _ restored
  dsimp only
  rw [(memcpy_sameLine layout _ _ _ _).devices]
  exact restored

theorem execute_displayed (layout : KernelLayout) (fs : FileSystem) (kernel : Kernel)
    (stale : StaleLocals) (command : Option (List UInt8)) :
    (kernel.execute layout fs stale command).1.displayed = kernel.displayed := by
  have done := kernel.execute_cases layout fs stale command
  generalize kernel.execute layout fs stale command = result at done ⊢
  cases done <;> rfl

theorem halt_displayed (layout : KernelLayout) (fs : FileSystem) (kernel : Kernel)
    (stale : StaleLocals) (status : Nat) :
    (kernel.halt layout fs stale status).1.displayed = kernel.displayed := by
  have left : kernel.leaveProcess.displayed = kernel.displayed :=
    congrArg (fun tty : Tty => tty.keyboard.curTermId) kernel.leaveProcess_sameInput.2
  by_cases isRoot : kernel.activeProcNum = 0
  · rw [halt_of_root layout fs stale status isRoot, returnZero_kernel, execute_displayed]
    exact left
  · rw [halt_of_child layout fs stale status isRoot]
    exact left

theorem halt_represents (represents : ∃ mappings,
      kernel.paging.Represents layout mappings) (fs : FileSystem) (stale : StaleLocals)
    (status : Nat) :
    ∃ mappings, (kernel.halt layout fs stale status).1.paging.Represents layout
      mappings := by
  obtain ⟨mappings, represents⟩ := represents
  obtain ⟨left, leftRepresents, -⟩ := (kernel.leaves layout).mappings mappings represents
  by_cases isRoot : kernel.activeProcNum = 0
  · rw [halt_of_root layout fs stale status isRoot, returnZero_kernel]
    exact execute_represents ⟨left, leftRepresents⟩ fs stale shellCommand
  · rw [halt_of_child layout fs stale status isRoot]
    exact ⟨left, leftRepresents⟩

/-- The tables represent some mappings after every event. -/
theorem handle_represents (represents : ∃ mappings,
      kernel.paging.Represents layout mappings) (fs : FileSystem) (event : Event) :
    ∃ mappings, (kernel.handle layout fs event).1.paging.Represents layout mappings := by
  have done := handle_cases layout fs kernel event
  generalize kernel.handle layout fs event = result at done ⊢
  have kept {after : Kernel} (keeps : KeepsProcesses layout kernel after) :
      ∃ mappings, after.paging.Represents layout mappings := by
    obtain ⟨mappings, represents⟩ := represents
    obtain ⟨next, represented, -⟩ := keeps.mappings mappings represents
    exact ⟨next, represented⟩
  have moved (esp ebp : Nat) (userMode : Bool) : ∃ mappings,
      ({ kernel with esp := esp, ebp := ebp, userMode := userMode } :
        Kernel).paging.Represents layout mappings := represents
  cases done with
  | trap isTrap => exact moved kernel.trapStack kernel.ebp false
  | iret isIret => exact moved kernel.esp kernel.ebp true
  | moveStack esp ebp isMove => exact moved esp ebp kernel.userMode
  | fileCall request stale left isCall pauses =>
      exact kept (kernel.keeps_fileCall layout fs ⟨request.wokenIn kernel.tty, stale⟩)
  | keeps after paused keeps pauses => exact kept keeps.toKeepsProcesses
  | execute start middle devices left starts slot keeps alike =>
      exact execute_represents (kept keeps.toKeepsProcesses) fs start.stale start.command
  | halt stale status middle devices left halts restarts keeps alike =>
      exact halt_represents (kept keeps.toKeepsProcesses) fs stale status

end Frames

end Kernel

/-- No key changes which terminal is displayed by itself. -/
theorem Tty.handleKey_displayed (tty : Tty) (key : Nat) :
    (tty.handleKey key).1.keyboard.curTermId = tty.keyboard.curTermId := by
  apply @handleKey_cases fun handled =>
    handled.1.keyboard.curTermId = tty.keyboard.curTermId
  · intro mode ctrl alt
    rfl
  · rfl
  · unfold pressBskp
    split
    · rfl
    · rfl
  · intro id _
    rfl
  · unfold pressOtherKey
    split
    · rfl
    dsimp only
    split
    · rfl
    split
    · split
      · rfl
      · rfl
    · split
      · split
        · rfl
        · rfl
      · split
        · rfl
        · rfl

namespace Kernel

section Events

variable {layout : KernelLayout} {fs : FileSystem} {boot kernel next : Kernel}
  {event : Event} {outcome : Outcome}

/-- The kernel where `press_other_key` calls `halt`. -/
def haltPoint (kernel : Kernel) (key : Nat) : Kernel :=
  ((kernel.setDevices (kernel.devices.disableIrq keyboardIrq)).setTty
    (kernel.tty.handleKey key).1).setDevices
      (((kernel.devices.disableIrq keyboardIrq).sendEoi keyboardIrq).enableIrq keyboardIrq)

theorem keyboard_of_halt (stale : StaleLocals) {key : Nat}
    (halts : (kernel.tty.handleKey key).2 = .halt) :
    kernel.keyboardIntHandler layout fs stale key =
      finishInterrupt ((kernel.haltPoint key).halt layout fs stale 0) := by
  rw [keyboardIntHandler_eq, halts]
  rfl

theorem keyboard_of_terminalLoS (stale : StaleLocals) {key id : Nat}
    (requested : kernel.tty.handleKey key = (kernel.tty, .terminalLoS id)) :
    kernel.keyboardIntHandler layout fs stale key =
      finishInterrupt (kernel.requesting.terminalLoS layout fs stale id) := by
  rw [keyboardIntHandler_eq, requested]
  rfl

/-- A request for a terminal masks nothing, and `terminal_launch` unmasks the line before
its call of `execute`. -/
theorem terminalLoS_finishable (mapped : ScreensMapped layout kernel)
    (running : kernel.faulting = false) (spares : kernel.SparesKeyboard)
    (cascade : ¬Devices.Masked kernel.devices slaveIrq) (fs : FileSystem)
    (stale : StaleLocals) (target : Nat) :
    Finishable (kernel.terminalLoS layout fs stale target) := by
  unfold terminalLoS
  split
  · exact ⟨spares, cascade, fun left => absurd rfl (left (-1)), mapped.displayedLt⟩
  rename_i inRange
  have targetLt : target < 3 := Nat.lt_of_not_le inRange
  split
  · exact ⟨spares, cascade, fun left => absurd rfl (left 0), mapped.displayedLt⟩
  rename_i different
  split
  · rw [terminalChange_eq mapped running targetLt]
    exact ⟨spares, cascade, fun left => absurd rfl (left 0), targetLt⟩
  · have launching : (kernel.launching layout target).LineKept :=
      ⟨Devices.enableIrq_served cascade, spares⟩
    have executed := launching.execute layout fs stale shellCommand
    have displayed := execute_displayed layout fs (kernel.launching layout target) stale
      shellCommand
    rw [launching_displayed] at displayed
    rw [terminalLaunch_eq mapped running targetLt different fs stale]
    generalize (kernel.launching layout target).execute layout fs stale shellCommand = done
      at executed displayed ⊢
    have same := returnZero_kernel done
    generalize returnZero done = left at same ⊢
    obtain ⟨after, outcome⟩ := left
    subst same
    exact executed.finishable (by omega)

/-- What holds of the keyboard's line in every state after `init_terminals`. -/
structure KeyboardKept (layout : KernelLayout) (kernel : Kernel) : Prop
    extends LineKept kernel, ScreensMapped layout kernel

namespace KeyboardKept

/-- The handler masks the line while it runs. -/
theorem handling (kept : KeyboardKept layout kernel) :
    ¬Devices.Masked ((kernel.devices.disableIrq keyboardIrq).sendEoi keyboardIrq)
      slaveIrq := by
  rw [Devices.masked_congr (Devices.sendEoi_masterMask _ _) (by decide)]
  exact Devices.disableIrq_cascade kept.served.cascade

theorem haltPoint (kept : KeyboardKept layout kernel) (key : Nat) :
    (kernel.haltPoint key).LineKept :=
  ⟨Devices.enableIrq_served kept.handling, kept.spares⟩

theorem keyboard (kept : KeyboardKept layout kernel) (running : kernel.faulting = false)
    (fs : FileSystem) (stale : StaleLocals) (key : Nat) :
    (kernel.keyboardIntHandler layout fs stale key).1.LineKept ∧
      (kernel.keyboardIntHandler layout fs stale key).1.displayed < 3 := by
  have edited : (kernel.tty.handleKey key).1.keyboard.curTermId < 3 := by
    rw [Tty.handleKey_displayed]
    exact kept.displayedLt
  cases action : (kernel.tty.handleKey key).2 with
  | done =>
      rw [keyboardIntHandler_eq, action]
      apply Finishable.finishInterrupt
      exact ⟨kept.spares, Devices.disableIrq_cascade kept.served.cascade,
        fun left => absurd rfl (left 0), edited⟩
  | halt =>
      rw [keyboard_of_halt stale action]
      apply Finishable.finishInterrupt
      apply ((kept.haltPoint key).halt layout fs stale 0).finishable
      rw [halt_displayed]
      exact edited
  | terminalLoS id =>
      obtain ⟨requested, -⟩ := Tty.handleKey_of_terminalLoS action
      rw [keyboard_of_terminalLoS stale requested]
      apply Finishable.finishInterrupt
      have mapped : ScreensMapped layout kernel.requesting :=
        ⟨kept.represents, kept.backing, kept.displayedLt⟩
      exact terminalLoS_finishable mapped running kept.spares kept.handling fs stale id

end KeyboardKept

/-- `init_terminals` displays the first terminal, whatever was displayed before. -/
theorem LineKept.initTerminals (kept : kernel.LineKept) (represents : ∃ mappings,
      kernel.paging.Represents layout mappings) (running : kernel.faulting = false)
    (fs : FileSystem) (stale : StaleLocals) :
    (kernel.initTerminals layout fs stale).1.LineKept ∧
      (kernel.initTerminals layout fs stale).1.displayed < 3 := by
  obtain ⟨mappings, represents⟩ := represents
  have prepared := prepareTerminals_prepared represents running
  have ready : (kernel.prepareTerminals layout).1.LineKept := by
    apply kept.congr
    · rw [prepareTerminals_devices]
    · exact (kernel.keeps_prepareTerminals layout).pcbAt
  rw [initTerminals_eq fs stale prepared, returnZero_kernel]
  refine ⟨ready.execute layout fs stale shellCommand, ?_⟩
  have displayed : (kernel.prepareTerminals layout).1.displayed = 0 := prepared.curTermId
  rw [execute_displayed]
  omega

namespace KeyboardKept

theorem moves (kept : KeyboardKept layout kernel) (esp ebp : Nat) (userMode : Bool) :
    ({ kernel with esp := esp, ebp := ebp, userMode := userMode } : Kernel).LineKept ∧
      ({ kernel with esp := esp, ebp := ebp, userMode := userMode } :
        Kernel).displayed < 3 :=
  ⟨kept.toLineKept.congr rfl rfl, kept.displayedLt⟩

theorem of_sameLine (kept : KeyboardKept layout kernel) (same : SameLine kernel next) :
    next.LineKept ∧ next.displayed < 3 := by
  refine ⟨kept.toLineKept.congr ?_ same.pcbAt, ?_⟩
  · rw [same.devices]
  · rw [same.displayed]
    exact kept.displayedLt

/-- Every step keeps the line unmasked. -/
theorem step (kept : KeyboardKept layout kernel)
    (step : kernel.Step layout fs (event, outcome) next) : KeyboardKept layout next := by
  have represents := handle_represents kept.represents fs event
  have backing := kept.backing.step step
  obtain ⟨admits, handled⟩ := step
  have line : (kernel.handle layout fs event).1.LineKept ∧
      (kernel.handle layout fs event).1.displayed < 3 := by
    cases event with
    | trap => exact kept.moves kernel.trapStack kernel.ebp false
    | iret => exact kept.moves kernel.esp kernel.ebp true
    | moveStack esp ebp => exact kept.moves esp ebp kernel.userMode
    | initTerminals stale =>
        exact kept.toLineKept.initTerminals kept.represents admits.1 fs stale
    | execute command stale =>
        refine ⟨kept.toLineKept.execute layout fs stale command, ?_⟩
        show (kernel.execute layout fs stale command).1.displayed < 3
        rw [execute_displayed]
        exact kept.displayedLt
    | halt status stale =>
        refine ⟨kept.toLineKept.halt layout fs stale status, ?_⟩
        show (kernel.halt layout fs stale status).1.displayed < 3
        rw [halt_displayed]
        exact kept.displayedLt
    | exception message stale =>
        have printed : (({ kernel with faulting := false } : Kernel).print
            message).LineKept := kept.toLineKept.congr rfl rfl
        refine ⟨printed.halt layout fs stale exceptRetval, ?_⟩
        show (Kernel.halt layout fs stale _ exceptRetval).1.displayed < 3
        rw [halt_displayed]
        exact kept.displayedLt
    | fileCall request stale =>
        refine ⟨kept.toLineKept.fileCall fs ⟨request.wokenIn kernel.tty, stale⟩, ?_⟩
        show (kernel.fileCall fs ⟨request.wokenIn kernel.tty, stale⟩).1.displayed < 3
        rw [displayed, fileCall_keyboard]
        exact kept.displayedLt
    | vidmap screenStart => exact kept.of_sameLine (vidmap_sameLine layout kernel screenStart)
    | keyboard key stale => exact kept.keyboard admits.1 fs stale key
    | rtcInterrupt =>
        refine ⟨kept.toLineKept.setDevices (kept.served.congr ?_), kept.displayedLt⟩
        exact (Devices.sendEoi_masterMask _ _)
    | pitInterrupt =>
        refine ⟨kept.toLineKept.setDevices (kept.served.congr ?_), kept.displayedLt⟩
        exact Devices.sendEoi_masterMask kernel.devices pitIrq
    | print bytes => exact kept.of_sameLine ⟨rfl, rfl, rfl⟩
    | terminalSave id => exact kept.of_sameLine (terminalSave_sameLine layout kernel id)
    | terminalRestore id =>
        exact kept.of_sameLine (terminalRestore_sameLine layout kernel id)
    | userStore linear value =>
        exact kept.of_sameLine (userStore_sameLine layout kernel linear value)
  rw [handled] at represents line
  exact ⟨line.1, represents, backing, line.2⟩

end KeyboardKept

/-- `entry` unmasks both lines. -/
theorem Boots.served (booted : boot.Boots layout) : boot.devices.KeyboardServed := by
  obtain ⟨start, report, -, rfl⟩ := booted
  have cascade (devices : Devices) : ¬Devices.Masked devices.i8259Init slaveIrq := by
    have called := masked_run
      { devices with
        master := (((devices.master.writeCommand icw1).writeData icw2Master).writeData
          icw3Master).writeData icw4
        slave := (((devices.slave.writeCommand icw1).writeData icw2Slave).writeData
          icw3Slave).writeData icw4 } (.enableIrq 2) (show slaveIrq < 16 by decide)
    rw [if_pos (show MaskCall.Names (.enableIrq 2) slaveIrq from rfl)] at called
    exact fun masked => absurd (called.mp masked) Bool.false_ne_true
  apply Devices.enableIrq_served
  apply Devices.not_masked_enableIrq 0 (by decide)
  apply Devices.not_masked_enableIrq 8 (by decide)
  exact cascade start.devices

end Events

end Kernel

end ChapOS
