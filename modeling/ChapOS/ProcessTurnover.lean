import ChapOS.KernelViews
import ChapOS.ProcessStack

/-!
# What a process finds in its PCB and leaves there

`execute` takes over the PCB of an earlier process and sets up its first two
descriptors only; `halt` closes whatever is open in the PCB that ESP points to,
and resets the clock when it closes one of the clock's descriptors.
-/

namespace ChapOS

open CountedLoops

/-- No file is open. -/
def Pcb.Idle (pcb : Pcb) : Prop :=
  ∀ fd, 2 ≤ fd → fd < 8 → (pcb.fDescs fd).flags ≠ flagActive

/-- The descriptor is open on the clock. -/
def FileDesc.IsClock (desc : FileDesc) : Prop :=
  desc.flags = flagActive ∧ desc.fopsJmpTbPtr = .rtcOpsTbl

instance (desc : FileDesc) : Decidable desc.IsClock :=
  inferInstanceAs (Decidable (_ ∧ _))

theorem Pcb.HasTerminal.not_isClock {pcb : Pcb} (terminal : pcb.HasTerminal) {fd : Nat}
    (low : fd < 2) (isClock : (pcb.fDescs fd).IsClock) : False := by
  obtain ⟨-, ops⟩ := isClock
  rcases show fd = 0 ∨ fd = 1 by omega with rfl | rfl
  · rw [terminal.stdin.2] at ops
    exact nomatch ops
  · rw [terminal.stdout.2] at ops
    exact nomatch ops

/-- Register A of the clock at 2 Hz. -/
def idleRate (regA : UInt8) : UInt8 :=
  (regA &&& 0xF0) ||| 0x0F

theorem idleRate_idleRate (regA : UInt8) : idleRate (idleRate regA) = idleRate regA := by
  cases regA with
  | ofBitVec bits =>
      apply UInt8.eq_of_toBitVec_eq
      show (bits &&& 0xF0 ||| 0x0F) &&& 0xF0 ||| 0x0F = bits &&& 0xF0 ||| (0x0F : BitVec 8)
      revert bits
      decide

section Halt

namespace Kernel

/-- `close` refuses the two descriptors of the terminal. -/
theorem close_of_terminal (kernel : Kernel) {i : Nat} (terminal : i < 2) :
    (kernel.close i).1 = kernel := by
  rw [close, if_neg (by simp only [maxOpenFile]; omega), if_pos]
  simp only [fdsStdinIdx, fdsStdoutIdx]
  omega

/-- One turn of the loop in `halt` closes its descriptor, and leaves the others
as they are. -/
theorem haltSlot_desc (i : Nat) (iLt : i < 8) (kernel : Kernel) :
    (2 ≤ i →
      ((haltSlot i kernel).currentPcb.fDescs i).flags ≠ flagActive) ∧
    ∀ fd, fd ≠ i →
      (haltSlot i kernel).currentPcb.fDescs fd = kernel.currentPcb.fDescs fd := by
  unfold haltSlot
  dsimp only
  split
  · rename_i active
    by_cases low : 2 ≤ i
    · have closed := kernel.close_of_active (show 2 ≤ (i : Int) by omega) (by omega) active
      rw [closed]
      refine ⟨fun _ => ?_, fun fd different => ?_⟩
      · rw [setDesc_currentPcb, Pcb.setDesc_fDescs_self, closeOp_currentPcb,
          setDesc_currentPcb, Int.toNat_natCast, Pcb.setDesc_fDescs_self]
        exact Nat.zero_ne_one
      · rw [setDesc_currentPcb, Pcb.setDesc_fDescs_of_ne _ _ different,
          closeOp_currentPcb, setDesc_currentPcb,
          Pcb.setDesc_fDescs_of_ne _ _ (by omega)]
    · refine ⟨fun isFile => absurd isFile low, fun fd different => ?_⟩
      rw [close_of_terminal kernel (by omega), setDesc_currentPcb,
        Pcb.setDesc_fDescs_of_ne _ _ different]
  · rename_i inactive
    refine ⟨fun _ => ?_, fun fd different => ?_⟩
    · rw [setDesc_currentPcb, Pcb.setDesc_fDescs_self]
      exact inactive
    · rw [setDesc_currentPcb, Pcb.setDesc_fDescs_of_ne _ _ different]

theorem closeOp_rtcRegA (kernel : Kernel) (ops : FileOps) :
    (kernel.closeOp ops).1.devices.rtcRegA =
      if ops = .rtcOpsTbl then idleRate kernel.devices.rtcRegA
      else kernel.devices.rtcRegA := by
  cases ops <;> rfl

/-- One turn of the loop resets the clock if it closes one of its descriptors. -/
theorem haltSlot_rtcRegA (i : Nat) (iLt : i < 8) (kernel : Kernel) :
    (haltSlot i kernel).devices.rtcRegA =
      if 2 ≤ i ∧ (kernel.currentPcb.fDescs i).IsClock then
        idleRate kernel.devices.rtcRegA
      else kernel.devices.rtcRegA := by
  have unfolded : (haltSlot i kernel).devices.rtcRegA =
      (if (kernel.currentPcb.fDescs i).flags = flagActive then (kernel.close i).1
        else kernel).devices.rtcRegA := rfl
  rw [unfolded]
  by_cases active : (kernel.currentPcb.fDescs i).flags = flagActive
  · rw [if_pos active]
    by_cases low : 2 ≤ i
    · have closed := kernel.close_of_active (show 2 ≤ (i : Int) by omega) (by omega) active
      rw [closed, closeOp_rtcRegA, Int.toNat_natCast]
      by_cases isClock : (kernel.currentPcb.fDescs i).fopsJmpTbPtr = .rtcOpsTbl
      · rw [if_pos isClock, if_pos ⟨low, active, isClock⟩]
        rfl
      · rw [if_neg isClock, if_neg fun both => isClock both.2.2]
        rfl
    · rw [close_of_terminal kernel (by omega), if_neg fun both => low both.1]
  · rw [if_neg active, if_neg fun both => active both.2.1]

/-- What register A holds once the files of the current PCB are closed: it is
reset if one of them was the clock. -/
def RateLeft (kernel : Kernel) (regA : UInt8) : Prop :=
  ((∃ fd, 2 ≤ fd ∧ fd < 8 ∧ (kernel.currentPcb.fDescs fd).IsClock) ∧
    regA = idleRate kernel.devices.rtcRegA) ∨
  ((∀ fd, 2 ≤ fd → fd < 8 → ¬(kernel.currentPcb.fDescs fd).IsClock) ∧
    regA = kernel.devices.rtcRegA)

theorem closeFiles_rateLeft (kernel : Kernel) :
    kernel.RateLeft kernel.closeFiles.devices.rtcRegA := by
  have closed : (∀ fd, maxFiles ≤ fd → kernel.closeFiles.currentPcb.fDescs fd =
      kernel.currentPcb.fDescs fd) ∧
      (((∃ fd, 2 ≤ fd ∧ fd < maxFiles ∧ (kernel.currentPcb.fDescs fd).IsClock) ∧
        kernel.closeFiles.devices.rtcRegA = idleRate kernel.devices.rtcRegA) ∨
      ((∀ fd, 2 ≤ fd → fd < maxFiles → ¬(kernel.currentPcb.fDescs fd).IsClock) ∧
        kernel.closeFiles.devices.rtcRegA = kernel.devices.rtcRegA)) := by
    unfold closeFiles
    refine forUpTo_invariant (fun count (current : Kernel) =>
      (∀ fd, count ≤ fd →
        current.currentPcb.fDescs fd = kernel.currentPcb.fDescs fd) ∧
      (((∃ fd, 2 ≤ fd ∧ fd < count ∧ (kernel.currentPcb.fDescs fd).IsClock) ∧
        current.devices.rtcRegA = idleRate kernel.devices.rtcRegA) ∨
      ((∀ fd, 2 ≤ fd → fd < count → ¬(kernel.currentPcb.fDescs fd).IsClock) ∧
        current.devices.rtcRegA = kernel.devices.rtcRegA))) ?_ ?_
    · exact ⟨fun _ _ => rfl, Or.inr ⟨fun fd _ below => absurd below (by omega), rfl⟩⟩
    · rintro i iLt current ⟨later, before⟩
      have own := later i (Nat.le_refl i)
      have others := (haltSlot_desc i iLt current).2
      refine ⟨fun fd above => ?_, ?_⟩
      · rw [others fd (by omega), later fd (by omega)]
      rw [haltSlot_rtcRegA i iLt current, own]
      by_cases isClock : 2 ≤ i ∧ (kernel.currentPcb.fDescs i).IsClock
      · rw [if_pos isClock]
        refine Or.inl ⟨⟨i, isClock.1, by omega, isClock.2⟩, ?_⟩
        rcases before with ⟨-, rate⟩ | ⟨-, rate⟩
        · rw [rate, idleRate_idleRate]
        · rw [rate]
      · rw [if_neg isClock]
        rcases before with ⟨⟨fd, low, below, found⟩, rate⟩ | ⟨none, rate⟩
        · exact Or.inl ⟨⟨fd, low, by omega, found⟩, rate⟩
        · refine Or.inr ⟨fun fd low below found => ?_, rate⟩
          by_cases last : fd = i
          · exact isClock (last ▸ ⟨low, found⟩)
          · exact none fd low (by omega) found
  exact closed.2

/-- `halt` leaves no file of the current PCB open. -/
theorem closeFiles_idle (kernel : Kernel) : kernel.closeFiles.currentPcb.Idle := by
  have closed : ∀ fd, 2 ≤ fd → fd < maxFiles →
      (kernel.closeFiles.currentPcb.fDescs fd).flags ≠ flagActive := by
    unfold closeFiles
    refine forUpTo_invariant
      (fun count (current : Kernel) => ∀ fd, 2 ≤ fd → fd < count →
        (current.currentPcb.fDescs fd).flags ≠ flagActive) ?_ ?_
    · intro fd _ below
      omega
    · intro i iLt current before fd low below
      obtain ⟨own, others⟩ := haltSlot_desc i iLt current
      by_cases last : fd = i
      · subst last
        exact own low
      · rw [others fd last]
        exact before fd low (by omega)
  exact fun fd low high => closed fd low high

/-- One turn of the loop resets the operation table of its descriptor. -/
theorem haltSlot_ops (i : Nat) (kernel : Kernel) :
    ((haltSlot i kernel).currentPcb.fDescs i).fopsJmpTbPtr = .noFileOps := by
  unfold haltSlot
  dsimp only
  rw [setDesc_currentPcb, Pcb.setDesc_fDescs_self]

theorem closeFiles_ops (kernel : Kernel) {fd : Nat} (inTable : fd < 8) :
    (kernel.closeFiles.currentPcb.fDescs fd).fopsJmpTbPtr = .noFileOps := by
  have closed : ∀ fd < maxFiles,
      (kernel.closeFiles.currentPcb.fDescs fd).fopsJmpTbPtr = .noFileOps := by
    unfold closeFiles
    refine forUpTo_invariant
      (fun count (current : Kernel) => ∀ fd < count,
        (current.currentPcb.fDescs fd).fopsJmpTbPtr = .noFileOps) ?_ ?_
    · intro fd below
      omega
    · intro i iLt current before fd below
      by_cases last : fd = i
      · subst last
        exact haltSlot_ops fd current
      · rw [(haltSlot_desc i iLt current).2 fd last]
        exact before fd (by omega)
  exact closed fd inTable

/-- When the running process has been left, its own PCB is idle, and no other PCB
has changed. -/
theorem leaveProcess_pcbs (layout : KernelLayout) (kernel : Kernel) :
    (kernel.leaveProcess.pcbAt kernel.getPcbPtr).Idle ∧
      ∀ address, address ≠ kernel.getPcbPtr →
        kernel.leaveProcess.pcbAt address = kernel.pcbAt address := by
  have keeps := kernel.keeps_closeFiles layout
  have idle := kernel.closeFiles_idle
  rw [Kernel.currentPcb, keeps.getPcbPtr] at idle
  exact ⟨idle, keeps.otherPcbs⟩

/-- Whether a page fault is pending, and what the keyboard holds. -/
def SameInput (before after : Kernel) : Prop :=
  after.faulting = before.faulting ∧ after.tty = before.tty

theorem leaveProcess_sameInput (kernel : Kernel) :
    kernel.SameInput kernel.leaveProcess :=
  ⟨ignoresCalls_faulting.closeFiles kernel, ignoresCalls_tty.closeFiles kernel⟩

end Kernel

end Halt

/-- The argument of `halt` in an event that halts. -/
def haltStatus : Event → Nat
  | .halt status _ => status
  | .exception _ _ => exceptRetval
  | _ => 0

namespace Kernel

/-- `execute` never ends like a `halt` that goes back to a parent. -/
theorem execute_not_resumed (layout : KernelLayout) (fs : FileSystem) (kernel : Kernel)
    (stale : StaleLocals) (command : Option (List UInt8)) (value : Nat) :
    ¬(kernel.execute layout fs stale command).2.Alike (.resumed value) := by
  have done := kernel.execute_cases layout fs stale command
  generalize kernel.execute layout fs stale command = result at done ⊢
  cases done with
  | refused bytes => exact nofun
  | headerFault bytes => exact nofun
  | loadFault bytes inode taken program free faulted => exact nofun
  | started bytes inode taken entryPoint arg program free loaded => exact nofun

/-- A process other than 0 that halts, in whatever way, gives its parent the value
for its status. -/
theorem handle_halting (layout : KernelLayout) (fs : FileSystem) {kernel : Kernel}
    {event : Event} {stale : StaleLocals} (halts : kernel.halting event = some stale)
    (isChild : kernel.activeProcNum ≠ 0) :
    (kernel.handle layout fs event).2 =
      .resumed (haltValue layout.haltOperands (haltStatus event)) := by
  cases halts_of_halting halts with
  | halt status =>
      exact congrArg Prod.snd (halt_of_child layout fs stale status isChild)
  | exception message =>
      have printed : (Kernel.print { kernel with faulting := false }
        message).activeProcNum ≠ 0 := isChild
      exact congrArg Prod.snd (halt_of_child layout fs stale exceptRetval printed)
  | keyboard key ctrlC =>
      have unfolded : kernel.handle layout fs (.keyboard key stale) =
        kernel.keyboardIntHandler layout fs stale key := rfl
      have masked : ((kernel.setDevices
        (kernel.devices.disableIrq keyboardIrq)).tty.handleKey key).2 = .halt := ctrlC
      have resumes (start : Kernel) (same : start.activeProcNum = kernel.activeProcNum) :
          (finishInterrupt (start.halt layout fs stale 0)).2 =
            .resumed (haltValue layout.haltOperands 0) := by
        rw [halt_of_child layout fs stale 0 (same ▸ isChild)]
        rfl
      rw [unfolded, keyboardIntHandler]
      simp only [masked]
      exact resumes _ rfl

end Kernel

section Enter

variable {layout : KernelLayout} {fs : FileSystem} {kernel : Kernel}

/-- The process id that `gen_new_proc_id` finds is free. -/
theorem Kernel.flag_of_freeProcIdFrom {flags : Nat → Nat} {remaining i id : Nat}
    (free : Kernel.freeProcIdFrom flags remaining i = some id) :
    flags id = 0 ∧ i ≤ id ∧ id < i + remaining := by
  induction remaining generalizing i with
  | zero => exact nomatch free
  | succ remaining ih =>
      rw [Kernel.freeProcIdFrom] at free
      split at free
      · obtain rfl := Option.some.inj free
        exact ⟨by assumption, Nat.le_refl _, by omega⟩
      · obtain ⟨isFree, low, high⟩ := ih free
        exact ⟨isFree, by omega, by omega⟩

/-- Process `id` has been started from a kernel. -/
structure Entered (layout : KernelLayout) (kernel : Kernel) (id : Nat) (next : Kernel) :
    Prop where
  procIdFlags : next.procIdFlags = Function.update kernel.procIdFlags id 1
  activeProcNum : next.activeProcNum = id
  tssEsp0 : next.tssEsp0 = Kernel.kernelStackTop id
  userMode : next.userMode = true
  faulting : next.faulting = kernel.faulting
  devices : next.devices = kernel.devices
  keyboard : next.tty.keyboard = kernel.tty.keyboard
  represents : ∃ mappings, next.paging.Represents layout mappings
  otherPcbs : ∀ address, address ≠ pcbAddress id →
    next.pcbAt address = kernel.pcbAt address
  procNum : (next.pcbAt (pcbAddress id)).procNum = id
  parentProcNum : (next.pcbAt (pcbAddress id)).parentProcNum =
    if id = 0 then 0 else (kernel.pcbAt (pcbAddress (id - 1))).procNum
  ksp : (next.pcbAt (pcbAddress id)).ksp = kernel.esp
  terminal : (next.pcbAt (pcbAddress id)).HasTerminal
  files : ∀ fd, 2 ≤ fd → (next.pcbAt (pcbAddress id)).fDescs fd =
    (kernel.pcbAt (pcbAddress id)).fDescs fd

/-- `execute` sets up the two descriptors of the terminal. -/
theorem newPcb_fDescs (kernel : Kernel) (id : Nat) (arg : CString) :
    (kernel.newPcb id arg).fDescs =
      (((kernel.pcbAt (pcbAddress id)).setDesc 0
        { (kernel.pcbAt (pcbAddress id)).fDescs 0 with
          flags := flagActive, fopsJmpTbPtr := .stdinOpsTbl }).setDesc 1
        { (kernel.pcbAt (pcbAddress id)).fDescs 1 with
          flags := flagActive, fopsJmpTbPtr := .stdoutOpsTbl }).fDescs := by
  unfold Kernel.newPcb
  split <;> rfl

theorem newPcb_files (kernel : Kernel) (id : Nat) (arg : CString) {fd : Nat}
    (low : 2 ≤ fd) :
    (kernel.newPcb id arg).fDescs fd = (kernel.pcbAt (pcbAddress id)).fDescs fd := by
  rw [newPcb_fDescs, Pcb.setDesc_fDescs_of_ne _ _ (by omega),
    Pcb.setDesc_fDescs_of_ne _ _ (by omega)]

theorem newPcb_hasTerminal (kernel : Kernel) (id : Nat) (arg : CString) :
    (kernel.newPcb id arg).HasTerminal := by
  have different : (0 : Nat) ≠ 1 := Nat.zero_ne_one
  refine { stdin := ?_, stdout := ?_ }
  · rw [newPcb_fDescs, Pcb.setDesc_fDescs_of_ne _ _ different, Pcb.setDesc_fDescs_self]
    exact ⟨rfl, rfl⟩
  · rw [newPcb_fDescs, Pcb.setDesc_fDescs_self]
    exact ⟨rfl, rfl⟩

/-- A shell takes the first free process id, whatever the other slots hold. -/
theorem execute_shell_enters (represents : ∃ mappings,
      kernel.paging.Represents layout mappings)
    (shell : fs.HasShell) (stale : StaleLocals) {id : Nat}
    (free : kernel.freeProcId = some id) :
    ∃ entryPoint next,
      kernel.execute layout fs stale Kernel.shellCommand = (next, .running entryPoint) ∧
        Entered layout kernel id next := by
  obtain ⟨mappings, represents⟩ := represents
  obtain ⟨-, -, idLt⟩ := Kernel.flag_of_freeProcIdFrom free
  have idLe : id ≤ 6 := by
    simp only [maxProcesses] at idLt
    omega
  obtain ⟨inode, entryPoint, arg, -, started⟩ :=
    Kernel.execute_shell stale represents shell idLe free
  generalize (kernel.loadFor layout fs id inode).memory = mem at started
  have own : (((kernel.claimProcess id).setMem mem).enterProgram id arg).pcbAt
      (pcbAddress id) = ((kernel.claimProcess id).setMem mem).newPcb id arg :=
    Function.update_self _ _ _
  refine ⟨entryPoint, _, started, ?_⟩
  exact
    { procIdFlags := rfl
      activeProcNum := rfl
      tssEsp0 := rfl
      userMode := rfl
      faulting := rfl
      devices := rfl
      keyboard := rfl
      represents := ⟨_, Kernel.claimProcess_represents represents idLe⟩
      otherPcbs := fun address different => Function.update_of_ne different _ _
      procNum := by rw [own, Kernel.newPcb_procNum]
      parentProcNum := by rw [own, Kernel.newPcb_parentProcNum]; rfl
      ksp := by rw [own, Kernel.newPcb_ksp]; rfl
      terminal := by rw [own]; exact newPcb_hasTerminal _ _ _
      files := fun fd low => by rw [own, newPcb_files _ _ _ low]; rfl }

end Enter

end ChapOS
