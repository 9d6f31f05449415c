import ChapOS.SlotRuns

/-!
# The rate of the clock

The descriptor calls reach the clock's functions through a descriptor of the
clock, and closing one resets the rate; so the clock idles at 2 Hz while no live
process has one, unless a failed load has put the process slots out of order.
-/

namespace ChapOS

open CountedLoops

theorem idleRate_low (regA : UInt8) : idleRate regA &&& 0x0F = 0x0F := by
  cases regA with
  | ofBitVec bits =>
      apply UInt8.eq_of_toBitVec_eq
      show (bits &&& 0xF0 ||| 0x0F) &&& 0x0F = (0x0F : BitVec 8)
      revert bits
      decide

theorem idleRate_upper (regA : UInt8) : idleRate regA &&& 0xF0 = regA &&& 0xF0 :=
  Devices.upper_of_or regA 0x0F

/-- What a descriptor call does to the clock.  If it leaves no descriptor of the
clock in the current PCB, then it has reset the clock or found none. -/
structure ClockCall (kernel after : Kernel) : Prop where
  upper : after.devices.rtcRegA &&& 0xF0 = kernel.devices.rtcRegA &&& 0xF0
  terminal : ∀ fd < 2, (after.currentPcb.fDescs fd).fopsJmpTbPtr =
    (kernel.currentPcb.fDescs fd).fopsJmpTbPtr
  idle : (∀ fd < 8, ¬(after.currentPcb.fDescs fd).IsClock) →
    after.devices.rtcRegA &&& 0x0F = 0x0F ∨
      (after.devices.rtcRegA = kernel.devices.rtcRegA ∧
        ∀ fd < 8, ¬(kernel.currentPcb.fDescs fd).IsClock)

namespace ClockCall

variable {kernel after : Kernel}

/-- Neither the rate nor the descriptors change. -/
theorem of_same (rate : after.devices.rtcRegA = kernel.devices.rtcRegA)
    (pcb : after.currentPcb = kernel.currentPcb) : ClockCall kernel after where
  upper := by rw [rate]
  terminal _ _ := by rw [pcb]
  idle none := Or.inr ⟨rate, pcb ▸ none⟩

/-- One descriptor is overwritten that was not the clock's, or still is. -/
theorem of_setDesc {fd : Nat} {desc : FileDesc}
    (rate : after.devices.rtcRegA = kernel.devices.rtcRegA)
    (descs : after.currentPcb.fDescs =
      Function.update kernel.currentPcb.fDescs fd desc)
    (terminal : fd < 2 →
      desc.fopsJmpTbPtr = (kernel.currentPcb.fDescs fd).fopsJmpTbPtr)
    (clock : (kernel.currentPcb.fDescs fd).IsClock → desc.IsClock) :
    ClockCall kernel after where
  upper := by rw [rate]
  terminal other otherLt := by
    rw [descs]
    by_cases same : other = fd
    · subst same
      rw [Function.update_self]
      exact terminal otherLt
    · rw [Function.update_of_ne same]
  idle none := by
    refine Or.inr ⟨rate, fun other otherLt isClock => ?_⟩
    apply none other otherLt
    rw [descs]
    by_cases same : other = fd
    · subst same
      rw [Function.update_self]
      exact clock isClock
    · rwa [Function.update_of_ne same]

/-- The clock is reset while a descriptor of a file is overwritten. -/
theorem of_reset {fd : Nat} {desc : FileDesc} (isFile : 2 ≤ fd)
    (rate : after.devices.rtcRegA = idleRate kernel.devices.rtcRegA)
    (descs : after.currentPcb.fDescs =
      Function.update kernel.currentPcb.fDescs fd desc) :
    ClockCall kernel after where
  upper := by rw [rate, idleRate_upper]
  terminal other otherLt := by
    rw [descs, Function.update_of_ne (by omega)]
  idle _ := by
    rw [rate]
    exact Or.inl (idleRate_low _)

end ClockCall

namespace Kernel

variable (fs : FileSystem) (kernel : Kernel)

theorem freeSlot_spec {pcb : Pcb} {fd : Nat} (free : freeSlot pcb = some fd) :
    2 ≤ fd ∧ fd < 8 ∧ (pcb.fDescs fd).flags ≠ flagActive := by
  rw [freeSlot, Pcb.freeSlotFrom_eq] at free
  have member := List.mem_of_find?_eq_some free
  have inactive := List.find?_some free
  rw [List.mem_range'_1] at member
  simp only [maxOpenFile, minOpenFile] at member
  exact ⟨member.1, by omega, by simpa using inactive⟩

theorem open_clockCall (stale : StaleLocals) (filename : Option CString) :
    ClockCall kernel (kernel.open fs stale filename).1 := by
  unfold «open»
  cases filename with
  | none => exact .of_same rfl rfl
  | some name =>
      dsimp only
      split
      · exact .of_same rfl rfl
      split
      · exact .of_same rfl rfl
      cases free : freeSlot kernel.currentPcb with
      | none => exact .of_same rfl rfl
      | some fd =>
          obtain ⟨isFile, -, inactive⟩ := freeSlot_spec free
          have notClock (desc : FileDesc) :
              (kernel.currentPcb.fDescs fd).IsClock → desc.IsClock :=
            fun isClock => absurd isClock.1 inactive
          dsimp only
          split
          · exact .of_setDesc rfl (congrArg Pcb.fDescs (kernel.setDesc_currentPcb fd _))
              (fun terminal => absurd terminal (by omega)) (notClock _)
          split
          · exact .of_setDesc rfl (congrArg Pcb.fDescs (kernel.setPcb_currentPcb _))
              (fun terminal => absurd terminal (by omega)) (notClock _)
          split
          · exact .of_reset isFile rfl
              (congrArg Pcb.fDescs (kernel.setDesc_currentPcb fd _))
          · exact .of_reset isFile rfl
              (congrArg Pcb.fDescs (kernel.setDesc_currentPcb fd _))

theorem close_clockCall (fd : Int) : ClockCall kernel (kernel.close fd).1 := by
  by_cases usable : 2 ≤ fd ∧ fd < 8 ∧
      (kernel.currentPcb.fDescs fd.toNat).flags = flagActive
  · obtain ⟨low, high, active⟩ := usable
    rw [kernel.close_of_active low high active]
    have descs := kernel.closed_fDescs fd.toNat
      (kernel.currentPcb.fDescs fd.toNat).fopsJmpTbPtr
    have rate := closeOp_rtcRegA (kernel.setDesc fd.toNat
      { kernel.currentPcb.fDescs fd.toNat with flags := flagInactive })
        (kernel.currentPcb.fDescs fd.toNat).fopsJmpTbPtr
    by_cases isClock : (kernel.currentPcb.fDescs fd.toNat).fopsJmpTbPtr = .rtcOpsTbl
    · rw [if_pos isClock] at rate
      exact .of_reset (by omega) rate descs
    · rw [if_neg isClock] at rate
      exact .of_setDesc rate descs (fun _ => rfl)
        fun both => absurd both.2 isClock
  · have refused : (kernel.close fd).1 = kernel := by
      unfold close
      split
      · rfl
      split
      · rfl
      rename_i inTable notTerminal
      dsimp only
      rw [if_pos]
      intro active
      simp only [maxOpenFile, fdsStdinIdx, fdsStdoutIdx] at inTable notTerminal
      exact usable ⟨by omega, by omega, active⟩
    rw [refused]
    exact .of_same rfl rfl

theorem read_clockCall (stale : StaleLocals) (woken : Tty) (fd : Int)
    (buf : Option UserBuffer) (nbytes : Int) :
    ClockCall kernel (kernel.read fs stale woken fd buf nbytes).1 := by
  unfold read
  cases buf with
  | none => exact .of_same rfl rfl
  | some memory =>
      dsimp only
      split
      · exact .of_same rfl rfl
      split
      · exact .of_same rfl rfl
      cases (kernel.currentPcb.fDescs fd.toNat).fopsJmpTbPtr with
      | rtcOpsTbl => exact .of_same rfl rfl
      | fileOpsTbl =>
          exact .of_setDesc rfl (congrArg Pcb.fDescs (kernel.setDesc_currentPcb _ _))
            (fun _ => rfl) fun isClock => isClock
      | dirOpsTbl =>
          unfold readOp dirRead
          dsimp only
          split
          · exact .of_setDesc rfl (congrArg Pcb.fDescs (kernel.setDesc_currentPcb _ _))
              (fun _ => rfl) fun isClock => isClock
          · exact .of_setDesc rfl (congrArg Pcb.fDescs (kernel.setDesc_currentPcb _ _))
              (fun _ => rfl) fun isClock => isClock
      | stdinOpsTbl => exact .of_same rfl rfl
      | stdoutOpsTbl => exact .of_same rfl rfl
      | noFileOps => exact .of_same rfl rfl

/-- A write may set another rate, but only through a descriptor of the clock. -/
theorem write_clockCall (stale : StaleLocals) (fd : Int) (buf : Option CString)
    (nbytes : Int) : ClockCall kernel (kernel.write stale fd buf nbytes).1 := by
  unfold write
  cases buf with
  | none => exact .of_same rfl rfl
  | some bytes =>
      dsimp only
      split
      · exact .of_same rfl rfl
      rename_i inTable
      split
      · exact .of_same rfl rfl
      rename_i active
      cases ops : (kernel.currentPcb.fDescs fd.toNat).fopsJmpTbPtr with
      | rtcOpsTbl =>
          exact
            { upper := Devices.rtcWrite_upper _ _ _ _
              terminal := fun _ _ => rfl
              idle := fun none => by
                simp only [maxOpenFile] at inTable
                exact absurd ⟨not_not.mp active, ops⟩ (none fd.toNat (by omega)) }
      | fileOpsTbl => exact .of_same rfl rfl
      | dirOpsTbl => exact .of_same rfl rfl
      | stdinOpsTbl => exact .of_same rfl rfl
      | stdoutOpsTbl => exact .of_same rfl rfl
      | noFileOps => exact .of_same rfl rfl

theorem fileCall_clockCall (call : FileCall) :
    ClockCall kernel (kernel.fileCall fs call).1 := by
  obtain ⟨request, stale⟩ := call
  cases request with
  | «open» filename => exact kernel.open_clockCall fs stale filename
  | close fd => exact kernel.close_clockCall fd
  | read fd buf nbytes woken => exact kernel.read_clockCall fs stale woken fd _ nbytes
  | write fd buf nbytes => exact kernel.write_clockCall stale fd buf nbytes

end Kernel

/-- No descriptor of the terminal points to the clock's operations. -/
def Pcb.TerminalSafe (pcb : Pcb) : Prop :=
  ∀ fd < 2, (pcb.fDescs fd).fopsJmpTbPtr ≠ .rtcOpsTbl

section Steps

variable {layout : KernelLayout} {fs : FileSystem} {kernel next : Kernel} {k : Nat}
  {event : Event} {outcome : Outcome}

theorem newPcb_terminalSafe (kernel : Kernel) (id : Nat) (arg : CString) :
    (kernel.newPcb id arg).TerminalSafe := by
  obtain ⟨stdin, stdout⟩ := newPcb_hasTerminal kernel id arg
  intro fd fdLt
  by_cases isStdout : fd = 1
  · rw [isStdout, stdout.2]
    exact nofun
  · have isStdin : fd = 0 := by omega
    rw [isStdin, stdin.2]
    exact nofun

/-- A PCB that is safe stays so, and that of a started process is. -/
structure SafeStep (kernel : Kernel) (done : Kernel × Outcome) : Prop where
  kept : ∀ address, (kernel.pcbAt address).TerminalSafe →
    (done.1.pcbAt address).TerminalSafe
  started : ∀ entryPoint, done.2 = .running entryPoint →
    (done.1.pcbAt (pcbAddress done.1.activeProcNum)).TerminalSafe

theorem execute_safe (layout : KernelLayout) (fs : FileSystem) (kernel : Kernel)
    (stale : StaleLocals) (command : Option (List UInt8)) :
    SafeStep kernel (kernel.execute layout fs stale command) := by
  have done := kernel.execute_cases layout fs stale command
  generalize kernel.execute layout fs stale command = result at done ⊢
  cases done with
  | refused bytes => exact ⟨fun _ safe => safe, fun _ running => (nomatch running)⟩
  | headerFault bytes => exact ⟨fun _ safe => safe, fun _ running => (nomatch running)⟩
  | loadFault bytes inode id program free faulted =>
      exact ⟨fun _ safe => safe, fun _ running => (nomatch running)⟩
  | started bytes inode id entryPoint arg program free loaded =>
      generalize ((kernel.print bytes).loadFor layout fs id inode).memory = mem
      have pcbs := kernel.entered_pcbAt bytes id mem arg
      have fresh := newPcb_terminalSafe (kernel.loadedFor bytes id mem) id arg
      refine ⟨fun address safe => ?_, fun _ _ => ?_⟩
      · have unchanged := pcbs address
        split at unchanged
        · exact unchanged ▸ fresh
        · exact unchanged ▸ safe
      · have own := pcbs (pcbAddress id)
        rw [if_pos rfl] at own
        exact own ▸ fresh

theorem leaveProcess_safe (layout : KernelLayout) (kernel : Kernel) {address : Nat}
    (safe : (kernel.pcbAt address).TerminalSafe) :
    (kernel.leaveProcess.pcbAt address).TerminalSafe := by
  have keeps := kernel.keeps_closeFiles layout
  by_cases current : address = kernel.getPcbPtr
  · have own : kernel.leaveProcess.pcbAt address = kernel.closeFiles.currentPcb := by
      rw [Kernel.currentPcb, keeps.getPcbPtr, current]
      rfl
    intro fd fdLt
    rw [own, kernel.closeFiles_ops (by omega)]
    intro isClock
    cases isClock
  · rw [(Kernel.leaveProcess_pcbs layout kernel).2 address current]
    exact safe

theorem halt_safe (layout : KernelLayout) (fs : FileSystem) (kernel : Kernel)
    (stale : StaleLocals) (status : Nat) :
    SafeStep kernel (kernel.halt layout fs stale status) := by
  have leaves {address : Nat} := @leaveProcess_safe layout kernel address
  by_cases isRoot : kernel.activeProcNum = 0
  · have done := execute_safe layout fs kernel.leaveProcess stale Kernel.shellCommand
    rw [Kernel.halt_of_root layout fs stale status isRoot]
    have alike := Kernel.returnZero_alike
      (kernel.leaveProcess.execute layout fs stale Kernel.shellCommand)
    refine ⟨fun address safe => ?_, fun entryPoint running => ?_⟩
    · rw [Kernel.returnZero_kernel]
      exact done.kept address (leaves safe)
    · rw [running] at alike
      rw [Kernel.returnZero_kernel]
      exact done.started entryPoint alike.running
  · rw [Kernel.halt_of_child layout fs stale status isRoot]
    exact ⟨fun _ safe => leaves safe, fun _ running => (nomatch running)⟩

theorem handle_safe (layout : KernelLayout) (fs : FileSystem) (kernel : Kernel)
    (event : Event) : SafeStep kernel (kernel.handle layout fs event) := by
  have done := Kernel.handle_cases layout fs kernel event
  generalize kernel.handle layout fs event = result at done ⊢
  cases done with
  | trap isTrap => exact ⟨fun _ safe => safe, fun _ running => (nomatch running)⟩
  | iret isIret => exact ⟨fun _ safe => safe, fun _ running => (nomatch running)⟩
  | moveStack esp ebp isMove =>
      exact ⟨fun _ safe => safe, fun _ running => (nomatch running)⟩
  | fileCall request stale left isCall pauses =>
      have keeps := kernel.keeps_fileCall layout fs ⟨request.wokenIn kernel.tty, stale⟩
      have called := kernel.fileCall_clockCall fs ⟨request.wokenIn kernel.tty, stale⟩
      refine ⟨fun address safe => ?_, ?_⟩
      · by_cases current : address = kernel.getPcbPtr
        · have terminal := called.terminal
          rw [Kernel.currentPcb, keeps.getPcbPtr, Kernel.currentPcb, ← current] at terminal
          intro fd fdLt
          rw [terminal fd fdLt]
          exact safe fd fdLt
        · exact keeps.otherPcbs address current ▸ safe
      · rintro entryPoint rfl
        exact pauses.elim
  | keeps after paused keeps pauses =>
      refine ⟨fun address safe => keeps.pcbAt ▸ safe, ?_⟩
      rintro entryPoint rfl
      exact pauses.elim
  | execute start middle devices left starts slot keeps alike =>
      have done := execute_safe layout fs middle start.stale start.command
      refine ⟨fun address safe => done.kept address (keeps.pcbAt ▸ safe), ?_⟩
      rintro entryPoint rfl
      exact done.started entryPoint alike.running
  | halt stale status middle devices left halts restarts keeps alike =>
      have done := halt_safe layout fs middle stale status
      refine ⟨fun address safe => done.kept address (keeps.pcbAt ▸ safe), ?_⟩
      rintro entryPoint rfl
      exact done.started entryPoint alike.running

/-- No live process has a descriptor of the clock open. -/
def NoClock (kernel : Kernel) : Prop :=
  ∀ id < 6, kernel.procIdFlags id ≠ 0 →
    ∀ fd < 8, ¬((kernel.pcbAt (pcbAddress id)).fDescs fd).IsClock

/-- Starting a process ends none and keeps the PCBs of those that live. -/
theorem execute_keeps_live (layout : KernelLayout) (fs : FileSystem) (kernel : Kernel)
    (stale : StaleLocals) (command : Option (List UInt8)) {id : Nat} (idLt : id < 6)
    (live : kernel.procIdFlags id ≠ 0) :
    (kernel.execute layout fs stale command).1.procIdFlags id ≠ 0 ∧
      (kernel.execute layout fs stale command).1.pcbAt (pcbAddress id) =
        kernel.pcbAt (pcbAddress id) := by
  have done := kernel.execute_cases layout fs stale command
  generalize kernel.execute layout fs stale command = result at done ⊢
  cases done with
  | refused bytes => exact ⟨live, rfl⟩
  | headerFault bytes => exact ⟨live, rfl⟩
  | loadFault bytes inode taken program free faulted =>
      refine ⟨?_, rfl⟩
      show Function.update kernel.procIdFlags taken 1 id ≠ 0
      rw [Function.update_apply]
      split
      · exact Nat.one_ne_zero
      · exact live
  | started bytes inode taken entryPoint arg program free loaded =>
      obtain ⟨isFree, -, takenLt⟩ := Kernel.flag_of_freeProcIdFrom free
      simp only [maxProcesses] at takenLt
      have different : id ≠ taken := fun same => live (same ▸ isFree)
      generalize ((kernel.print bytes).loadFor layout fs taken inode).memory = mem
      refine ⟨?_, ?_⟩
      · show Function.update kernel.procIdFlags taken 1 id ≠ 0
        rw [Function.update_of_ne different]
        exact live
      · exact Function.update_of_ne
          (fun same => different (pcbAddress_injective idLt (by omega) same)) _ _

/-- So does every event that neither calls a descriptor function nor halts. -/
theorem handle_keeps_live (noCall : ∀ request stale, event ≠ .fileCall request stale)
    (noHalt : kernel.halting event = none) {id : Nat} (idLt : id < 6)
    (live : kernel.procIdFlags id ≠ 0) :
    (kernel.handle layout fs event).1.procIdFlags id ≠ 0 ∧
      (kernel.handle layout fs event).1.pcbAt (pcbAddress id) =
        kernel.pcbAt (pcbAddress id) := by
  have done := Kernel.handle_cases layout fs kernel event
  generalize kernel.handle layout fs event = result at done ⊢
  cases done with
  | trap isTrap => exact ⟨live, rfl⟩
  | iret isIret => exact ⟨live, rfl⟩
  | moveStack esp ebp isMove => exact ⟨live, rfl⟩
  | fileCall request stale left isCall pauses => exact absurd isCall (noCall request stale)
  | keeps after paused keeps pauses =>
      exact ⟨keeps.procIdFlags ▸ live, by rw [keeps.pcbAt]⟩
  | execute start middle devices left starts slot keeps alike =>
      have started := execute_keeps_live layout fs middle start.stale start.command idLt
        (keeps.procIdFlags ▸ live)
      exact ⟨started.1, started.2.trans (by rw [keeps.pcbAt])⟩
  | halt stale status middle devices left halts restarts keeps alike =>
      exact absurd (halts.symm.trans noHalt) (by simp)

/-- When a process is left for its parent, only its own PCB changes. -/
theorem resumed_keeps_pcbs {value : Nat}
    (handled : kernel.handle layout fs event = (next, .resumed value)) {address : Nat}
    (other : address ≠ kernel.getPcbPtr) :
    next.pcbAt address = kernel.pcbAt address := by
  have done := Kernel.handle_cases layout fs kernel event
  rw [handled] at done
  cases done with
  | fileCall request stale left isCall pauses => exact pauses.elim
  | keeps after paused keeps pauses => exact pauses.elim
  | execute start middle devices left starts slot keeps alike =>
      exact absurd alike (Kernel.execute_not_resumed layout fs middle _ _ value)
  | halt stale status middle devices left halts restarts keeps alike =>
      have leaves := (Kernel.leaveProcess_pcbs layout middle).2 address
        (keeps.getPcbPtr ▸ other)
      rw [keeps.pcbAt] at leaves
      by_cases isRoot : middle.activeProcNum = 0
      · rw [Kernel.halt_of_root layout fs stale status isRoot] at alike
        exact absurd ((Kernel.returnZero_alike _).trans alike)
          (Kernel.execute_not_resumed layout fs middle.leaveProcess _ _ value)
      · rw [Kernel.halt_of_child layout fs stale status isRoot]
        exact leaves

/-- The upper half of register A is that of the start, live processes have no
clock at their terminal, and without a descriptor of the clock it idles. -/
structure ClockInvariant (boot kernel : Kernel) : Prop where
  upper : kernel.devices.rtcRegA &&& 0xF0 = boot.devices.rtcRegA &&& 0xF0
  terminal : ∀ id < 6, kernel.procIdFlags id ≠ 0 →
    (kernel.pcbAt (pcbAddress id)).TerminalSafe
  idle : NoClock kernel → kernel.devices.rtcRegA &&& 0x0F = 0x0F

/-- Live processes keep safe terminals. -/
theorem ClockInvariant.terminal_step {boot : Kernel} {nextK : Nat}
    (clock : ClockInvariant boot kernel) (holds : ProcessInvariant layout kernel k)
    (handled : kernel.handle layout fs event = (next, outcome))
    (nextHolds : ProcessInvariant layout next nextK)
    (effect : StackEffect fs k outcome nextK) :
    ∀ id < 6, next.procIdFlags id ≠ 0 → (next.pcbAt (pcbAddress id)).TerminalSafe := by
  intro id idLt nextLive
  have safe := handle_safe layout fs kernel event
  rw [handled] at safe
  have bounded := holds.bounded
  rw [nextHolds.live_iff idLt] at nextLive
  have nextActive := nextHolds.active (by omega)
  have keeps (below : id < k) : (next.pcbAt (pcbAddress id)).TerminalSafe :=
    safe.kept _ (clock.terminal id idLt ((holds.live_iff idLt).mpr below))
  cases outcome with
  | returned value => exact keeps (by rcases effect with same | ⟨-, -, none⟩ <;> omega)
  | pageFault => exact keeps (by rcases effect with same | ⟨-, -, none⟩ <;> omega)
  | resumed value => exact keeps (by rcases effect with ⟨less, -⟩ | ⟨-, none⟩ <;> omega)
  | running entryPoint =>
      by_cases isNew : id = next.activeProcNum
      · exact isNew ▸ safe.started entryPoint rfl
      · exact keeps (by rcases effect with more | ⟨-, one⟩ <;> omega)

/-- A halt that leaves the rate alone ends a process without the clock. -/
theorem ClockInvariant.noClock_of_halting {boot : Kernel} {nextK : Nat}
    (clock : ClockInvariant boot kernel) (holds : ProcessInvariant layout kernel k)
    (kernelMode : kernel.userMode = false)
    (handled : kernel.handle layout fs event = (next, outcome))
    (nextHolds : ProcessInvariant layout next nextK)
    (effect : StackEffect fs k outcome nextK) {stale : StaleLocals}
    (halts : kernel.halting event = some stale)
    (own : ∀ fd, 2 ≤ fd → fd < 8 → ¬(kernel.currentPcb.fDescs fd).IsClock)
    (noClock : NoClock next) : NoClock kernel := by
  intro id idLt live fd fdLt isClock
  have bounded := holds.bounded
  have below := (holds.live_iff idLt).mp live
  have pointer := holds.getPcbPtr_eq (by omega) kernelMode
  by_cases isOwn : id = k - 1
  · by_cases isFile : 2 ≤ fd
    · rw [Kernel.currentPcb, pointer, ← isOwn] at own
      exact own fd isFile fdLt isClock
    · exact clock.terminal id idLt live fd (by omega) isClock.2
  · have active := holds.active (by omega)
    have resumed := Kernel.handle_halting layout fs halts (by omega)
    rw [handled] at resumed
    subst resumed
    have other : pcbAddress id ≠ kernel.getPcbPtr := fun same =>
      isOwn (pcbAddress_injective idLt (by omega) (same.trans pointer))
    have kept := resumed_keeps_pcbs handled other
    have nextLive : next.procIdFlags id ≠ 0 := by
      rw [nextHolds.live_iff idLt]
      rcases effect with ⟨less, -⟩ | ⟨none, -⟩ <;> omega
    rw [← kept] at isClock
    exact noClock id idLt nextLive fd fdLt isClock

/-- A descriptor call keeps the invariant. -/
theorem ClockInvariant.fileCall {boot : Kernel} (clock : ClockInvariant boot kernel)
    (holds : ProcessInvariant layout kernel k) (kernelMode : kernel.userMode = false)
    (live : ∃ id < 6, kernel.procIdFlags id ≠ 0) (fs : FileSystem) (call : FileCall)
    (noClock : NoClock (kernel.fileCall fs call).1) :
    (kernel.fileCall fs call).1.devices.rtcRegA &&& 0x0F = 0x0F := by
  have keeps := kernel.keeps_fileCall layout fs call
  have called := kernel.fileCall_clockCall fs call
  generalize (kernel.fileCall fs call).1 = after at noClock keeps called ⊢
  have positive := holds.positive_of_live live
  have bounded := holds.bounded
  have pointer := holds.getPcbPtr_eq positive kernelMode
  have isLive : kernel.procIdFlags (k - 1) ≠ 0 :=
    (holds.live_iff (by omega)).mpr (by omega)
  have current : after.currentPcb = after.pcbAt (pcbAddress (k - 1)) := by
    rw [Kernel.currentPcb, keeps.getPcbPtr, pointer]
  have closed := noClock (k - 1) (by omega) (keeps.procIdFlags ▸ isLive)
  rw [← current] at closed
  rcases called.idle closed with low | ⟨same, own⟩
  · exact low
  rw [same]
  apply clock.idle
  intro id idLt idLive
  by_cases isOwn : id = k - 1
  · rw [Kernel.currentPcb, pointer, ← isOwn] at own
    exact own
  · have other := keeps.otherPcbs (pcbAddress id) fun equal =>
      isOwn (pcbAddress_injective idLt (by omega) (equal.trans pointer))
    rw [← other]
    exact noClock id idLt (keeps.procIdFlags ▸ idLive)

theorem ClockInvariant.step {boot : Kernel} (clock : ClockInvariant boot kernel)
    (holds : ProcessInvariant layout kernel k)
    (step : kernel.MappedStep layout fs (event, outcome) next) :
    ClockInvariant boot next := by
  obtain ⟨nextK, nextHolds, effect⟩ := holds.step step
  obtain ⟨⟨admits, handled⟩, -⟩ := step
  have terminal := clock.terminal_step holds handled nextHolds effect
  have after : (kernel.handle layout fs event).1 = next := by rw [handled]
  by_cases isCall : ∃ request stale, event = .fileCall request stale
  · obtain ⟨request, stale, rfl⟩ := isCall
    obtain ⟨-, kernelMode, live⟩ := admits
    simp only [maxProcesses] at live
    have called : (kernel.fileCall fs ⟨request.wokenIn kernel.tty, stale⟩).1 = next :=
      after
    have upper := (kernel.fileCall_clockCall fs ⟨request.wokenIn kernel.tty, stale⟩).upper
    have idle := clock.fileCall holds kernelMode live fs
      ⟨request.wokenIn kernel.tty, stale⟩
    rw [called] at upper idle
    exact ⟨upper.trans clock.upper, terminal, idle⟩
  have noCall : ∀ request stale, event ≠ .fileCall request stale :=
    fun request stale same => isCall ⟨request, stale, same⟩
  cases halts : kernel.halting event with
  | none =>
      have rate := kernel.handle_rtcRegA layout fs noCall halts
      rw [after] at rate
      refine ⟨by rw [rate, clock.upper], terminal, fun noClock => ?_⟩
      rw [rate]
      apply clock.idle
      intro id idLt live
      have kept : (kernel.handle layout fs event).1.procIdFlags id ≠ 0 ∧
          (kernel.handle layout fs event).1.pcbAt (pcbAddress id) =
            kernel.pcbAt (pcbAddress id) := handle_keeps_live noCall halts idLt live
      rw [after] at kept
      rw [← kept.2]
      exact noClock id idLt kept.1
  | some stale =>
      have left := kernel.handle_rateLeft layout fs halts
      have kernelMode := Kernel.kernelMode_of_admits admits (by simp [halts])
      rw [after] at left
      rcases left with ⟨-, reset⟩ | ⟨own, rate⟩
      · exact ⟨by rw [reset, idleRate_upper, clock.upper], terminal,
          fun _ => by rw [reset, idleRate_low]⟩
      · refine ⟨by rw [rate, clock.upper], terminal, fun noClock => ?_⟩
        rw [rate]
        exact clock.idle (clock.noClock_of_halting holds kernelMode handled nextHolds
          effect halts own noClock)

end Steps

/-- No live slot of the view has the clock open. -/
def KernelView.ClockClosed (view : KernelView) : Prop :=
  ∀ id < 6, view.flags id ≠ 0 → (view.slots id).file ≠ some .rtcOpsTbl

instance (view : KernelView) : Decidable view.ClockClosed :=
  @Nat.decidableBallLT 6
    (fun id _ => view.flags id ≠ 0 → (view.slots id).file ≠ some .rtcOpsTbl)
    fun _ _ => inferInstance

theorem KernelView.Shows.noClock {layout : KernelLayout} {view : KernelView}
    {kernel : Kernel} (shows : view.Shows layout kernel)
    (closed : view.ClockClosed) : NoClock kernel := by
  intro id idLt live fd fdLt isClock
  rw [shows.procIdFlags] at live
  have slot := shows.slots id idLt
  by_cases isSecond : fd = 2
  · subst isSecond
    cases file : (view.slots id).file with
    | none => exact slot.closed file isClock.1
    | some ops =>
        have isOps : ops = .rtcOpsTbl := (slot.opened ops file).2.symm.trans isClock.2
        exact closed id idLt live (isOps ▸ file)
  · exact slot.others fd fdLt isSecond isClock

section Runs

variable {layout : KernelLayout} {fs : FileSystem} {boot kernel : Kernel}

/-- Where the kernel calls `init_terminals`, register A is as `rtc_init` left it. -/
theorem boots_rtcRegA (booted : boot.Boots layout) :
    ∃ devices : Devices, boot.devices.rtcRegA = devices.rtcInit.rtcRegA := by
  obtain ⟨start, report, -, rfl⟩ := booted
  have entered : (start.entry layout report).devices =
      ((start.devices.i8259Init.rtcInit).enableIrq pitIrq).openKeyboard := rfl
  refine ⟨start.devices.i8259Init, ?_⟩
  rw [entered, Devices.openKeyboard, Devices.enableIrq_rtcRegA,
    Devices.enableIrq_rtcRegA]

/-- `rtc_init` sets 2 Hz. -/
theorem Devices.rtcInit_low (devices : Devices) :
    devices.rtcInit.rtcRegA &&& 0x0F = 0x0F := by
  rw [rtcInit, enableIrq_rtcRegA]
  generalize devices.rtcRegA = regA
  cases regA with
  | ofBitVec bits =>
      apply UInt8.eq_of_toBitVec_eq
      show (bits &&& 0x80 ||| 0x2F) &&& 0x0F = (0x0F : BitVec 8)
      revert bits
      decide

/-- Where every load is mapped, the clock idles at 2 Hz whenever no live process
has a descriptor of it open. -/
theorem idle_rate_of_no_clock (booted : boot.Boots layout)
    {labels : List (Event × Outcome)}
    (run : Run (Kernel.MappedStep layout fs) boot labels kernel)
    (noClock : NoClock kernel) :
    kernel.devices.rtcRegA &&& 0x0F = 0x0F ∧
      kernel.devices.rtcRegA &&& 0xF0 = boot.devices.rtcRegA &&& 0xF0 := by
  have start : ClockInvariant boot boot := by
    obtain ⟨devices, rate⟩ := boots_rtcRegA booted
    refine ⟨rfl, fun id idLt live => ?_, fun _ => by rw [rate, devices.rtcInit_low]⟩
    have none := ((ProcessInvariant.boots booted).live_iff idLt).mp live
    omega
  have reached : (∃ k, ProcessInvariant layout kernel k) ∧ ClockInvariant boot kernel := by
    refine run.invariant
      (fun state => (∃ k, ProcessInvariant layout state k) ∧ ClockInvariant boot state)
      ?_ ⟨⟨0, .boots booted⟩, start⟩
    rintro state ⟨event, outcome⟩ next ⟨⟨k, holds⟩, clock⟩ step
    obtain ⟨nextK, nextHolds, -⟩ := holds.step step
    exact ⟨⟨nextK, nextHolds⟩, clock.step holds step⟩
  exact ⟨reached.2.idle noClock, reached.2.upper⟩

/-- Two programs that do not fit put the slots out of order; then a process sets the
clock to 1024 Hz and is halted on the kernel stack of another. -/
def staleRateMoves : List Move :=
  [.trap, .shell, .trap, .halt, .pressCtrl, .pressC, .trap, .big, .exception, .trap,
    .shell, .trap, .halt, .iret, .trap, .big, .exception, .pressC, .trap, .shell, .trap,
    .openClock, .iret, .trap, .setRate, .iret, .trap, .shell, .trap, .halt, .iret, .trap,
    .halt, .pressC]

/-- Where a load faults, the clock can keep a program's rate when no process has it
open. -/
theorem load_fault_leaves_rate :
    startedKernel.Boots lowLayout ∧
      ∃ labels kernel,
        labels.map Prod.fst =
          .initTerminals .zero :: staleRateMoves.map Move.event ∧
        Run (Kernel.Step lowLayout stockedImage) startedKernel labels kernel ∧
        NoClock kernel ∧ kernel.devices.rtcRegA = 0x26 := by
  have computed : ((KernelView.firstShell 0 0x2F).run staleRateMoves).map (fun view =>
      (decide view.ClockClosed, view.regA)) = some (true, 0x26) := by decide +kernel
  obtain ⟨view, moved, facts⟩ := Option.map_eq_some_iff.mp computed
  obtain ⟨closed, rate⟩ := Prod.mk.inj facts
  obtain ⟨entryPoint, first, firstStep, shown⟩ := firstShell_shows stockedImage_hasShell
  obtain ⟨labels, kernel, events, run, kernelShown⟩ :=
    shown.run stockedImage_stocked moved
  exact ⟨startedKernel_boots, (.initTerminals .zero, .running entryPoint) :: labels,
    kernel, congrArg (Event.initTerminals .zero :: ·) events, Run.cons firstStep.1 run,
    kernelShown.noClock (of_decide_eq_true closed), kernelShown.regA.trans rate⟩

/-- A shell that has set the clock to 1024 Hz is halted with Ctrl and c. -/
theorem idle_rate_of_no_clock_first_shell :
    ∃ labels kernel,
      labels.map Prod.fst =
        .initTerminals .zero :: nestedMoves.map Move.event ∧
      Run (Kernel.MappedStep lowLayout stockedImage) startedKernel labels kernel ∧
      NoClock kernel ∧ kernel.devices.rtcRegA &&& 0x0F = 0x0F := by
  obtain ⟨after, labels, outcome, first, kernel, moved, events, firstStep, rest, shown⟩ :=
    exists_nestedMoves
  have closed : ((KernelView.firstShell 0 0x2F).run nestedMoves).map (fun view =>
      decide view.ClockClosed) = some true := by decide +kernel
  rw [moved] at closed
  have run := Run.cons firstStep rest
  have noClock := shown.noClock (of_decide_eq_true (Option.some.inj closed))
  exact ⟨(.initTerminals .zero, outcome) :: labels, kernel,
    congrArg (Event.initTerminals .zero :: ·) events, run, noClock,
    (idle_rate_of_no_clock startedKernel_boots run noClock).1⟩

end Runs

end ChapOS
