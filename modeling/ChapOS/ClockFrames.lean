import ChapOS.KernelViews
import ChapOS.ProcessTurnover

/-!
# What leaves the clock alone

Register A of the clock is written by the clock's own functions only.  `halt`
reaches them through each descriptor of the clock that it closes; but for the
descriptor calls, nothing else changes the rate.
-/

namespace ChapOS

open CountedLoops

namespace Devices

theorem upper_of_or (regA rate : UInt8) :
    (regA &&& 0xF0 ||| rate &&& 0x0F) &&& 0xF0 = regA &&& 0xF0 := by
  apply UInt8.eq_of_toBitVec_eq
  show (regA.toBitVec &&& 0xF0 ||| rate.toBitVec &&& 0x0F) &&& 0xF0 =
    regA.toBitVec &&& 0xF0
  have disjoint : (0x0F : BitVec 8) &&& 0xF0 = 0 := by decide
  rw [BitVec.and_or_distrib_right, BitVec.and_assoc, BitVec.and_assoc, disjoint,
    BitVec.and_self]
  simp

/-- `rtc_write` changes the low four bits of register A only. -/
theorem rtcWrite_upper (devices : Devices) (rate : Nat) (freq : Option (BitVec 32))
    (nbytes : Int) :
    (devices.rtcWrite rate freq nbytes).1.rtcRegA &&& 0xF0 =
      devices.rtcRegA &&& 0xF0 := by
  have masked := congrArg (fun regA : UInt8 => regA &&& 0xF0)
    (devices.disableIrq_rtcRegA rtcIrq)
  unfold rtcWrite
  dsimp only
  split
  · exact masked
  cases freq with
  | none => exact masked
  | some frequency =>
      dsimp only
      split
      · exact masked
      split
      · exact masked
      · rw [enableIrq_rtcRegA]
        exact (upper_of_or _ _).trans masked

end Devices

/-- Register A is out of reach of the terminals and of `execute`. -/
theorem ignores_rtcRegA : Ignores fun kernel => kernel.devices.rtcRegA where
  setPaging _ _ := rfl
  setMem _ _ := rfl
  fault _ := rfl
  setTerminal _ _ _ := rfl
  setConsole _ _ := rfl
  setBufferIndex _ _ := rfl
  setCurTermId _ _ := rfl
  setStack _ _ _ _ := rfl
  enableIrq kernel irqNum := kernel.devices.enableIrq_rtcRegA irqNum
  sendEoi kernel irqNum := kernel.devices.sendEoi_rtcRegA irqNum
  disableIrq kernel irqNum := kernel.devices.disableIrq_rtcRegA irqNum
  rtcInterrupt kernel := kernel.devices.rtcIrqHandler_rtcRegA
  execute layout fs stale command kernel := by
    have done := kernel.execute_cases layout fs stale command
    generalize kernel.execute layout fs stale command = result at done ⊢
    cases done <;> rfl

namespace Kernel

section Frames

variable (layout : KernelLayout) (fs : FileSystem) (kernel : Kernel)

theorem halt_rateLeft (stale : StaleLocals) (status : Nat) :
    kernel.RateLeft (kernel.halt layout fs stale status).1.devices.rtcRegA := by
  have left := kernel.closeFiles_rateLeft
  by_cases isRoot : kernel.activeProcNum = 0
  · rw [halt_of_root layout fs stale status isRoot, returnZero_kernel,
      ignores_rtcRegA.execute]
    exact left
  · rw [halt_of_child layout fs stale status isRoot]
    exact left

theorem RateLeft.congr {kernel start : Kernel} {regA : UInt8}
    (left : start.RateLeft regA) (pcb : start.currentPcb = kernel.currentPcb)
    (rate : start.devices.rtcRegA = kernel.devices.rtcRegA) : kernel.RateLeft regA := by
  rw [RateLeft, pcb, rate] at left
  exact left

theorem keyboardIntHandler_rtcRegA (stale : StaleLocals) (key : Nat) :
    match (kernel.tty.handleKey key).2 with
    | .halt => kernel.RateLeft
        (kernel.keyboardIntHandler layout fs stale key).1.devices.rtcRegA
    | _ => (kernel.keyboardIntHandler layout fs stale key).1.devices.rtcRegA =
        kernel.devices.rtcRegA := by
  have handled := ignores_rtcRegA.keyboardIntHandler layout fs kernel stale key
  have masked := kernel.devices.disableIrq_rtcRegA keyboardIrq
  cases action : (kernel.tty.handleKey key).2 with
  | done =>
      rw [action] at handled
      exact handled.trans masked
  | halt =>
      rw [action] at handled
      obtain ⟨start, rate, pcb, -, halted⟩ := handled
      have left := (halt_rateLeft layout fs start stale 0).congr pcb (rate.trans masked)
      rw [← halted] at left
      exact left
  | terminalLoS id =>
      rw [action] at handled
      exact handled.trans masked

/-- An event that neither calls a descriptor function nor halts keeps the rate. -/
theorem handle_rtcRegA {event : Event}
    (noCall : ∀ request stale, event ≠ .fileCall request stale)
    (noHalt : kernel.halting event = none) :
    (kernel.handle layout fs event).1.devices.rtcRegA = kernel.devices.rtcRegA := by
  by_cases isKey : ∃ key stale, event = .keyboard key stale
  · obtain ⟨key, stale, rfl⟩ := isKey
    have handled := kernel.keyboardIntHandler_rtcRegA layout fs stale key
    rw [halting] at noHalt
    cases action : (kernel.tty.handleKey key).2 with
    | done => rw [action] at handled; exact handled
    | halt => rw [action] at noHalt; cases noHalt
    | terminalLoS id => rw [action] at handled; exact handled
  · exact ignores_rtcRegA.handle layout fs kernel noCall noHalt
      fun key stale same => isKey ⟨key, stale, same⟩

/-- An event that halts resets the clock if it closes one of its descriptors. -/
theorem handle_rateLeft {event : Event} {stale : StaleLocals}
    (halts : kernel.halting event = some stale) :
    kernel.RateLeft (kernel.handle layout fs event).1.devices.rtcRegA := by
  cases halts_of_halting halts with
  | halt status => exact kernel.halt_rateLeft layout fs stale status
  | exception message =>
      exact (halt_rateLeft layout fs _ stale exceptRetval).congr rfl rfl
  | keyboard key ctrlC =>
      have handled := kernel.keyboardIntHandler_rtcRegA layout fs stale key
      rw [ctrlC] at handled
      exact handled

end Frames

end Kernel

end ChapOS
