import ChapOS.UserSessions

/-!
# Waiting for the clock

`rtc_read` clears its flag and spins until the handler of the clock has set it.  The
interrupts between two of its looks at the flag are up to the surroundings, so that the
read of a program returns if one of them is the clock's, and hangs if none ever is.
-/

namespace ChapOS

open WhileLoops

namespace Kernel

variable (between : Nat → Kernel → Kernel) (kernel : Kernel)

/-- `rtc_interrupt_occurred = 0` -/
def clearTick : Kernel :=
  kernel.setDevices { kernel.devices with rtcInterruptOccurred := false }

/-- The spin loop of `rtc_read`, with the number of its looks at the flag beside the
kernel, and the interrupts before each look. -/
def rtcSpinTurn (current : Kernel × Nat) : Turn (Kernel × Nat) Kernel :=
  let seen := between current.2 current.1
  if seen.devices.rtcInterruptOccurred = false then .next (seen, current.2 + 1)
  else .exit seen

/-- `rtc_read` -/
def rtcRead (turns : Nat) : Option (Kernel × Int) :=
  (runFor (rtcSpinTurn between) turns (kernel.clearTick, 0)).map fun seen => (seen, 0)

/-- The kernel behind a number of looks. -/
def looked : Nat → Kernel
  | 0 => kernel.clearTick
  | looks + 1 => between looks (looked looks)

variable {between kernel}

theorem rtcSpinTurn_looked (looks : Nat) :
    rtcSpinTurn between (kernel.looked between looks, looks) =
      if (kernel.looked between (looks + 1)).devices.rtcInterruptOccurred = false then
        .next (kernel.looked between (looks + 1), looks + 1)
      else .exit (kernel.looked between (looks + 1)) :=
  rfl

/-- A flag that some look finds set ends the loop there or before. -/
theorem rtcSpin_ends {last : Nat}
    (ticks : (kernel.looked between last).devices.rtcInterruptOccurred = true) {looks : Nat}
    (before : looks < last) :
    ∃ first, Ends (rtcSpinTurn between) (kernel.looked between looks, looks)
      (kernel.looked between first) := by
  induction left : last - looks generalizing looks with
  | zero => exact absurd before (by omega)
  | succ left ih =>
      by_cases occurred :
          (kernel.looked between (looks + 1)).devices.rtcInterruptOccurred = false
      · have notLast : looks + 1 ≠ last := by
          rintro rfl
          rw [occurred] at ticks
          cases ticks
        obtain ⟨first, ends⟩ := ih (show looks + 1 < last by omega) (by omega)
        refine ⟨first, .next ?_ ends⟩
        rw [rtcSpinTurn_looked, if_pos occurred]
      · refine ⟨looks + 1, .exit ?_⟩
        rw [rtcSpinTurn_looked, if_neg occurred]

/-- Without a clock interrupt the loop goes on. -/
theorem rtcRead_of_silent
    (silent : ∀ looks, (kernel.looked between looks).devices.rtcInterruptOccurred = false)
    (turns : Nat) : kernel.rtcRead between turns = none := by
  have goesOn : runFor (rtcSpinTurn between) turns (kernel.clearTick, 0) = none := by
    apply runFor_of_goesOn fun current => ∃ looks, current = (kernel.looked between looks, looks)
    · rintro current ⟨looks, rfl⟩
      rw [rtcSpinTurn_looked, if_pos (silent (looks + 1))]
      exact ⟨_, rfl, looks + 1, rfl⟩
    · exact ⟨0, rfl⟩
  unfold rtcRead
  exact congrArg (Option.map _) goesOn

/-- `rtc_read` leaves the kernel as the interrupts have made it. -/
theorem rtcRead_of_ticks {last : Nat}
    (ticks : (kernel.looked between last).devices.rtcInterruptOccurred = true) :
    ∃ enough first, ∀ turns, enough ≤ turns →
      kernel.rtcRead between turns = some (kernel.looked between first, 0) := by
  have before : 0 < last := by
    apply Nat.pos_of_ne_zero
    rintro rfl
    cases ticks
  obtain ⟨first, ends⟩ := rtcSpin_ends ticks before
  obtain ⟨enough, ended⟩ := ends.exists_enough
  refine ⟨enough, first, fun turns isEnough => ?_⟩
  have done := ended turns isEnough
  unfold rtcRead
  exact congrArg (Option.map _) done

/-- `rtc_read` returns exactly if some look finds the flag set. -/
theorem rtcRead_returns_iff :
    (∃ turns, (kernel.rtcRead between turns).isSome = true) ↔
      ∃ looks, (kernel.looked between looks).devices.rtcInterruptOccurred = true := by
  constructor
  · rintro ⟨turns, returns⟩
    by_contra never
    have silent (looks : Nat) :
        (kernel.looked between looks).devices.rtcInterruptOccurred = false := by
      rw [← Bool.not_eq_true]
      exact fun occurred => never ⟨looks, occurred⟩
    rw [rtcRead_of_silent silent] at returns
    cases returns
  · rintro ⟨looks, ticks⟩
    obtain ⟨enough, first, returns⟩ := rtcRead_of_ticks ticks
    exact ⟨enough, by rw [returns enough (Nat.le_refl enough)]; rfl⟩

/-- A wait in which nothing happens but the tick is the read of the clock's table. -/
theorem rtcRead_of_tick (turns : Nat) :
    kernel.rtcRead
        (fun _ waiting => waiting.setDevices { waiting.devices with rtcInterruptOccurred := true })
        (turns + 1) =
      some (kernel.setDevices kernel.devices.rtcRead.1, kernel.devices.rtcRead.2) :=
  rfl

end Kernel

/-- The interrupts while `rtc_read` spins, by the number of the system call and of the
look at the flag. -/
abbrev ClockWaits :=
  Nat → Nat → Kernel → Kernel

namespace ClockWaits

/-- They do not touch the process and its stack. -/
structure SparesProcess (waits : ClockWaits) : Prop where
  pcbAt : ∀ call look kernel, (waits call look kernel).pcbAt = kernel.pcbAt
  esp : ∀ call look kernel, (waits call look kernel).esp = kernel.esp

theorem SparesProcess.looked {waits : ClockWaits} (spares : waits.SparesProcess) (call : Nat)
    (kernel : Kernel) (looks : Nat) :
    (kernel.looked (waits call) looks).currentPcb = kernel.currentPcb := by
  induction looks with
  | zero => rfl
  | succ looks ih =>
      have step : kernel.looked (waits call) (looks + 1) =
          waits call looks (kernel.looked (waits call) looks) := rfl
      rw [← ih, step]
      unfold Kernel.currentPcb Kernel.getPcbPtr
      rw [spares.pcbAt, spares.esp]

end ClockWaits

namespace Session

/-- `read`, which does not come back from the clock while the clock does not tick. -/
def waitingRead (fs : FileSystem) (around : Surroundings) (waits : ClockWaits) (turns : Nat)
    (session : Session) (fd : Int) (buf : CString) (nbytes : Int) :
    Option (Session × Int × CString) :=
  let entered := session.enter around
  let desc := entered.kernel.currentPcb.fDescs fd.toNat
  if 0 ≤ fd ∧ fd < 8 ∧ desc.flags = flagActive ∧ desc.fopsJmpTbPtr = .rtcOpsTbl then
    (entered.kernel.rtcRead (waits session.calls) turns).map fun done =>
      ({ entered with kernel := done.1 }, done.2, buf)
  else some ((systemCalls fs around).read session fd buf nbytes)

variable {fs : FileSystem} {around : Surroundings} {waits : ClockWaits} {session : Session}
  {fd : Nat}

/-- Only the clock is waited for. -/
theorem waitingRead_of_other (spares : around.SparesProcess)
    (other : (session.pcb.fDescs fd).fopsJmpTbPtr ≠ .rtcOpsTbl) (turns : Nat) (buf : CString)
    (nbytes : Int) :
    waitingRead fs around waits turns session fd buf nbytes =
      some ((systemCalls fs around).read session fd buf nbytes) := by
  unfold waitingRead
  dsimp only
  rw [enter_pcb spares, if_neg]
  rintro ⟨-, -, -, isClock⟩
  exact other isClock

/-- `systemCalls` answers as if nothing but the tick happened during a wait. -/
theorem waitingRead_of_tick (turns : Nat) (fd : Int) (buf : CString) (nbytes : Int) :
    waitingRead fs around
        (fun _ _ kernel => kernel.setDevices { kernel.devices with rtcInterruptOccurred := true })
        (turns + 1) session fd buf nbytes =
      some ((systemCalls fs around).read session fd buf nbytes) := by
  unfold waitingRead
  dsimp only
  split
  · rename_i isClock
    obtain ⟨low, high, active, ops⟩ := isClock
    have answered := Kernel.read_of_active fs (around.stale session.calls)
      (around.woken session.calls) _ low high active (freshBuffer buf) nbytes
    rw [ops] at answered
    rw [Kernel.rtcRead_of_tick, read_of_done answered]
    rfl
  · rfl

end Session

end ChapOS
