import ChapOS.ClockWrites
import ChapOS.LabelledRuns

/-!
# Waiting for the clock

`rtc_read` clears a flag and spins until the interrupt of the clock has set it.  There is
one flag for all processes, and a spinning process can be left for another terminal, so
any number of readers clear it and test it in any order with the interrupts and with the
requests that mask or unmask the line.  A request runs with interrupts on: between its
write to `slave_mask` and its write to the controller anything may come.
-/

namespace ChapOS

/-- What happens to the flag and to the clock's line, one access at a time. -/
inductive ClockLabel
  /-- `rtc_interrupt_occurred = 0` -/
  | starts (reader : Nat)
  /-- The loop finds the flag still cleared. -/
  | spins (reader : Nat)
  /-- The loop finds the flag set. -/
  | returns (reader : Nat)
  /-- The interrupt of the clock, which cannot be interrupted itself. -/
  | tick
  /-- `rtc_write` is called, also from `rtc_open` and `rtc_close`, and sets the clock's
  bit of `slave_mask`. -/
  | masks (writer : Nat) (freq : Option (BitVec 32)) (nbytes : Int)
  /-- `outb(slave_mask, SLAVE_8259_PORT_2)`, in `disable_irq` or in `enable_irq`. -/
  | sends (writer : Nat)
  /-- `rtc_write` returns -1. -/
  | rejects (writer : Nat)
  /-- `rtc_write` clears the clock's bit of `slave_mask`. -/
  | unmasks (writer : Nat)
  /-- The rest of the kernel, and the programming of register A. -/
  | elsewhere

/-- How far an `rtc_write` has come. -/
inductive WriteStage
  | away
  /-- In `disable_irq`, in front of its `outb`. -/
  | masked (freq : Option (BitVec 32)) (nbytes : Int)
  /-- Behind `disable_irq`. -/
  | sent (freq : Option (BitVec 32)) (nbytes : Int)
  /-- In `enable_irq`, in front of its `outb`. -/
  | unmasked

/-- The devices, which readers are in `rtc_read`, and where the writers are in
`rtc_write`. -/
structure ClockState where
  devices : Devices
  spinning : Nat → Bool
  writing : Nat → WriteStage

namespace Devices

/-- The controllers let the clock's line through. -/
def ClockOpen (devices : Devices) : Prop :=
  devices.slave.mask.toBitVec.getLsbD 0 = false ∧
    devices.master.mask.toBitVec.getLsbD slaveIrq = false

instance (devices : Devices) : Decidable devices.ClockOpen :=
  inferInstanceAs (Decidable (_ ∧ _))

/-- `slave_mask = slave_mask | single_bit_mask`.  No other bit of `slave_mask` is ever
changed, so that reading it and writing it back count as one access. -/
def setClockBit (devices : Devices) : Devices :=
  { devices with slaveMask := devices.slaveMask ||| singleBitMask (rtcIrq - 8) }

/-- `slave_mask = slave_mask & single_bit_mask`, with the bits inverted. -/
def clearClockBit (devices : Devices) : Devices :=
  { devices with slaveMask := devices.slaveMask &&& ~~~(singleBitMask (rtcIrq - 8)) }

/-- `outb(slave_mask, SLAVE_8259_PORT_2)` -/
def sendSlaveMask (devices : Devices) : Devices :=
  { devices with slave := devices.slave.writeData devices.slaveMask }

theorem disableIrq_accesses (devices : Devices) :
    devices.disableIrq rtcIrq = devices.setClockBit.sendSlaveMask :=
  rfl

theorem enableIrq_accesses (devices : Devices) :
    devices.enableIrq rtcIrq = devices.clearClockBit.sendSlaveMask :=
  rfl

end Devices

inductive ClockStep : ClockState → ClockLabel → ClockState → Prop
  | starts {state : ClockState} {reader : Nat} (away : state.spinning reader = false) :
      ClockStep state (.starts reader)
        { state with
          devices := { state.devices with rtcInterruptOccurred := false }
          spinning := Function.update state.spinning reader true }
  | spins {state : ClockState} {reader : Nat} (inside : state.spinning reader = true)
      (cleared : state.devices.rtcInterruptOccurred = false) :
      ClockStep state (.spins reader) state
  | returns {state : ClockState} {reader : Nat} (inside : state.spinning reader = true)
      (occurred : state.devices.rtcInterruptOccurred = true) :
      ClockStep state (.returns reader)
        { state with spinning := Function.update state.spinning reader false }
  | tick {state : ClockState} (isOpen : state.devices.ClockOpen) :
      ClockStep state .tick { state with devices := state.devices.rtcIrqHandler }
  | masks {state : ClockState} {writer : Nat} (away : state.writing writer = .away)
      (freq : Option (BitVec 32)) (nbytes : Int) :
      ClockStep state (.masks writer freq nbytes)
        { state with
          devices := state.devices.setClockBit
          writing := Function.update state.writing writer (.masked freq nbytes) }
  | sendsMasked {state : ClockState} {writer : Nat} {freq : Option (BitVec 32)}
      {nbytes : Int} (stage : state.writing writer = .masked freq nbytes) :
      ClockStep state (.sends writer)
        { state with
          devices := state.devices.sendSlaveMask
          writing := Function.update state.writing writer (.sent freq nbytes) }
  | rejects {state : ClockState} {writer : Nat} {freq : Option (BitVec 32)} {nbytes : Int}
      (stage : state.writing writer = .sent freq nbytes)
      (rejected : ¬Devices.Admits freq nbytes) :
      ClockStep state (.rejects writer)
        { state with writing := Function.update state.writing writer .away }
  | unmasks {state : ClockState} {writer : Nat} {freq : Option (BitVec 32)} {nbytes : Int}
      (stage : state.writing writer = .sent freq nbytes)
      (admitted : Devices.Admits freq nbytes) :
      ClockStep state (.unmasks writer)
        { state with
          devices := state.devices.clearClockBit
          writing := Function.update state.writing writer .unmasked }
  | sendsUnmasked {state : ClockState} {writer : Nat}
      (stage : state.writing writer = .unmasked) :
      ClockStep state (.sends writer)
        { state with
          devices := state.devices.sendSlaveMask
          writing := Function.update state.writing writer .away }
  | elsewhere {state : ClockState} {devices : Devices}
      (slave : devices.slave = state.devices.slave)
      (slaveMask : devices.slaveMask = state.devices.slaveMask)
      (flag : devices.rtcInterruptOccurred = state.devices.rtcInterruptOccurred) :
      ClockStep state .elsewhere { state with devices := devices }

theorem ClockStep.programs (state : ClockState) (byte : UInt8) :
    ClockStep state .elsewhere
      { state with devices := { state.devices with rtcRegA := byte } } :=
  .elsewhere rfl rfl rfl

/-- A request that nothing disturbs does what `rtc_write` does. -/
theorem rtcWrite_run {state : ClockState} {writer : Nat}
    (away : state.writing writer = .away) (rate : Nat) (freq : Option (BitVec 32))
    (nbytes : Int) :
    ∃ rest, Run ClockStep state (.masks writer freq nbytes :: .sends writer :: rest)
      { state with devices := (state.devices.rtcWrite rate freq nbytes).1 } := by
  have back (stage : WriteStage) :
      Function.update (Function.update state.writing writer stage) writer .away =
        state.writing := by
    rw [Function.update_idem, ← away, Function.update_eq_self]
  by_cases admits : Devices.Admits freq nbytes
  · obtain ⟨rfl, frequency, rfl, accepts⟩ := admits
    refine ⟨[.elsewhere, .unmasks writer, .sends writer], ?_⟩
    rw [state.devices.rtcWrite_of_accepts rate accepts, Devices.disableIrq_accesses,
      Devices.enableIrq_accesses]
    refine .cons (.masks away _ _) (.cons (.sendsMasked (Function.update_self _ _ _)) ?_)
    refine .cons (.programs _ ((state.devices.rtcRegA &&& 0xF0) |||
      (UInt8.ofNat (Devices.rtcRate rate frequency) &&& 0x0F))) ?_
    refine .cons (.unmasks (Function.update_self _ _ _) ⟨rfl, frequency, rfl, accepts⟩) ?_
    refine .cons (.sendsUnmasked (Function.update_self _ _ _)) ?_
    dsimp only
    rw [Function.update_idem, Function.update_idem, back]
    exact .nil _
  · refine ⟨[.rejects writer], ?_⟩
    rw [state.devices.rtcWrite_of_rejects rate admits, Devices.disableIrq_accesses]
    refine .cons (.masks away _ _) (.cons (.sendsMasked (Function.update_self _ _ _)) ?_)
    refine .cons (.rejects (Function.update_self _ _ _) admits) ?_
    dsimp only
    rw [Function.update_idem, back]
    exact .nil _

/-- The flag behind a label. -/
def ClockLabel.flag (flag : Bool) : ClockLabel → Bool
  | .starts _ => false
  | .tick => true
  | _ => flag

section Flag

variable {state first last : ClockState} {label : ClockLabel} {labels : List ClockLabel}
  {next : ClockState} {reader : Nat}

theorem ClockStep.flag (step : ClockStep state label next) :
    next.devices.rtcInterruptOccurred = label.flag state.devices.rtcInterruptOccurred := by
  cases step with
  | elsewhere _ _ flag => exact flag
  | _ => rfl

/-- The flag only depends on the order of the ticks and of the reads. -/
theorem flag_of_run (run : Run ClockStep first labels last) :
    last.devices.rtcInterruptOccurred =
      labels.foldl ClockLabel.flag first.devices.rtcInterruptOccurred := by
  induction run with
  | nil => rfl
  | cons edge _ ih => rw [ih, edge.flag, List.foldl_cons]

/-- The flag is set when a tick has come behind the last start of a read. -/
theorem foldl_flag_iff (flag : Bool) (labels : List ClockLabel) :
    labels.foldl ClockLabel.flag flag = true ↔
      (∃ before after, labels = before ++ .tick :: after ∧ ∀ other, .starts other ∉ after) ∨
        flag = true ∧ ∀ other, .starts other ∉ labels := by
  induction labels generalizing flag with
  | nil => simp
  | cons label labels ih =>
      rw [List.foldl_cons, ih]
      constructor
      · rintro (⟨before, after, shape, noStart⟩ | ⟨set, noStart⟩)
        · exact Or.inl ⟨label :: before, after, by rw [shape, List.cons_append], noStart⟩
        · cases label with
          | starts other => exact absurd set Bool.false_ne_true
          | tick => exact Or.inl ⟨[], labels, rfl, noStart⟩
          | _ => exact Or.inr ⟨set, by simpa using noStart⟩
      · rintro (⟨before, after, shape, noStart⟩ | ⟨set, noStart⟩)
        · cases before with
          | nil =>
              rw [List.nil_append, List.cons.injEq] at shape
              obtain ⟨rfl, rfl⟩ := shape
              exact Or.inr ⟨rfl, noStart⟩
          | cons head before =>
              rw [List.cons_append, List.cons.injEq] at shape
              exact Or.inl ⟨before, after, shape.2, noStart⟩
        · have inRest : ∀ other, ClockLabel.starts other ∉ labels := fun other mem =>
            noStart other (List.mem_cons_of_mem _ mem)
          refine Or.inr ⟨?_, inRest⟩
          cases label with
          | starts other => exact absurd List.mem_cons_self (noStart other)
          | tick => rfl
          | _ => exact set

/-- A reader stays in its read until it returns. -/
theorem spinning_of_run (run : Run ClockStep first labels last)
    (inside : first.spinning reader = true) (waits : .returns reader ∉ labels) :
    last.spinning reader = true := by
  induction run with
  | nil => exact inside
  | cons edge _ ih =>
      rw [List.mem_cons, not_or] at waits
      apply ih _ waits.2
      cases edge with
      | starts =>
          dsimp only
          rw [Function.update_apply]
          split
          · rfl
          · exact inside
      | returns =>
          dsimp only
          rw [Function.update_apply, if_neg]
          · exact inside
          · rintro rfl
            exact waits.1 rfl
      | _ => exact inside

end Flag

/-- A read can return exactly when a tick has come after its start that no other read has
wiped out by starting later: never early, and never late unless another reader is in the
way. -/
theorem read_wakes_iff {first last : ClockState} {reader : Nat} {labels : List ClockLabel}
    (run : Run ClockStep first (.starts reader :: labels) last)
    (waits : .returns reader ∉ labels) :
    (∃ next, ClockStep last (.returns reader) next) ↔
      ∃ before after, labels = before ++ .tick :: after ∧ ∀ other, .starts other ∉ after := by
  have flag := flag_of_run run
  rw [List.foldl_cons] at flag
  have set := foldl_flag_iff false labels
  have inside : last.spinning reader = true := by
    cases run with
    | cons edge rest =>
        apply spinning_of_run rest _ waits
        cases edge
        exact Function.update_self _ _ _
  constructor
  · rintro ⟨next, step⟩
    cases step with
    | returns _ occurred =>
        rw [flag] at occurred
        rcases set.mp occurred with found | ⟨impossible, -⟩
        · exact found
        · exact absurd impossible Bool.false_ne_true
  · intro found
    exact ⟨_, .returns inside (flag.trans (set.mpr (Or.inl found)))⟩

/-- The second reader starts behind the tick that the first one waits for, and wipes it
out. -/
theorem read_wakes_iff_wiped :
    ∃ last, Run ClockStep ⟨Devices.started, fun _ => false, fun _ => .away⟩
        [.starts 0, .spins 0, .tick, .starts 1] last ∧
      ¬∃ next, ClockStep last (.returns 0) next := by
  have run : Run ClockStep ⟨Devices.started, fun _ => false, fun _ => .away⟩
      [.starts 0, .spins 0, .tick, .starts 1] _ :=
    .cons (.starts rfl) (.cons (.spins rfl rfl) (.cons (.tick (by decide))
      (.cons (.starts rfl) (.nil _))))
  refine ⟨_, run, ?_⟩
  rw [read_wakes_iff run (by simp)]
  rintro ⟨before, after, shape, noStart⟩
  have last : ClockLabel.starts 1 ∈ after := by
    rcases before with - | ⟨_, before⟩
    · cases shape
    · rcases before with - | ⟨_, before⟩
      · cases shape
        exact List.mem_singleton_self _
      · rcases before with - | ⟨_, before⟩
        · cases shape
        · simp at shape
  exact noStart 1 last

section Masked

variable {state first last : ClockState} {label : ClockLabel} {labels : List ClockLabel}
  {next : ClockState}

theorem ClockStep.ready (step : ClockStep state label next)
    (ready : state.devices.slave.icwExpected = 0) :
    next.devices.slave.icwExpected = 0 := by
  have written (byte : UInt8) : (state.devices.slave.writeData byte).icwExpected = 0 := by
    rw [Pic.writeData, if_pos ready]
    exact ready
  cases step with
  | tick =>
      have masked := written (state.devices.slaveMask ||| 1)
      show (((state.devices.slave.writeData (state.devices.slaveMask ||| 1)).writeCommand
        _).writeData _).icwExpected = 0
      rw [Pic.writeCommand, if_neg (by decide), Pic.writeData, if_pos masked]
      exact masked
  | sendsMasked => exact written _
  | sendsUnmasked => exact written _
  | elsewhere slave _ _ =>
      dsimp only
      rw [slave]
      exact ready
  | _ => exact ready

end Masked

end ChapOS
