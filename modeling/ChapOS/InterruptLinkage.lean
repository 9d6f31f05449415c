import ChapOS.SystemCallLinkage
import Mathlib.Data.List.Nodup

/-!
# The assembly linkage of the interrupts

The three handlers of `handlers.S`, on the machine of the system calls.  Each saves
registers and flags, calls its C routine and puts them back, so that the code it
interrupted does not notice: neither a program nor the kernel, and not another handler
whose routine has turned interrupts on.  The segment registers are not among what it
saves: the routine runs on the interrupted DS, and a copy of memory loads ES from it.
-/

namespace ChapOS.Linkage

open WordStack

/-- A handler, without the `call` between its halves and the `iret` behind them. -/
structure InterruptHandler where
  saves : List Instruction
  restores : List Instruction

/-- `rtc_handler` -/
def rtcHandler : InterruptHandler where
  saves := [.pushl .eax, .pushl .ecx, .pushl .edx, .pushl .ebx, .pushl .esi, .pushl .edi,
    .pushl .ebp, .pushfl]
  restores := [.popfl, .popl .ebp, .popl .edi, .popl .esi, .popl .ebx, .popl .edx,
    .popl .ecx, .popl .eax]

/-- `keyboard_handler` -/
def keyboardHandler : InterruptHandler where
  saves := [.pushl .eax, .pushl .ecx, .pushl .edx, .pushl .ebx, .pushl .esi, .pushl .edi,
    .pushl .ebp, .pushfl]
  restores := [.popfl, .popl .ebp, .popl .edi, .popl .esi, .popl .ebx, .popl .edx,
    .popl .ecx, .popl .eax]

/-- `pit_handler` -/
def pitHandler : InterruptHandler where
  saves := [.pushal, .pushfl]
  restores := [.popfl, .popal]

/-- The flags behind an interrupt gate: TF, IF, NT, RF and VM are cleared. -/
def gateFlags (eflags : Word) : Word :=
  eflags &&& ~~~0x34300#32

section Execution

variable {top : Word} (functions : Handler → CFunction top) (inner : Interrupts top)

/-- The C routine has returned.  If it has turned interrupts on, one may arrive here. -/
def landed (called : Machine) : Machine :=
  if called.interruptible then inner.arrive called else called

/-- A handler from its first instruction to its `iret`; `none` if the C routine does not
return, or faults for want of data that it can write. -/
def InterruptHandler.run (handler : InterruptHandler) (routine : CFunction top)
    (machine : Machine) : Option Machine :=
  match Linkage.run functions inner handler.saves machine with
  | .error _ => none
  | .ok saved =>
      if saved.segments.ds.writable then
        match routine.call [] saved with
        | none => none
        | some called =>
            match Linkage.run functions inner handler.restores (landed inner called) with
            | .error _ => none
            | .ok restored => some restored
      else none

/-- An interrupt of the kernel: the stack stays where it is.  The result is where the
processor goes on. -/
def interruptKernel (handler : InterruptHandler) (routine : CFunction top)
    (eip cs : Word) (machine : Machine) : Option (Word × Word × Machine) :=
  let entered := { machine.pushAll [machine.eflags, cs, eip] with
    eflags := gateFlags machine.eflags }
  match handler.run functions inner routine entered with
  | none => none
  | some restored =>
      some (restored.peek, restored.drop.peek,
        { restored.drop.drop.drop with eflags := restored.drop.drop.peek })

/-- An interrupt of a program: the stack of the kernel starts at `top`. -/
def interruptUser (handler : InterruptHandler) (routine : CFunction top)
    (user : Registers) (kernel : Machine) : Option Registers :=
  let entered := { kernel with
    general := Function.update user.general .esp top
    eflags := gateFlags user.eflags
    segments := user.segments }
  let pushed := entered.pushAll
    [user.ss, user.general .esp, user.eflags, user.cs, user.eip]
  (handler.run functions inner routine pushed).map Machine.iret

end Execution

/-- The stack above ESP and the words that an interrupt needs below it do not wrap
around. -/
def Machine.HasRoom (top : Word) (machine : Machine) (words : Nat) : Prop :=
  (top - machine.general .esp).toNat + 4 * words < 2 ^ 32

section Stack

variable {top : Word} {machine : Machine}

theorem push_esp (value : Word) :
    (machine.push value).general .esp = machine.general .esp - 4 :=
  rfl

theorem pushAll_esp (values : List Word) (machine : Machine) :
    (machine.pushAll values).general .esp =
      machine.general .esp - BitVec.ofNat 32 (4 * values.length) := by
  induction values generalizing machine with
  | nil => exact (BitVec.sub_zero _).symm
  | cons value values ih =>
      show ((machine.push value).pushAll values).general .esp = _
      rw [ih, push_esp, List.length_cons, Nat.mul_succ, BitVec.ofNat_add]
      bv_omega

/-- Pushes leave the stack above alone. -/
theorem pushAll_above (values : List Word) (machine : Machine) {offset : Nat}
    (fits : offset + 4 * values.length < 2 ^ 32) :
    (machine.pushAll values).memory (machine.general .esp + BitVec.ofNat 32 offset) =
      machine.memory (machine.general .esp + BitVec.ofNat 32 offset) := by
  induction values generalizing machine offset with
  | nil => rfl
  | cons value values ih =>
      rw [List.length_cons, Nat.mul_succ] at fits
      have same : machine.general .esp + BitVec.ofNat 32 offset =
          (machine.push value).general .esp + BitVec.ofNat 32 (offset + 4) := by
        rw [push_esp, BitVec.ofNat_add]
        bv_omega
      show ((machine.push value).pushAll values).memory _ = _
      rw [same, ih (machine.push value) (by omega), ← same]
      apply storeWord_of_apart
      have distance : machine.general .esp + BitVec.ofNat 32 offset -
          (machine.general .esp - 4) = BitVec.ofNat 32 (offset + 4) := by
        rw [BitVec.ofNat_add]
        bv_omega
      rw [distance, BitVec.toNat_ofNat, Nat.mod_eq_of_lt (by omega)]
      omega

theorem popAll_memory (targets : List Register) (machine : Machine) :
    (machine.popAll targets).memory = machine.memory := by
  induction targets generalizing machine with
  | nil => rfl
  | cons target targets ih =>
      obtain ⟨-, -, -, memory, -⟩ := @Machine.popInto_kept machine target
      show ((machine.popInto target).popAll targets).memory = _
      rw [ih, memory]

/-- What lies between ESP and the end of the stack is further from the end after a push. -/
theorem distance_pushAll {words : Nat} (room : machine.HasRoom top words)
    {values : List Word} (fits : values.length ≤ words) :
    (top - (machine.pushAll values).general .esp).toNat =
      (top - machine.general .esp).toNat + 4 * values.length := by
  unfold Machine.HasRoom at room
  rw [pushAll_esp]
  bv_omega

end Stack

/-! ## One interrupt -/

section Interrupted

variable {top : Word} {functions : Handler → CFunction top} {inner : Interrupts top}
  {machine called restored : Machine} {handler : InterruptHandler}
  {routine : CFunction top}

/-- The registers that a handler saves, in the order of its pushes. -/
structure SavesInOrder (handler : InterruptHandler) (order : List Register) : Prop where
  distinct : order.Nodup
  complete : ∀ register ≠ .esp, register ∈ order
  short : order.length ≤ 8
  saves : ∀ {top : Word} (functions : Handler → CFunction top) (inner : Interrupts top)
    (machine : Machine), machine.interruptible = false →
    run functions inner handler.saves machine =
      .ok ((machine.pushAll (order.map machine.general)).push machine.eflags)
  restores : ∀ {top : Word} (functions : Handler → CFunction top) (inner : Interrupts top)
    (machine : Machine), machine.peek.getLsbD 9 = false →
    run functions inner handler.restores machine =
      .ok ({ machine.drop with eflags := machine.peek }.popAll order.reverse)

theorem rtcHandler_saves : SavesInOrder rtcHandler
    [.eax, .ecx, .edx, .ebx, .esi, .edi, .ebp] where
  distinct := by decide
  complete := by
    intro register other
    cases register <;> first | decide | exact absurd rfl other
  short := by decide
  saves := by
    intro top functions inner machine quiet
    have pushes := @run_pushes top functions inner machine
      [.eax, .ecx, .edx, .ebx, .esi, .edi, .ebp] (by decide) [.pushfl] quiet
    obtain ⟨eflags, -, -⟩ := Machine.pushAll_kept
      ([.eax, .ecx, .edx, .ebx, .esi, .edi, .ebp].map machine.general) machine
    refine pushes.trans ?_
    generalize machine.pushAll ([.eax, .ecx, .edx, .ebx, .esi, .edi, .ebp].map
      machine.general) = pushed at eflags ⊢
    have pushedQuiet : pushed.interruptible = false := by
      rw [Machine.interruptible, eflags]
      exact quiet
    have flags := @run_quiet top functions inner pushed _ .pushfl [] (.inl pushedQuiet) rfl
    rw [flags, run, eflags]
  restores := by
    intro top functions inner machine quiet
    have pops := @run_pops top functions inner
      { machine.drop with eflags := machine.peek } [.ebp, .edi, .esi, .ebx, .edx, .ecx, .eax]
      quiet
    have flags := @run_quiet top functions inner machine
      { machine.drop with eflags := machine.peek } .popfl
      ([.ebp, .edi, .esi, .ebx, .edx, .ecx, .eax].map .popl) (.inr quiet) rfl
    exact flags.trans pops

/-- The stack that the routine finds is there again when it has returned. -/
theorem KeepsAbove.landed (keeps : Machine.KeepsAbove top 0 machine called) :
    Machine.KeepsAbove top 0 machine (landed inner called) := by
  unfold Linkage.landed
  split
  · obtain ⟨esp, above⟩ := keeps
    obtain ⟨innerEsp, innerAbove⟩ := inner.keepsStack called
    refine ⟨innerEsp.trans esp, fun offset low inside => ?_⟩
    rw [← above offset low inside, ← esp]
    apply innerAbove offset low
    rwa [esp]
  · exact keeps

/-- Code that keeps a longer stretch of the stack keeps a frame. -/
theorem Frame.keepWithin {words : List Word} {stop : Word} {after : Machine}
    (frame : Frame stop machine words) (keeps : Machine.KeepsAbove top 0 machine after)
    (within : 4 * words.length ≤ (top - machine.general .esp).toNat) :
    Frame stop after words := by
  have own : Machine.KeepsAbove stop (4 * ([] : List Word).length) machine after := by
    refine ⟨keeps.1, fun offset low inside => keeps.2 offset low ?_⟩
    rw [frame.distance] at inside
    omega
  obtain ⟨changed, changedLength, kept⟩ := @Frame.keep stop machine after words [] frame own
  rw [List.length_nil, List.length_eq_zero_iff] at changedLength
  rwa [changedLength] at kept

theorem landed_spared (inner : Interrupts top) (called : Machine) :
    called.segments.Spared (landed inner called).segments := by
  unfold landed
  split
  · exact inner.sparesSegments called
  · exact .refl _

/-- Words have been pushed: they are a frame of their own, and the stack above them is as it
was. -/
structure Pushed (top : Word) (values : List Word) (machine pushed : Machine) : Prop where
  frame : Frame (machine.general .esp) pushed values.reverse
  distance : (top - pushed.general .esp).toNat =
    (top - machine.general .esp).toNat + 4 * values.length
  place : ∀ offset, machine.general .esp + BitVec.ofNat 32 offset =
    pushed.general .esp + BitVec.ofNat 32 (offset + 4 * values.length)
  above : ∀ offset < (top - machine.general .esp).toNat,
    pushed.memory (machine.general .esp + BitVec.ofNat 32 offset) =
      machine.memory (machine.general .esp + BitVec.ofNat 32 offset)
  segments : pushed.segments = machine.segments

namespace Pushed

variable {values : List Word} {pushed after : Machine} {words : Nat}

theorem of_room (room : machine.HasRoom top words) (fits : values.length ≤ words)
    (short : values.length ≤ 64) : Pushed top values machine (machine.pushAll values) := by
  have empty : Frame (machine.general .esp) machine [] := by
    refine ⟨Holds.nil, ?_, Nat.zero_le 64⟩
    simp
  have further := distance_pushAll room fits
  unfold Machine.HasRoom at room
  constructor
  · have frame := empty.pushAll values (by rwa [List.length_nil])
    rwa [List.append_nil] at frame
  · exact further
  · intro offset
    rw [pushAll_esp, BitVec.ofNat_add]
    bv_omega
  · intro offset inside
    exact pushAll_above values machine (by omega)
  · exact Machine.pushAll_segments values machine

theorem setEflags (isPushed : Pushed top values machine pushed) (eflags : Word) :
    Pushed top values machine { pushed with eflags := eflags } :=
  ⟨⟨isPushed.frame.holds, isPushed.frame.upTo, isPushed.frame.short⟩, isPushed.distance,
    isPushed.place, isPushed.above, isPushed.segments⟩

/-- Code that keeps the stack keeps the words, and what is above them. -/
theorem keep (isPushed : Pushed top values machine pushed)
    (keeps : Machine.KeepsAbove top 0 pushed after) :
    Frame (machine.general .esp) after values.reverse ∧
      ∀ offset < (top - machine.general .esp).toNat,
        after.memory (machine.general .esp + BitVec.ofNat 32 offset) =
          machine.memory (machine.general .esp + BitVec.ofNat 32 offset) := by
  have distance := isPushed.distance
  constructor
  · apply isPushed.frame.keepWithin keeps
    rw [List.length_reverse]
    omega
  · intro offset inside
    rw [← isPushed.above offset inside, isPushed.place]
    exact keeps.2 _ (Nat.zero_le _) (by omega)

end Pushed

/-- The second half of a handler finds what the first one has saved. -/
theorem restored_keeps {order : List Register} (saves : SavesInOrder handler order)
    {saved : Register → Word} {eflags stop : Word}
    (frame : Frame stop machine (eflags :: order.reverse.map saved)) :
    let restored := { machine.drop with eflags := machine.peek }.popAll order.reverse
    restored.general .esp = stop ∧
      (∀ register ≠ .esp, restored.general register = saved register) ∧
      restored.eflags = eflags ∧ restored.memory = machine.memory := by
  have dropped := frame.drop
  have lowerFrame : Frame stop { machine.drop with eflags := machine.peek }
      (order.reverse.map saved ++ []) := by
    rw [List.append_nil]
    exact ⟨dropped.holds, dropped.upTo, dropped.short⟩
  have popped := lowerFrame.popAll (List.length_map _)
  have values := lowerFrame.popAll_saved (List.nodup_reverse.mpr saves.distinct)
  obtain ⟨flags, -, -, -⟩ := Machine.popAll_kept order.reverse
    { machine.drop with eflags := machine.peek }
  refine ⟨?_, fun register other => ?_, flags.trans frame.peek, popAll_memory _ _⟩
  · have upTo := popped.upTo
    rwa [List.length_nil, Nat.mul_zero, BitVec.add_zero] at upTo
  · exact values register (List.mem_reverse.mpr (saves.complete register other)) other

/-- A handler puts the registers, the flags and the stack above back. -/
theorem run_keeps {order : List Register} (saves : SavesInOrder handler order)
    (quiet : machine.interruptible = false) (room : machine.HasRoom top 9)
    (data : machine.segments.ds.writable = true)
    (returns : ∀ saved, (routine.call [] saved).isSome) (spares : routine.Spares) :
    ∃ restored, handler.run functions inner routine machine = some restored ∧
      restored.general = machine.general ∧ restored.eflags = machine.eflags ∧
      Machine.KeepsAbove top 0 machine restored ∧
      machine.segments.Spared restored.segments := by
  unfold InterruptHandler.run
  rw [saves.saves functions inner machine quiet]
  dsimp only
  have values : (machine.pushAll (order.map machine.general)).push machine.eflags =
      machine.pushAll (order.map machine.general ++ [machine.eflags]) := by
    rw [Machine.pushAll, Machine.pushAll, List.foldl_append]
    rfl
  have short := saves.short
  have pushed : Pushed top (order.map machine.general ++ [machine.eflags]) machine
      ((machine.pushAll (order.map machine.general)).push machine.eflags) := by
    rw [values]
    apply Pushed.of_room room
    · rw [List.length_append, List.length_map, List.length_singleton]
      omega
    · rw [List.length_append, List.length_map, List.length_singleton]
      omega
  have segments := pushed.segments
  generalize (machine.pushAll (order.map machine.general)).push machine.eflags = saved at *
  rw [if_pos (by rw [segments]; exact data)]
  obtain ⟨called, returned⟩ := Option.isSome_iff_exists.mp (returns saved)
  rw [returned]
  dsimp only
  obtain ⟨frame, above⟩ := pushed.keep (@KeepsAbove.landed top inner saved called
    (routine.keepsFrame [] saved called returned))
  have spared := (spares [] saved called returned).trans (landed_spared inner called)
  rw [segments] at spared
  generalize landed inner called = landed at frame above spared ⊢
  rw [List.reverse_append, List.reverse_singleton, List.singleton_append,
    ← List.map_reverse] at frame
  rw [saves.restores functions inner landed (by rw [frame.peek]; exact quiet)]
  obtain ⟨esp, registers, eflags, memory⟩ := restored_keeps saves frame
  have restoredSegments : ({ landed.drop with eflags := landed.peek }.popAll
      order.reverse).segments = landed.segments :=
    Machine.popAll_segments _ _
  refine ⟨_, rfl, ?_, eflags, ⟨esp, fun offset _ inside => ?_⟩,
    restoredSegments ▸ spared⟩
  · funext register
    by_cases stack : register = .esp
    · rw [stack, esp]
    · exact registers register stack
  · rw [memory]
    exact above offset inside

/-- The gate has turned interrupts off. -/
theorem gateFlags_quiet (eflags : Word) : (gateFlags eflags).getLsbD 9 = false := by
  rw [gateFlags, BitVec.getLsbD_and]
  simp

/-- The kernel goes on where it was interrupted, with its registers, its flags and its
stack. -/
theorem interruptKernel_resumes {order : List Register} (saves : SavesInOrder handler order)
    (room : machine.HasRoom top 12) (data : machine.segments.ds.writable = true)
    (returns : ∀ saved, (routine.call [] saved).isSome) (spares : routine.Spares)
    (eip cs : Word) :
    ∃ after, interruptKernel functions inner handler routine eip cs machine =
        some (eip, cs, after) ∧
      after.general = machine.general ∧ after.eflags = machine.eflags ∧
      Machine.KeepsAbove top 0 machine after ∧
      machine.segments.Spared after.segments := by
  have pushed := (@Pushed.of_room top machine [machine.eflags, cs, eip] 12 room (by simp)
    (by simp)).setEflags (gateFlags machine.eflags)
  obtain ⟨-, -, general⟩ := Machine.pushAll_kept [machine.eflags, cs, eip] machine
  unfold interruptKernel
  dsimp only
  generalize machine.pushAll [machine.eflags, cs, eip] = entered at *
  have quiet : Machine.interruptible { entered with eflags := gateFlags machine.eflags } =
      false :=
    gateFlags_quiet machine.eflags
  have roomLeft : Machine.HasRoom top { entered with eflags := gateFlags machine.eflags } 9 := by
    unfold Machine.HasRoom at room ⊢
    rw [pushed.distance]
    simp only [List.length_cons, List.length_nil]
    omega
  have enteredData : Selector.writable (Machine.segments { entered with
      eflags := gateFlags machine.eflags }).ds = true := by
    rw [pushed.segments]
    exact data
  obtain ⟨restored, runs, registers, -, keeps, spared⟩ :=
    @run_keeps top functions inner _ handler routine order saves quiet roomLeft enteredData
      returns spares
  rw [runs]
  obtain ⟨atIret, above⟩ := pushed.keep keeps
  have atCs := atIret.drop
  have atEflags := atCs.drop
  have resumed := atEflags.drop
  dsimp only
  rw [atIret.peek, atCs.peek, atEflags.peek]
  have espBack : restored.drop.drop.drop.general .esp = machine.general .esp := by
    have upTo := resumed.upTo
    rwa [List.length_nil, Nat.mul_zero, BitVec.add_zero] at upTo
  refine ⟨_, rfl, ?_, rfl, ⟨espBack, fun offset _ inside => above offset inside⟩,
    pushed.segments ▸ spared⟩
  funext register
  by_cases stack : register = .esp
  · rw [stack]
    exact espBack
  · show restored.drop.drop.drop.general register = _
    rw [Machine.drop_general stack, Machine.drop_general stack, Machine.drop_general stack,
      registers]
    exact general register stack

/-- A program goes on where it was interrupted, with all its registers but ES. -/
theorem interruptUser_resumes {order : List Register} (saves : SavesInOrder handler order)
    (returns : ∀ saved, (routine.call [] saved).isSome) (spares : routine.Spares)
    {user : Registers} (data : user.segments.ds.writable = true) (kernel : Machine) :
    ∃ segments, user.segments.Spared segments ∧
      interruptUser functions inner handler routine user kernel =
        some { user with segments := segments } := by
  have start : Frame top { kernel with
      general := Function.update user.general .esp top
      eflags := gateFlags user.eflags
      segments := user.segments } [] := by
    refine ⟨Holds.nil, ?_, Nat.zero_le 64⟩
    simp
  have pushed := start.pushAll
    [user.ss, user.general .esp, user.eflags, user.cs, user.eip] (by simp)
  obtain ⟨eflags, -, general⟩ := Machine.pushAll_kept
    [user.ss, user.general .esp, user.eflags, user.cs, user.eip]
    { kernel with
      general := Function.update user.general .esp top
      eflags := gateFlags user.eflags
      segments := user.segments }
  have segments : (Machine.pushAll { kernel with
      general := Function.update user.general .esp top
      eflags := gateFlags user.eflags
      segments := user.segments }
        [user.ss, user.general .esp, user.eflags, user.cs, user.eip]).segments =
      user.segments :=
    Machine.pushAll_segments _ _
  unfold interruptUser
  dsimp only
  generalize Machine.pushAll _ [user.ss, user.general .esp, user.eflags, user.cs, user.eip] =
    entered at *
  have quiet : entered.interruptible = false := by
    rw [Machine.interruptible, eflags]
    exact gateFlags_quiet user.eflags
  have distance := pushed.distance
  have room : entered.HasRoom top 9 := by
    unfold Machine.HasRoom
    rw [distance]
    simp
  have enteredData : entered.segments.ds.writable = true := by
    rw [segments]
    exact data
  obtain ⟨restored, runs, registers, -, keeps, spared⟩ :=
    @run_keeps top functions inner entered handler routine order saves quiet room
      enteredData returns spares
  have atIret : Frame top restored (trapFrame user) :=
    pushed.keepWithin keeps (Nat.le_of_eq distance.symm)
  rw [runs, Option.map_some, atIret.iret]
  have same : Function.update restored.general .esp (user.general .esp) = user.general := by
    funext register
    by_cases stack : register = .esp
    · rw [stack, Function.update_self]
    · rw [Function.update_of_ne stack, registers, general register stack]
      exact Function.update_of_ne stack _ _
  rw [same]
  exact ⟨_, segments ▸ spared, rfl⟩

end Interrupted

/-! ## Interrupts inside interrupts -/

/-- An interrupt that arrives: its handler, a C routine that returns, and where in the
kernel it arrives.  The interrupts inside the routine count as arriving at one point of
it, its end; those that come earlier are part of what the routine does. -/
structure Arrival (top : Word) where
  handler : InterruptHandler
  order : List Register
  saves : SavesInOrder handler order
  routine : CFunction top
  returns : ∀ saved, (routine.call [] saved).isSome
  spares : routine.Spares
  eip : Word
  cs : Word

instance (top : Word) (machine : Machine) (words : Nat) :
    Decidable (machine.HasRoom top words) :=
  inferInstanceAs (Decidable (_ < _))

section Nested

variable {top : Word} (functions : Handler → CFunction top) (inner : Interrupts top)

/-- The machine behind an interrupt.  A stack without room below it is never reached: the
kernel stacks have 8KB.  Where DS cannot be written the routine faults, and nothing
comes back of the interrupt. -/
def Arrival.arrive (arrival : Arrival top) (machine : Machine) : Machine :=
  if machine.HasRoom top 12 ∧ machine.segments.ds.writable then
    match interruptKernel functions inner arrival.handler arrival.routine arrival.eip
        arrival.cs machine with
    | some (_, _, after) => after
    | none => machine
  else machine

theorem Arrival.arrive_keeps (arrival : Arrival top) (machine : Machine) :
    (arrival.arrive functions inner machine).general = machine.general ∧
      (arrival.arrive functions inner machine).eflags = machine.eflags ∧
      Machine.KeepsAbove top 0 machine (arrival.arrive functions inner machine) ∧
      machine.segments.Spared (arrival.arrive functions inner machine).segments := by
  unfold Arrival.arrive
  split
  · rename_i served
    obtain ⟨after, resumes, general, eflags, keeps, spared⟩ :=
      @interruptKernel_resumes top functions inner machine _ _ _ arrival.saves served.1
        served.2 arrival.returns arrival.spares arrival.eip arrival.cs
    rw [resumes]
    exact ⟨general, eflags, keeps, spared⟩
  · exact ⟨rfl, rfl, ⟨rfl, fun _ _ _ => rfl⟩, .refl _⟩

theorem arrivals_keep (arrivals : List (Arrival top)) (machine : Machine) :
    let after := arrivals.foldl
      (fun current arrival => arrival.arrive functions inner current) machine
    after.general = machine.general ∧ after.eflags = machine.eflags ∧
      Machine.KeepsAbove top 0 machine after ∧
      machine.segments.Spared after.segments := by
  induction arrivals generalizing machine with
  | nil => exact ⟨rfl, rfl, ⟨rfl, fun _ _ _ => rfl⟩, .refl _⟩
  | cons arrival arrivals ih =>
      obtain ⟨general, eflags, ⟨esp, above⟩, spared⟩ :=
        arrival.arrive_keeps functions inner machine
      obtain ⟨restGeneral, restEflags, ⟨restEsp, restAbove⟩, restSpared⟩ :=
        ih (arrival.arrive functions inner machine)
      refine ⟨restGeneral.trans general, restEflags.trans eflags,
        ⟨restEsp.trans esp, ?_⟩, spared.trans restSpared⟩
      intro offset low inside
      rw [← above offset low inside, ← esp]
      apply restAbove offset low
      rwa [esp]

theorem arrivals_served (arrivals : List (Arrival top)) {machine : Machine}
    (noData : machine.segments.ds.writable = false) :
    arrivals.foldl (fun current arrival => arrival.arrive functions inner current)
      machine = machine := by
  induction arrivals with
  | nil => rfl
  | cons arrival arrivals ih =>
      have unserved : arrival.arrive functions inner machine = machine := by
        unfold Arrival.arrive
        rw [if_neg (by simp [noData])]
      rw [List.foldl_cons, unserved, ih]

/-- The interrupts that the handlers serve: any number of them may arrive at a time, and
those of `inner` while one is being served. -/
def Interrupts.handled (arrivals : Machine → List (Arrival top)) : Interrupts top where
  arrive machine := (arrivals machine).foldl
    (fun current arrival => arrival.arrive functions inner current) machine
  keepsGeneral machine := (arrivals_keep functions inner (arrivals machine) machine).1
  keepsEflags machine := (arrivals_keep functions inner (arrivals machine) machine).2.1
  keepsStack machine := (arrivals_keep functions inner (arrivals machine) machine).2.2.1
  sparesSegments machine :=
    (arrivals_keep functions inner (arrivals machine) machine).2.2.2
  served machine noData := arrivals_served functions inner (arrivals machine) noData

/-- Interrupts that are served by the handlers, one inside the other up to a depth. -/
def nestedInterrupts (arrivals : Nat → Machine → List (Arrival top)) : Nat → Interrupts top
  | 0 => noInterrupts top
  | depth + 1 => (nestedInterrupts arrivals depth).handled functions (arrivals depth)

end Nested

/-- A routine that copies memory. -/
def copyingRoutine (top : Word) : CFunction top :=
  returnsMinusOne top Segments.reloadEs Segments.reloadEs_ds

theorem copyingRoutine_spares (top : Word) : (copyingRoutine top).Spares := by
  intro arguments before after called
  cases called
  exact .inr rfl

end ChapOS.Linkage
