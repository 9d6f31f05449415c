import ChapOS.WordStack
import Mathlib.Logic.Function.Basic
import Mathlib.Tactic.IntervalCases

/-!
# The assembly linkage of the system calls

`main_syscall` and the stubs behind its jump table, instruction by
instruction, on a machine with the eight general registers, EFLAGS, the data
segment registers and byte memory.  The C functions they call and the interrupt
routines are unknowns that keep the calling convention: a C function leaves ESP
and the stack above its arguments alone, and an interrupt routine returns with
the general registers and the flags as they were.  Nothing saves the segment
registers, and both reach block routines that load ES from DS.
-/

namespace ChapOS.Linkage

open WordStack

inductive Register
  | eax | ecx | edx | ebx | esp | ebp | esi | edi
  deriving DecidableEq, Repr

/-- The selectors that a segment register can hold while a program runs: null, and
`USER_CS` and `USER_DS` with any privilege.  The other descriptors of the GDT are the
kernel's, and the LDT has none. -/
inductive Selector
  | null (rpl : BitVec 2)
  | userCs (rpl : BitVec 2)
  | userDs (rpl : BitVec 2)
  deriving DecidableEq, Repr

namespace Selector

/-- Memory can be read through it; the code segment is readable. -/
def readable : Selector → Bool
  | null _ => false
  | userCs _ => true
  | userDs _ => true

/-- Memory can be written through it. -/
def writable : Selector → Bool
  | null _ => false
  | userCs _ => false
  | userDs _ => true

theorem readable_of_writable {selector : Selector} (writable : selector.writable = true) :
    selector.readable = true := by
  cases selector with
  | userDs rpl => rfl
  | _ => cases writable

end Selector

/-- The data segment registers. -/
structure Segments where
  ds : Selector
  es : Selector
  fs : Selector
  gs : Selector
  deriving DecidableEq, Repr

namespace Segments

/-- `movw %ds, %dx; movw %dx, %es`, as in `memset`, `memcpy` and `memmove`. -/
def reloadEs (segments : Segments) : Segments :=
  { segments with es := segments.ds }

theorem reloadEs_ds (segments : Segments) : segments.reloadEs.ds = segments.ds :=
  rfl

/-- All that C code does to the segment registers. -/
def Spared (before after : Segments) : Prop :=
  after = before ∨ after = before.reloadEs

variable {before middle after : Segments}

theorem Spared.refl (segments : Segments) : segments.Spared segments :=
  .inl rfl

theorem Spared.trans (first : before.Spared middle) (second : middle.Spared after) :
    before.Spared after := by
  rcases first with rfl | rfl
  · exact second
  · exact .inr (second.elim id id)

theorem Spared.ds (spared : before.Spared after) : after.ds = before.ds := by
  rcases spared with rfl | rfl
  · rfl
  · rfl

end Segments

/-- The C functions that the system-call interface numbers from 1 to 10. -/
inductive Handler
  | halt | execute | read | write | open_ | close | getargs | vidmap
  | setHandler | sigreturn
  deriving DecidableEq, Repr

namespace Handler

/-- Number of parameters of the C function. -/
def arity : Handler → Nat
  | halt | execute | open_ | close | vidmap => 1
  | getargs | setHandler => 2
  | read | write => 3
  | sigreturn => 0

/-- The handler that the interface binds to a number. -/
def bound (number : Word) : Option Handler :=
  if number = 0 then none
  else [halt, execute, read, write, open_, close, getargs, vidmap, setHandler,
    sigreturn][number.toNat - 1]?

end Handler

/-- A call of a C function: the arguments it found, and what it returned. -/
structure Call where
  handler : Handler
  arguments : List Word
  result : Option Word
  deriving DecidableEq, Repr

structure Machine where
  general : Register → Word
  eflags : Word
  segments : Segments
  memory : Bytes
  mainSyscallRetval : Word
  calls : List Call

/-- What `int` saves and `iret` restores, the general registers and the data segment
registers. -/
@[ext]
structure Registers where
  general : Register → Word
  eip : Word
  cs : Word
  eflags : Word
  ss : Word
  segments : Segments

namespace Machine

/-- The interrupt flag, bit 9 of EFLAGS. -/
def interruptible (machine : Machine) : Bool :=
  machine.eflags.getLsbD 9

def push (machine : Machine) (value : Word) : Machine :=
  { machine with
    general := Function.update machine.general .esp (machine.general .esp - 4)
    memory := WordStack.storeWord machine.memory (machine.general .esp - 4) value }

def pushAll (machine : Machine) (values : List Word) : Machine :=
  values.foldl push machine

def peek (machine : Machine) : Word :=
  loadWord machine.memory (machine.general .esp)

def drop (machine : Machine) : Machine :=
  { machine with
    general := Function.update machine.general .esp (machine.general .esp + 4) }

def set (machine : Machine) (target : Register) (value : Word) : Machine :=
  { machine with general := Function.update machine.general target value }

/-- `popl`; the slot of ESP is only passed over, as `popal` does. -/
def popInto (machine : Machine) (target : Register) : Machine :=
  if target = .esp then machine.drop
  else machine.drop.set target machine.peek

def popAll (machine : Machine) (targets : List Register) : Machine :=
  targets.foldl popInto machine

/-- ESP is the same, and so is the stack from `depth` bytes above it to `top`. -/
def KeepsAbove (top : Word) (depth : Nat) (before after : Machine) : Prop :=
  after.general .esp = before.general .esp ∧
    ∀ offset : Nat, depth ≤ offset → offset < (top - before.general .esp).toNat →
      after.memory (before.general .esp + BitVec.ofNat 32 offset) =
        before.memory (before.general .esp + BitVec.ofNat 32 offset)

end Machine

/-- A C function called on the stack that ends at `top`, by what it does to
the machine; `none` if it never returns.  Its data are still in reach when it has
returned. -/
structure CFunction (top : Word) where
  call : List Word → Machine → Option Machine
  keepsFrame : ∀ arguments before after, call arguments before = some after →
    Machine.KeepsAbove top (4 * arguments.length) before after
  keepsData : ∀ arguments before after, call arguments before = some after →
    before.segments.ds.writable = true → after.segments.ds.writable = true

/-- The interrupt routines that may run between two instructions.  None is served
where DS cannot be written: its routine would not return. -/
structure Interrupts (top : Word) where
  arrive : Machine → Machine
  keepsGeneral : ∀ machine, (arrive machine).general = machine.general
  keepsEflags : ∀ machine, (arrive machine).eflags = machine.eflags
  keepsStack : ∀ machine, Machine.KeepsAbove top 0 machine (arrive machine)
  sparesSegments : ∀ machine : Machine,
    machine.segments.Spared (arrive machine).segments
  served : ∀ machine : Machine, machine.segments.ds.writable = false →
    arrive machine = machine

/-- What the function makes of the segment registers of which `holds`. -/
def CFunction.Leaves {top : Word} (function : CFunction top)
    (holds leaves : Segments → Prop) : Prop :=
  ∀ arguments before after, function.call arguments before = some after →
    holds before.segments → leaves after.segments

def CFunction.Returns {top : Word} (function : CFunction top) : Prop :=
  ∀ arguments before, (function.call arguments before).isSome

/-- What holds of the segment registers in front of an interrupt holds behind it. -/
def Interrupts.Keeps {top : Word} (interrupts : Interrupts top)
    (holds : Segments → Prop) : Prop :=
  ∀ machine : Machine, holds machine.segments →
    holds (interrupts.arrive machine).segments

theorem Interrupts.keeps_spared {top : Word} (interrupts : Interrupts top)
    (segments : Segments) : interrupts.Keeps segments.Spared :=
  fun machine spared => spared.trans (interrupts.sparesSegments machine)

theorem Interrupts.keeps_writable {top : Word} (interrupts : Interrupts top) :
    interrupts.Keeps fun segments => segments.ds.writable = true := by
  intro machine data
  rw [(interrupts.sparesSegments machine).ds]
  exact data

def CFunction.Spares {top : Word} (function : CFunction top) : Prop :=
  ∀ arguments before after, function.call arguments before = some after →
    before.segments.Spared after.segments

/-- The functions leave the segment registers alone but for ES.  `execute` comes back
with what the program has left that it started. -/
def SparesSegments {top : Word} (functions : Handler → CFunction top) : Prop :=
  ∀ handler ≠ .execute, (functions handler).Spares

inductive Instruction
  | cli | sti | pushfl | popfl | pushal | popal
  | pushl (source : Register)
  | popl (target : Register)
  /-- `leal displacement(base), target`, without a base for `leal -1, %eax`. -/
  | leal (displacement : Word) (base : Option Register) (target : Register)
  | call (handler : Handler)
  /-- `movl %eax, (main_syscall_retval)`. -/
  | storeRetval
  /-- `movl (main_syscall_retval), %eax`. -/
  | loadRetval
  deriving DecidableEq, Repr

/-- Push order of `pushal`. -/
def pushalOrder : List Register :=
  [.eax, .ecx, .edx, .ebx, .esp, .ebp, .esi, .edi]

/-- Why a run does not go on: a called function does not come back, or an access
through DS faults in the kernel. -/
inductive Stop
  | neverReturns (calls : List Call)
  | faults (calls : List Call)

section Execution

variable {top : Word} (functions : Handler → CFunction top)
  (interrupts : Interrupts top)

/-- One instruction.  The stack is reached through SS, the variables of the kernel
through DS; C code that cannot write them faults at its first store. -/
def Instruction.execute (machine : Machine) :
    Instruction → Except Stop Machine
  | .cli => .ok { machine with eflags := machine.eflags &&& ~~~0x200#32 }
  | .sti => .ok { machine with eflags := machine.eflags ||| 0x200#32 }
  | .pushfl => .ok (machine.push machine.eflags)
  | .popfl => .ok { machine.drop with eflags := machine.peek }
  | .pushal => .ok (machine.pushAll (pushalOrder.map machine.general))
  | .popal => .ok (machine.popAll pushalOrder.reverse)
  | .pushl source => .ok (machine.push (machine.general source))
  | .popl target => .ok (machine.popInto target)
  | .leal displacement base target =>
      .ok (machine.set target (displacement + (base.map machine.general).getD 0))
  | .call handler =>
      let arguments := loadWords machine.memory (machine.general .esp) handler.arity
      if machine.segments.ds.writable then
        match (functions handler).call arguments machine with
        | some after =>
            .ok { after with
              calls := machine.calls ++ [⟨handler, arguments, some (after.general .eax)⟩] }
        | none => .error (.neverReturns (machine.calls ++ [⟨handler, arguments, none⟩]))
      else .error (.faults machine.calls)
  | .storeRetval =>
      if machine.segments.ds.writable then
        .ok { machine with mainSyscallRetval := machine.general .eax }
      else .error (.faults machine.calls)
  | .loadRetval =>
      if machine.segments.ds.readable then
        .ok (machine.set .eax machine.mainSyscallRetval)
      else .error (.faults machine.calls)

/-- Interrupts arrive after an instruction only if the flag was already set
before it: `sti` takes effect one instruction late. -/
def boundary (before after : Machine) : Machine :=
  if before.interruptible && after.interruptible then
    { interrupts.arrive after with calls := after.calls }
  else after

def run : List Instruction → Machine → Except Stop Machine
  | [], machine => .ok machine
  | instruction :: rest, machine =>
      match instruction.execute functions machine with
      | .ok after => run rest (boundary interrupts machine after)
      | .error stop => .error stop

end Execution

/-- The stub of one system call, without its final `ret`: push the arguments,
last one first, call the C function with interrupts on, pop them again. -/
def argumentStub (handler : Handler) (arguments : List Register) :
    List Instruction :=
  arguments.reverse.map .pushl ++ [.sti, .call handler, .cli] ++ arguments.map .popl

def haltStub := argumentStub .halt [.ebx]

def executeStub := argumentStub .execute [.ebx]

def readStub := argumentStub .read [.ebx, .ecx, .edx]

def writeStub := argumentStub .write [.ebx, .ecx, .edx]

def openStub := argumentStub .open_ [.ebx]

def closeStub := argumentStub .close [.ebx]

def getargsStub := argumentStub .getargs [.ebx, .ecx]

def vidmapStub := argumentStub .vidmap [.ebx]

/-- The nine words of the jump table; its first one is 0. -/
def syscallJmp : List (Option (List Instruction)) :=
  [none, some haltStub, some executeStub, some readStub, some writeStub,
    some openStub, some closeStub, some getargsStub, some vidmapStub]

/-- How an `int 0x80` ends. -/
inductive Outcome
  | returned (registers : Registers) (calls : List Call)
  | stops (stop : Stop)
  /-- The jump target is fetched from behind `syscall_jmp`. -/
  | outsideTable (index : Word)
  /-- Control goes to an address that is no return address. -/
  | strays (target : Word)

/-- `iret` to the outer privilege level pops EIP, CS, EFLAGS, ESP and SS.  It clears
the segment registers that are not for that level, and there are none. -/
def Machine.iret (machine : Machine) : Registers where
  eip := machine.peek
  cs := machine.drop.peek
  eflags := machine.drop.drop.peek
  general := Function.update machine.general .esp machine.drop.drop.drop.peek
  ss := machine.drop.drop.drop.drop.peek
  segments := machine.segments

section MainSyscall

variable {top : Word} (functions : Handler → CFunction top)
  (interrupts : Interrupts top) (afterCall : Word)

/-- A block that ends in `iret`. -/
def returning (block : List Instruction) (machine : Machine) : Outcome :=
  match run functions interrupts block machine with
  | .ok after => .returned after.iret after.calls
  | .error stop => .stops stop

def retErr (machine : Machine) : Outcome :=
  returning functions interrupts [.popal, .leal (-1) none .eax, .popfl, .sti] machine

/-- `call *syscall_jmp(,%eax,4)` and what follows its return. -/
def callEntry (machine : Machine) : Outcome :=
  if machine.segments.ds.readable then
    match syscallJmp[(machine.general .eax).toNat]? with
    | none => .outsideTable (machine.general .eax)
    | some none => .strays 0
    | some (some stub) =>
        match run functions interrupts stub (machine.push afterCall) with
        | .error stop => .stops stop
        | .ok after =>
            -- `ret` goes where the stub left the return address
            if after.peek = afterCall then
              returning functions interrupts
                [.storeRetval, .popal, .loadRetval, .popfl, .sti] after.drop
            else .strays after.peek
  else .stops (.faults machine.calls)

def mainSyscall (machine : Machine) : Outcome :=
  match run functions interrupts
    [.cli, .pushfl, .pushal, .leal 32 (some .esp) .esi] machine with
  | .error stop => .stops stop
  | .ok saved =>
      if 10 < (saved.general .eax).toInt then retErr functions interrupts saved
      else if (saved.general .eax).toInt < 1 then retErr functions interrupts saved
      else callEntry functions interrupts afterCall saved

/-- `int 0x80` from user mode: the stack of the kernel starts at `top`, and
the gate is a trap gate, which leaves the interrupt flag as it was. -/
def int80 (user : Registers) (kernel : Machine) : Machine :=
  let entered := { kernel with
    general := Function.update user.general .esp top
    eflags := user.eflags
    segments := user.segments
    calls := [] }
  let pushed := entered.pushAll
    [user.ss, user.general .esp, user.eflags, user.cs, user.eip]
  boundary interrupts pushed pushed

def systemCall (user : Registers) (kernel : Machine) : Outcome :=
  mainSyscall functions interrupts afterCall (int80 interrupts user kernel)

end MainSyscall

/-- EBX, ECX, EDX in order, as many as the function has parameters. -/
def Handler.registers (handler : Handler) : List Register :=
  [.ebx, .ecx, .edx].take handler.arity

def argumentsOf (user : Registers) (handler : Handler) : List Word :=
  handler.registers.map user.general

/-- The handler was called once with its arguments, and on return EAX holds
its result and every other register its old value. -/
def Served (user : Registers) (handler : Handler) : Outcome → Prop
  | .returned registers calls => ∃ result,
      calls = [⟨handler, argumentsOf user handler, some result⟩] ∧
        registers = { user with general := Function.update user.general .eax result }
  | .stops (.neverReturns calls) => calls = [⟨handler, argumentsOf user handler, none⟩]
  | .stops (.faults _) => False
  | .outsideTable _ => False
  | .strays _ => False

/-- What comes back of a call whose number is in the table, with segment registers of
which `holds`. -/
def Answered {top : Word} (function : CFunction top) (holds : Segments → Prop)
    (user : Registers) (handler : Handler) : Outcome → Prop
  | .returned registers calls => ∃ result segments, holds segments ∧
      calls = [⟨handler, argumentsOf user handler, some result⟩] ∧
        registers = { user with
          general := Function.update user.general .eax result
          segments := segments }
  | .stops (.neverReturns calls) =>
      ¬function.Returns ∧ calls = [⟨handler, argumentsOf user handler, none⟩]
  | .stops (.faults _) => False
  | .outsideTable _ => False
  | .strays _ => False

namespace Answered

variable {top : Word} {function : CFunction top} {holds : Segments → Prop}
  {user : Registers} {handler : Handler} {outcome : Outcome}

theorem served (answered : Answered function holds user handler outcome)
    (kept : ∀ segments, holds segments → segments = user.segments) :
    Served user handler outcome := by
  cases outcome with
  | returned registers calls =>
      obtain ⟨result, segments, same, called, rfl⟩ := answered
      obtain rfl := kept segments same
      exact ⟨result, called, rfl⟩
  | stops stop =>
      cases stop with
      | neverReturns calls => exact answered.2
      | faults calls => exact answered
  | outsideTable index => exact answered
  | strays target => exact answered

end Answered

/-- `words` are the stack from ESP up to `top`. -/
structure Frame (top : Word) (machine : Machine) (words : List Word) : Prop where
  holds : Holds machine.memory (machine.general .esp) words
  upTo : machine.general .esp + BitVec.ofNat 32 (4 * words.length) = top
  short : words.length ≤ 64

namespace Frame

variable {top value : Word} {machine after : Machine} {words lower : List Word}

theorem peek (frame : Frame top machine (value :: words)) : machine.peek = value :=
  (Holds.cons_iff.mp frame.holds).1

theorem drop (frame : Frame top machine (value :: words)) :
    Frame top machine.drop words := by
  have length : (value :: words).length = words.length + 1 := rfl
  refine ⟨(Holds.cons_iff.mp frame.holds).2, ?_, ?_⟩
  · rw [← frame.upTo, length, Nat.mul_succ, BitVec.ofNat_add]
    show machine.general .esp + 4 + _ = _
    bv_omega
  · have short := frame.short
    omega

theorem push (frame : Frame top machine words) (value : Word)
    (short : words.length < 64) : Frame top (machine.push value) (value :: words) := by
  refine ⟨frame.holds.push value (by omega), ?_, short⟩
  rw [← frame.upTo, List.length_cons, Nat.mul_succ, BitVec.ofNat_add]
  show machine.general .esp - 4 + _ = _
  bv_omega

theorem pushAll (frame : Frame top machine words) (values : List Word)
    (short : values.length + words.length ≤ 64) :
    Frame top (machine.pushAll values) (values.reverse ++ words) := by
  induction values generalizing machine words with
  | nil => exact frame
  | cons value values ih =>
      rw [List.length_cons] at short
      have pushed := ih (frame.push value (by omega)) (by rw [List.length_cons]; omega)
      rw [List.reverse_cons, List.append_assoc, List.singleton_append]
      exact pushed

theorem distance (frame : Frame top machine words) :
    (top - machine.general .esp).toNat = 4 * words.length := by
  have short := frame.short
  rw [← frame.upTo, BitVec.add_comm, BitVec.add_sub_cancel, BitVec.toNat_ofNat,
    Nat.mod_eq_of_lt (by omega)]

/-- Code that keeps the stack above the lower words may change only those. -/
theorem keep (frame : Frame top machine (lower ++ words))
    (keeps : Machine.KeepsAbove top (4 * lower.length) machine after) :
    ∃ changed, changed.length = lower.length ∧ Frame top after (changed ++ words) := by
  have length : (lower ++ words).length = lower.length + words.length :=
    List.length_append
  refine ⟨loadWords after.memory (machine.general .esp) lower.length, by simp, ?_⟩
  have sameLength : (loadWords after.memory (machine.general .esp) lower.length ++
      words).length = (lower ++ words).length := by
    simp
  refine ⟨?_, ?_, sameLength ▸ frame.short⟩
  · rw [keeps.1, Holds.append_iff, loadWords_length]
    refine ⟨?_, ?_⟩
    · rw [Holds, loadWords_length]
    · apply (Holds.append_iff.mp frame.holds).2.congr
      intro offset offsetLt
      rw [BitVec.add_assoc, ← BitVec.ofNat_add]
      apply keeps.2 _ (Nat.le_add_right _ _)
      rw [frame.distance]
      omega
  · rw [keeps.1, sameLength]
    exact frame.upTo

end Frame

namespace Machine

variable {machine : Machine} {register : Register}

theorem set_general (machine : Machine) (target : Register) (value : Word) :
    (machine.set target value).general =
      Function.update machine.general target value :=
  rfl

@[simp] theorem pushAll_segments (values : List Word) (machine : Machine) :
    (machine.pushAll values).segments = machine.segments := by
  induction values generalizing machine with
  | nil => rfl
  | cons value values ih => exact ih (machine.push value)

@[simp] theorem popInto_segments (target : Register) (machine : Machine) :
    (machine.popInto target).segments = machine.segments := by
  unfold popInto
  split <;> rfl

@[simp] theorem popAll_segments (targets : List Register) (machine : Machine) :
    (machine.popAll targets).segments = machine.segments := by
  induction targets generalizing machine with
  | nil => rfl
  | cons target targets ih =>
      exact (ih (machine.popInto target)).trans (popInto_segments target machine)

theorem drop_general (other : register ≠ .esp) :
    machine.drop.general register = machine.general register :=
  Function.update_of_ne other _ _

/-- Pushes touch ESP and memory only. -/
theorem pushAll_kept (values : List Word) (machine : Machine) :
    (machine.pushAll values).eflags = machine.eflags ∧
      (machine.pushAll values).calls = machine.calls ∧
      ∀ register ≠ .esp, (machine.pushAll values).general register =
        machine.general register := by
  induction values generalizing machine with
  | nil => exact ⟨rfl, rfl, fun _ _ => rfl⟩
  | cons value values ih =>
      obtain ⟨eflags, calls, general⟩ := ih (machine.push value)
      refine ⟨eflags, calls, fun register other => ?_⟩
      exact (general register other).trans (Function.update_of_ne other _ _)

theorem popInto_general (target : Register) (different : register ≠ target)
    (other : register ≠ .esp) :
    (machine.popInto target).general register = machine.general register := by
  unfold popInto
  split
  · exact drop_general other
  · exact (Function.update_of_ne different _ _).trans (drop_general other)

theorem popInto_kept (target : Register) :
    (machine.popInto target).eflags = machine.eflags ∧
      (machine.popInto target).calls = machine.calls ∧
      (machine.popInto target).mainSyscallRetval = machine.mainSyscallRetval ∧
      (machine.popInto target).memory = machine.memory ∧
      (machine.popInto target).general .esp = machine.drop.general .esp := by
  unfold popInto
  split
  · exact ⟨rfl, rfl, rfl, rfl, rfl⟩
  · rename_i different
    exact ⟨rfl, rfl, rfl, rfl, Function.update_of_ne (Ne.symm different) _ _⟩

theorem popAll_kept (targets : List Register) (machine : Machine) :
    (machine.popAll targets).eflags = machine.eflags ∧
      (machine.popAll targets).calls = machine.calls ∧
      (machine.popAll targets).mainSyscallRetval = machine.mainSyscallRetval ∧
      ∀ register ∉ targets, register ≠ .esp →
        (machine.popAll targets).general register = machine.general register := by
  induction targets generalizing machine with
  | nil => exact ⟨rfl, rfl, rfl, fun _ _ _ => rfl⟩
  | cons target targets ih =>
      obtain ⟨eflags, calls, retval, general⟩ := ih (machine.popInto target)
      obtain ⟨eflagsInto, callsInto, retvalInto, -⟩ := @popInto_kept machine target
      refine ⟨eflags.trans eflagsInto, calls.trans callsInto, retval.trans retvalInto,
        fun register outside other => ?_⟩
      rw [List.mem_cons, not_or] at outside
      exact (general register outside.2 other).trans
        (popInto_general target outside.1 other)

end Machine

namespace Frame

variable {top value : Word} {machine : Machine} {words lower : List Word}

theorem set (frame : Frame top machine words) {target : Register}
    (other : target ≠ .esp) (value : Word) :
    Frame top (machine.set target value) words := by
  have esp : (machine.set target value).general .esp = machine.general .esp :=
    Function.update_of_ne (Ne.symm other) _ _
  exact ⟨by rw [esp]; exact frame.holds, by rw [esp]; exact frame.upTo, frame.short⟩

theorem popInto (frame : Frame top machine (value :: words)) (target : Register) :
    Frame top (machine.popInto target) words := by
  obtain ⟨-, -, -, memory, esp⟩ := @Machine.popInto_kept machine target
  have dropped := frame.drop
  exact ⟨by rw [memory, esp]; exact dropped.holds, by rw [esp]; exact dropped.upTo,
    dropped.short⟩

theorem popInto_value (frame : Frame top machine (value :: words)) {target : Register}
    (other : target ≠ .esp) : (machine.popInto target).general target = value := by
  unfold Machine.popInto
  rw [if_neg other]
  exact (Function.update_self _ _ _).trans frame.peek

theorem popAll {targets : List Register} (frame : Frame top machine (lower ++ words))
    (length : lower.length = targets.length) :
    Frame top (machine.popAll targets) words := by
  induction targets generalizing machine lower with
  | nil =>
      rw [List.length_nil, List.length_eq_zero_iff] at length
      subst length
      exact frame
  | cons target targets ih =>
      cases lower with
      | nil => exact absurd length (by simp)
      | cons value lower =>
          exact ih (frame.popInto target) (by simpa using length)

/-- Popping saved registers gives each its own value back. -/
theorem popAll_saved {targets : List Register} {saved : Register → Word}
    (frame : Frame top machine (targets.map saved ++ words)) (distinct : targets.Nodup) :
    ∀ register ∈ targets, register ≠ .esp →
      (machine.popAll targets).general register = saved register := by
  induction targets generalizing machine with
  | nil => exact fun _ member => absurd member List.not_mem_nil
  | cons target targets ih =>
      rw [List.nodup_cons] at distinct
      intro register member other
      rcases List.mem_cons.mp member with rfl | later
      · obtain ⟨-, -, -, general⟩ := Machine.popAll_kept targets (machine.popInto register)
        exact (general register distinct.1 other).trans (frame.popInto_value other)
      · exact ih (frame.popInto target) distinct.2 register later other

end Frame

section Runs

variable {top : Word} {functions : Handler → CFunction top}
  {interrupts : Interrupts top} {machine after : Machine} {words : List Word}

theorem boundary_frame (interrupts : Interrupts top) (before : Machine)
    (frame : Frame top after words) :
    Frame top (boundary interrupts before after) words := by
  unfold boundary
  split
  · obtain ⟨changed, length, kept⟩ :=
      @Frame.keep top after _ words [] frame (interrupts.keepsStack after)
    rw [List.length_nil, List.length_eq_zero_iff] at length
    subst length
    exact ⟨kept.holds, kept.upTo, kept.short⟩
  · exact frame

theorem boundary_kept (interrupts : Interrupts top) (before after : Machine) :
    (boundary interrupts before after).general = after.general ∧
      (boundary interrupts before after).eflags = after.eflags ∧
      (boundary interrupts before after).calls = after.calls := by
  unfold boundary
  split
  · exact ⟨interrupts.keepsGeneral after, interrupts.keepsEflags after, rfl⟩
  · exact ⟨rfl, rfl, rfl⟩

theorem boundary_keeps {holds : Segments → Prop} (keeps : interrupts.Keeps holds)
    (before : Machine) (start : holds after.segments) :
    holds (boundary interrupts before after).segments := by
  unfold boundary
  split
  · exact keeps after start
  · exact start

/-- With interrupts off on either side nothing comes between two instructions. -/
theorem boundary_quiet {before : Machine}
    (quiet : before.interruptible = false ∨ after.interruptible = false) :
    boundary interrupts before after = after := by
  unfold boundary
  rcases quiet with off | off <;> simp [off]

theorem cli_quiet (eflags : Word) : (eflags &&& ~~~0x200#32).getLsbD 9 = false := by
  rw [BitVec.getLsbD_and]
  simp

theorem run_quiet {instruction : Instruction} {rest : List Instruction}
    (quiet : machine.interruptible = false ∨ after.interruptible = false)
    (executes : instruction.execute functions machine = .ok after) :
    run functions interrupts (instruction :: rest) machine =
      run functions interrupts rest after := by
  rw [run, executes]
  simp only [boundary_quiet quiet]

theorem run_pushes {sources : List Register} (noEsp : .esp ∉ sources)
    (rest : List Instruction) (quiet : machine.interruptible = false) :
    run functions interrupts (sources.map .pushl ++ rest) machine =
      run functions interrupts rest (machine.pushAll (sources.map machine.general)) := by
  induction sources generalizing machine with
  | nil => rfl
  | cons source sources ih =>
      rw [List.mem_cons, not_or] at noEsp
      have same : sources.map (machine.push (machine.general source)).general =
          sources.map machine.general := by
        apply List.map_congr_left
        intro register member
        apply Function.update_of_ne
        rintro rfl
        exact noEsp.2 member
      rw [List.map_cons, List.cons_append, run_quiet (.inl quiet) rfl,
        @ih (machine.push (machine.general source)) noEsp.2 quiet, same]
      rfl

theorem run_pops (targets : List Register) (quiet : machine.interruptible = false) :
    run functions interrupts (targets.map .popl) machine =
      .ok (machine.popAll targets) := by
  induction targets generalizing machine with
  | nil => rfl
  | cons target targets ih =>
      have eflags := (@Machine.popInto_kept machine target).1
      rw [List.map_cons, run_quiet (.inl quiet) rfl, ih]
      · rfl
      · rw [Machine.interruptible, eflags]
        exact quiet

/-- A called function never comes back, or the stack above its arguments is as it was. -/
theorem run_call {handler : Handler} {given : List Word} {holds leaves : Segments → Prop}
    (changes : (functions handler).Leaves holds leaves)
    (interruptsKeep : interrupts.Keeps leaves) (start : holds machine.segments)
    (data : machine.segments.ds.writable = true) (frame : Frame top machine (given ++ words))
    (arity : given.length = handler.arity) (rest : List Instruction) :
    (¬(functions handler).Returns ∧
      run functions interrupts (.call handler :: rest) machine =
        .error (.neverReturns (machine.calls ++ [⟨handler, given, none⟩]))) ∨
      ∃ landed changed, run functions interrupts (.call handler :: rest) machine =
          run functions interrupts rest landed ∧
        Frame top landed (changed ++ words) ∧ changed.length = given.length ∧
        leaves landed.segments ∧ landed.segments.ds.writable = true ∧
        landed.calls = machine.calls ++ [⟨handler, given, some (landed.general .eax)⟩] := by
  have found : loadWords machine.memory (machine.general .esp) handler.arity = given := by
    have holds := (Holds.append_iff.mp frame.holds).1
    rwa [Holds, arity] at holds
  simp only [run, Instruction.execute, found, data, if_true]
  cases called : (functions handler).call given machine with
  | none =>
      left
      refine ⟨fun returns => ?_, rfl⟩
      have isSome := returns given machine
      rw [called] at isSome
      cases isSome
  | some returned =>
      right
      obtain ⟨changed, length, returnedFrame⟩ :=
        frame.keep ((functions handler).keepsFrame _ _ _ called)
      have loggedFrame : Frame top { returned with
          calls := machine.calls ++ [⟨handler, given, some (returned.general .eax)⟩] }
          (changed ++ words) :=
        ⟨returnedFrame.holds, returnedFrame.upTo, returnedFrame.short⟩
      obtain ⟨general, -, calls⟩ := boundary_kept interrupts machine { returned with
        calls := machine.calls ++ [⟨handler, given, some (returned.general .eax)⟩] }
      refine ⟨_, changed, rfl, boundary_frame interrupts machine loggedFrame, length, ?_, ?_, ?_⟩
      · have returnedKeeps : leaves returned.segments := changes _ _ _ called start
        exact boundary_keeps interruptsKeep machine returnedKeeps
      · have returnedData : returned.segments.ds.writable = true :=
          (functions handler).keepsData _ _ _ called data
        exact boundary_keeps interrupts.keeps_writable machine returnedData
      · rw [calls, general]

/-- A stub turns interrupts off again and takes its arguments from the stack. -/
theorem run_leave {targets : List Register} {lower : List Word}
    (frame : Frame top machine (lower ++ words)) (length : lower.length = targets.length)
    (noEax : .eax ∉ targets) :
    ∃ after, run functions interrupts (.cli :: targets.map .popl) machine = .ok after ∧
      Frame top after words ∧ after.interruptible = false ∧
      after.segments = machine.segments ∧ after.calls = machine.calls ∧
      after.general .eax = machine.general .eax := by
  have quiet : Machine.interruptible { machine with
      eflags := machine.eflags &&& ~~~0x200#32 } = false :=
    cli_quiet machine.eflags
  have masked : Frame top { machine with eflags := machine.eflags &&& ~~~0x200#32 }
      (lower ++ words) :=
    ⟨frame.holds, frame.upTo, frame.short⟩
  obtain ⟨eflags, calls, -, general⟩ := Machine.popAll_kept targets
    { machine with eflags := machine.eflags &&& ~~~0x200#32 }
  rw [run_quiet (.inr quiet) rfl, run_pops _ quiet]
  refine ⟨_, rfl, masked.popAll length, ?_, Machine.popAll_segments _ _, calls,
    general .eax noEax (by decide)⟩
  rw [Machine.interruptible, eflags]
  exact cli_quiet machine.eflags

end Runs

/-- A stub calls its function with the arguments as they are in the registers,
and comes back with the stack it was given and interrupts off. -/
theorem run_argumentStub {top : Word} {functions : Handler → CFunction top}
    {interrupts : Interrupts top} {machine : Machine} {words : List Word}
    {handler : Handler} {arguments : List Register} {holds leaves : Segments → Prop}
    (changes : (functions handler).Leaves holds leaves)
    (interruptsKeep : interrupts.Keeps leaves)
    (start : holds machine.segments) (data : machine.segments.ds.writable = true)
    (frame : Frame top machine words)
    (short : arguments.length + words.length ≤ 64)
    (quiet : machine.interruptible = false) (arity : arguments.length = handler.arity)
    (noEsp : .esp ∉ arguments) (noEax : .eax ∉ arguments) :
    (¬(functions handler).Returns ∧
      run functions interrupts (argumentStub handler arguments) machine =
        .error (.neverReturns
          (machine.calls ++ [⟨handler, arguments.map machine.general, none⟩]))) ∨
      ∃ after, run functions interrupts (argumentStub handler arguments) machine =
          .ok after ∧
        Frame top after words ∧ after.interruptible = false ∧
        leaves after.segments ∧ after.segments.ds.writable = true ∧
        after.calls = machine.calls ++
          [⟨handler, arguments.map machine.general, some (after.general .eax)⟩] := by
  have noEspReversed : .esp ∉ arguments.reverse := by rwa [List.mem_reverse]
  have pushedFrame := frame.pushAll (arguments.reverse.map machine.general)
    (by rwa [List.length_map, List.length_reverse])
  obtain ⟨pushedEflags, pushedCalls, -⟩ :=
    Machine.pushAll_kept (arguments.reverse.map machine.general) machine
  have pushedSegments := Machine.pushAll_segments (arguments.reverse.map machine.general) machine
  have pushedQuiet : (machine.pushAll (arguments.reverse.map
      machine.general)).interruptible = false := by
    rw [Machine.interruptible, pushedEflags]
    exact quiet
  rw [argumentStub, List.append_assoc, run_pushes noEspReversed _ quiet]
  rw [List.map_reverse, List.reverse_reverse] at pushedFrame
  rw [List.map_reverse] at pushedQuiet pushedCalls pushedSegments ⊢
  generalize machine.pushAll (arguments.map machine.general).reverse = pushed at *
  -- `sti` lets interrupts in only after the instruction that follows it
  rw [List.cons_append, run_quiet (.inl pushedQuiet) rfl, List.cons_append]
  have openFrame : Frame top { pushed with eflags := pushed.eflags ||| 0x200#32 }
      (arguments.map machine.general ++ words) :=
    ⟨pushedFrame.holds, pushedFrame.upTo, pushedFrame.short⟩
  rcases run_call changes interruptsKeep (pushedSegments ▸ start) (pushedSegments ▸ data)
    openFrame ((List.length_map _).trans arity) (.cli :: arguments.map .popl) with
    ⟨notReturns, never⟩ | ⟨landed, changed, called, landedFrame, length, landedKeeps,
      landedData, landedCalls⟩
  · left
    refine ⟨notReturns, never.trans ?_⟩
    rw [pushedCalls]
  · right
    obtain ⟨after, left, afterFrame, afterQuiet, segments, calls, eax⟩ :=
      @run_leave top functions interrupts landed words arguments changed landedFrame
        (length.trans (List.length_map _)) noEax
    refine ⟨after, called.trans left, afterFrame, afterQuiet, segments ▸ landedKeeps,
      segments ▸ landedData, ?_⟩
    rw [calls, landedCalls, eax, pushedCalls]

/-- The five words that `int` pushes and `iret` pops. -/
def trapFrame (user : Registers) : List Word :=
  [user.eip, user.cs, user.eflags, user.general .esp, user.ss]

/-- The state that `main_syscall` has saved: interrupts off, and on the stack
all registers above flags that keep interrupts off and the trap frame. -/
structure Saves (top : Word) (user : Registers) (machine : Machine) : Prop where
  frame : ∃ (saved : Register → Word) (flags : Word),
    Frame top machine (pushalOrder.reverse.map saved ++ flags :: trapFrame user) ∧
      flags.getLsbD 9 = false ∧ ∀ register ≠ .esp, saved register = user.general register
  quiet : machine.interruptible = false

theorem Frame.iret {top : Word} {machine : Machine} {user : Registers}
    (frame : Frame top machine (trapFrame user)) :
    machine.iret =
      { user with
        general := Function.update machine.general .esp (user.general .esp)
        segments := machine.segments } := by
  have cs := frame.drop
  have eflags := cs.drop
  have esp := eflags.drop
  have ss := esp.drop
  rw [Machine.iret, frame.peek, cs.peek, eflags.peek, esp.peek, ss.peek]

section MainSyscallRuns

variable {top : Word} {functions : Handler → CFunction top}
  {interrupts : Interrupts top} {afterCall : Word} {user : Registers}
  {machine kernel : Machine}

/-- Restoring, with EAX set after `popal`, gives the user its registers back. -/
theorem returning_restores {setEax : Instruction} {value : Word}
    (saves : Saves top user machine)
    (sets : setEax.execute functions (machine.popAll pushalOrder.reverse) =
      .ok ((machine.popAll pushalOrder.reverse).set .eax value)) :
    returning functions interrupts [.popal, setEax, .popfl, .sti] machine =
      .returned { user with
          general := Function.update user.general .eax value
          segments := machine.segments }
        machine.calls := by
  obtain ⟨⟨saved, flags, frame, flagsQuiet, same⟩, quiet⟩ := saves
  obtain ⟨poppedEflags, poppedCalls, -, -⟩ :=
    Machine.popAll_kept pushalOrder.reverse machine
  have poppedSegments := Machine.popAll_segments pushalOrder.reverse machine
  have poppedSaved := frame.popAll_saved (by decide)
  have poppedFrame : Frame top (machine.popAll pushalOrder.reverse)
      (flags :: trapFrame user) :=
    frame.popAll (List.length_map _)
  have poppedQuiet : (machine.popAll pushalOrder.reverse).interruptible = false := by
    rw [Machine.interruptible, poppedEflags]
    exact quiet
  rw [returning, run_quiet (.inl quiet) rfl]
  generalize machine.popAll pushalOrder.reverse = popped at *
  have setFrame := poppedFrame.set (show Register.eax ≠ .esp by decide) value
  have droppedFrame := setFrame.drop
  have flagsBack := setFrame.peek
  have setQuiet : (popped.set .eax value).interruptible = false := poppedQuiet
  have flaggedQuiet : Machine.interruptible { (popped.set .eax value).drop with
      eflags := flags } = false := flagsQuiet
  rw [run_quiet (.inl poppedQuiet) sets, run_quiet (.inl setQuiet) rfl, flagsBack,
    run_quiet (.inl flaggedQuiet) rfl, run]
  have lastFrame : Frame top { (popped.set .eax value).drop with
      eflags := flags ||| 0x200#32 } (trapFrame user) :=
    ⟨droppedFrame.holds, droppedFrame.upTo, droppedFrame.short⟩
  have general : Function.update (popped.set .eax value).drop.general .esp
      (user.general .esp) = Function.update user.general .eax value := by
    funext register
    by_cases stack : register = .esp
    · subst stack
      rw [Function.update_self, Function.update_of_ne (by decide)]
    rw [Function.update_of_ne stack, Machine.drop_general stack, Machine.set_general]
    by_cases result : register = .eax
    · subst result
      rw [Function.update_self, Function.update_self]
    · rw [Function.update_of_ne result, Function.update_of_ne result,
        poppedSaved register (by cases register <;> decide) stack, same register stack]
  simp only [lastFrame.iret, general, ← poppedCalls, ← poppedSegments]
  rfl

/-- On entry the stack holds the trap frame and nothing else. -/
theorem int80_entered (kernel : Machine) :
    Frame top (int80 interrupts user kernel) (trapFrame user) ∧
      (int80 interrupts user kernel).calls = [] ∧
      ∀ register ≠ .esp, (int80 interrupts user kernel).general register =
        user.general register := by
  have empty : Frame top { kernel with
      general := Function.update user.general .esp top
      eflags := user.eflags
      segments := user.segments
      calls := [] } [] := by
    refine ⟨Holds.nil, ?_, Nat.zero_le 64⟩
    simp
  have pushed := empty.pushAll
    [user.ss, user.general .esp, user.eflags, user.cs, user.eip] (by simp)
  obtain ⟨-, pushedCalls, pushedGeneral⟩ := Machine.pushAll_kept
    [user.ss, user.general .esp, user.eflags, user.cs, user.eip]
    { kernel with
      general := Function.update user.general .esp top
      eflags := user.eflags
      segments := user.segments
      calls := [] }
  rw [int80]
  generalize Machine.pushAll _ _ = entered at *
  obtain ⟨general, -, calls⟩ := boundary_kept interrupts entered entered
  refine ⟨boundary_frame interrupts entered pushed, calls.trans pushedCalls, ?_⟩
  intro register other
  rw [general, pushedGeneral register other]
  exact Function.update_of_ne other _ _

/-- The first four instructions save everything and turn interrupts off. -/
theorem run_saves (entered : Frame top machine (trapFrame user))
    (same : ∀ register ≠ .esp, machine.general register = user.general register) :
    ∃ saved, run functions interrupts
        [.cli, .pushfl, .pushal, .leal 32 (some .esp) .esi] machine = .ok saved ∧
      Saves top user saved ∧ saved.calls = machine.calls ∧
      saved.segments = machine.segments ∧
      ∀ register, register ≠ .esp → register ≠ .esi →
        saved.general register = user.general register := by
  have maskedQuiet : Machine.interruptible { machine with
      eflags := machine.eflags &&& ~~~0x200#32 } = false :=
    cli_quiet machine.eflags
  have maskedFrame : Frame top { machine with
      eflags := machine.eflags &&& ~~~0x200#32 } (trapFrame user) :=
    ⟨entered.holds, entered.upTo, entered.short⟩
  rw [run_quiet (.inr maskedQuiet) rfl]
  have maskedGeneral : ∀ register ≠ .esp, Machine.general { machine with
      eflags := machine.eflags &&& ~~~0x200#32 } register = user.general register := same
  have maskedCalls : Machine.calls { machine with
      eflags := machine.eflags &&& ~~~0x200#32 } = machine.calls := rfl
  have maskedSegments : Machine.segments { machine with
      eflags := machine.eflags &&& ~~~0x200#32 } = machine.segments := rfl
  generalize { machine with eflags := machine.eflags &&& ~~~0x200#32 } = masked at *
  have flagsFrame := maskedFrame.push masked.eflags (show 5 < 64 by decide)
  have flagsQuiet : (masked.push masked.eflags).interruptible = false := maskedQuiet
  have flagsGeneral : ∀ register ≠ .esp,
      (masked.push masked.eflags).general register = user.general register :=
    fun register other => (Function.update_of_ne other _ _).trans
      (maskedGeneral register other)
  rw [run_quiet (.inl maskedQuiet) rfl]
  have pushedFrame := flagsFrame.pushAll
    (pushalOrder.map (masked.push masked.eflags).general) (show 8 + 6 ≤ 64 by decide)
  obtain ⟨pushedEflags, pushedCalls, pushedGeneral⟩ := Machine.pushAll_kept
    (pushalOrder.map (masked.push masked.eflags).general) (masked.push masked.eflags)
  have pushedSegments := Machine.pushAll_segments
    (pushalOrder.map (masked.push masked.eflags).general) (masked.push masked.eflags)
  rw [run_quiet (.inl flagsQuiet) rfl]
  rw [← List.map_reverse] at pushedFrame
  generalize Machine.pushAll _ _ = pushed at *
  have pushedQuiet : pushed.interruptible = false := by
    rw [Machine.interruptible, pushedEflags]
    exact maskedQuiet
  rw [run_quiet (.inl pushedQuiet) rfl, run]
  refine ⟨_, rfl, ⟨⟨_, _, pushedFrame.set (by decide) _, maskedQuiet, flagsGeneral⟩,
    pushedQuiet⟩, pushedCalls.trans maskedCalls, pushedSegments.trans maskedSegments, ?_⟩
  intro register other different
  rw [Machine.set_general, Function.update_of_ne different,
    pushedGeneral register other, flagsGeneral register other]

/-- What follows the return of a stub puts its result into EAX, whatever the
popped registers are: it waits in `main_syscall_retval`. -/
theorem returning_delivers (saves : Saves top user machine)
    (data : machine.segments.ds.writable = true) :
    returning functions interrupts [.storeRetval, .popal, .loadRetval, .popfl, .sti]
        machine =
      .returned { user with
          general := Function.update user.general .eax (machine.general .eax)
          segments := machine.segments }
        machine.calls := by
  have storedSaves : Saves top user
      { machine with mainSyscallRetval := machine.general .eax } := by
    obtain ⟨⟨saved, flags, frame, rest⟩, quiet⟩ := saves
    exact ⟨⟨saved, flags, ⟨frame.holds, frame.upTo, frame.short⟩, rest⟩, quiet⟩
  have restored := @returning_restores top functions interrupts user
    { machine with mainSyscallRetval := machine.general .eax } .loadRetval
    (machine.general .eax) storedSaves (by
      obtain ⟨-, -, retval, -⟩ := Machine.popAll_kept pushalOrder.reverse
        { machine with mainSyscallRetval := machine.general .eax }
      rw [Instruction.execute, retval, Machine.popAll_segments,
        if_pos (Selector.readable_of_writable data)])
  have stores : Instruction.execute functions machine .storeRetval =
      .ok { machine with mainSyscallRetval := machine.general .eax } := by
    rw [Instruction.execute, if_pos data]
  rw [returning, run_quiet (.inl saves.quiet) stores]
  exact restored

/-- A number with an entry in the table is answered by that entry. -/
theorem callEntry_answers {handler : Handler} {holds leaves : Segments → Prop}
    (changes : (functions handler).Leaves holds leaves)
    (interruptsKeep : interrupts.Keeps leaves) (start : holds machine.segments) (data : machine.segments.ds.writable = true)
    (saves : Saves top user machine) (calls : machine.calls = [])
    (same : ∀ register, register ≠ .esp → register ≠ .esi →
      machine.general register = user.general register)
    (entry : syscallJmp[(machine.general .eax).toNat]? =
      some (some (argumentStub handler handler.registers))) :
    Answered (functions handler) leaves user handler
      (callEntry functions interrupts afterCall machine) := by
  obtain ⟨⟨saved, flags, frame, flagsQuiet, sameSaved⟩, quiet⟩ := saves
  have pushed := frame.push afterCall (show 8 + 6 < 64 by decide)
  have arguments : handler.registers.map (machine.push afterCall).general =
      argumentsOf user handler := by
    apply List.map_congr_left
    intro register member
    have noEsp : register ≠ .esp := by
      rintro rfl
      cases handler <;> exact absurd member (by decide)
    have noEsi : register ≠ .esi := by
      rintro rfl
      cases handler <;> exact absurd member (by decide)
    exact (Function.update_of_ne noEsp _ _).trans (same register noEsp noEsi)
  have short : handler.registers.length + 15 ≤ 64 := by
    cases handler <;> decide
  have served := @run_argumentStub top functions interrupts (machine.push afterCall) _
    handler handler.registers holds leaves changes interruptsKeep start data pushed short
    quiet
    (by cases handler <;> rfl) (by cases handler <;> decide) (by cases handler <;> decide)
  rw [callEntry, if_pos (Selector.readable_of_writable data), entry]
  simp only
  rw [arguments] at served
  rcases served with ⟨returnless, never⟩ |
    ⟨after, runs, afterFrame, afterQuiet, afterKeeps, afterData, afterCalls⟩
  · rw [never]
    refine ⟨returnless, ?_⟩
    show machine.calls ++ _ = _
    rw [calls, List.nil_append]
  · rw [runs]
    simp only
    rw [if_pos afterFrame.peek,
      returning_delivers ⟨⟨saved, flags, afterFrame.drop, flagsQuiet, sameSaved⟩,
        afterQuiet⟩ afterData]
    refine ⟨_, _, afterKeeps, ?_, rfl⟩
    rw [Machine.drop_general (by decide)]
    show after.calls = _
    rw [afterCalls]
    show machine.calls ++ _ = _
    rw [calls, List.nil_append]

/-- In front of the range check everything is saved. -/
theorem mainSyscall_saved (functions : Handler → CFunction top)
    (interrupts : Interrupts top) (afterCall : Word) (user : Registers)
    (kernel : Machine) :
    ∃ saved : Machine, Saves top user saved ∧ saved.calls = [] ∧
      saved.segments = (int80 interrupts user kernel).segments ∧
      (∀ register, register ≠ .esp → register ≠ .esi →
        saved.general register = user.general register) ∧
      systemCall functions interrupts afterCall user kernel =
        if 10 < (user.general .eax).toInt then retErr functions interrupts saved
        else if (user.general .eax).toInt < 1 then retErr functions interrupts saved
        else callEntry functions interrupts afterCall saved := by
  obtain ⟨entered, enteredCalls, same⟩ :=
    @int80_entered top interrupts user kernel
  obtain ⟨saved, runs, saves, savedCalls, savedSegments, savedSame⟩ :=
    @run_saves top functions interrupts user _ entered same
  refine ⟨saved, saves, savedCalls.trans enteredCalls, savedSegments, savedSame, ?_⟩
  rw [systemCall, mainSyscall, runs]
  simp only [savedSame .eax (by decide) (by decide)]

end MainSyscallRuns

/-- The range check of `main_syscall` is signed, and so rules out the numbers
from `0x80000000` on by its lower bound. -/
theorem inRange_iff (number : Word) :
    (¬10 < number.toInt ∧ ¬number.toInt < 1) ↔
      1 ≤ number.toNat ∧ number.toNat ≤ 10 := by
  rw [BitVec.toInt_eq_toNat_cond]
  have small := number.isLt
  split <;> omega

theorem Handler.bound_eq_none {number : Word}
    (outside : ¬(1 ≤ number.toNat ∧ number.toNat ≤ 10)) :
    Handler.bound number = none := by
  unfold Handler.bound
  split
  · rfl
  · rename_i nonzero
    have positive : number.toNat ≠ 0 := fun zero =>
      nonzero (BitVec.eq_of_toNat_eq zero)
    apply List.getElem?_eq_none
    show 10 ≤ _
    omega

/-- The numbers from 1 to 8 have the entry that the interface asks for. -/
theorem syscallJmp_entry {number : Word} (positive : 1 ≤ number.toNat)
    (listed : number.toNat ≤ 8) :
    ∃ handler, Handler.bound number = some handler ∧
      syscallJmp[number.toNat]? =
        some (some (argumentStub handler handler.registers)) := by
  obtain ⟨value, known⟩ : ∃ value, number.toNat = value := ⟨_, rfl⟩
  have same : number = BitVec.ofNat 32 value := by
    rw [← known, BitVec.ofNat_toNat, BitVec.setWidth_eq]
  rw [known] at positive listed ⊢
  subst same
  interval_cases value <;> exact ⟨_, rfl, rfl⟩

theorem Handler.bound_eq_some {number : Word} {handler : Handler}
    (bound : Handler.bound number = some handler) :
    1 ≤ number.toNat ∧ number.toNat ≤ 10 := by
  by_contra outside
  rw [Handler.bound_eq_none outside] at bound
  cases bound

/-- `set_handler` and `sigreturn` have the last two numbers. -/
theorem Handler.bound_behind {number : Word} {handler : Handler}
    (bound : Handler.bound number = some handler) :
    9 ≤ number.toNat ↔ handler = .setHandler ∨ handler = .sigreturn := by
  obtain ⟨positive, listed⟩ := Handler.bound_eq_some bound
  obtain ⟨value, known⟩ : ∃ value, number.toNat = value := ⟨_, rfl⟩
  have same : number = BitVec.ofNat 32 value := by
    rw [← known, BitVec.ofNat_toNat, BitVec.setWidth_eq]
  rw [known] at positive listed ⊢
  subst same
  interval_cases value <;> cases bound <;> decide

section Dispatch

variable {top : Word} {functions : Handler → CFunction top}
  {interrupts : Interrupts top} {afterCall : Word} {user : Registers}
  {kernel : Machine} {handler : Handler} {holds leaves : Segments → Prop}

/-- An interrupt that is served on entry is all that can touch the segment registers
in front of the range check. -/
theorem int80_segments (interrupts : Interrupts top) (user : Registers)
    (kernel : Machine) :
    ∃ machine : Machine, machine.segments = user.segments ∧
      (int80 interrupts user kernel).segments =
        if user.eflags.getLsbD 9 then (interrupts.arrive machine).segments
        else user.segments := by
  refine ⟨({ kernel with
    general := Function.update user.general .esp top
    eflags := user.eflags
    segments := user.segments
    calls := [] } : Machine).pushAll
      [user.ss, user.general .esp, user.eflags, user.cs, user.eip],
    Machine.pushAll_segments _ _, ?_⟩
  rw [int80, boundary, Bool.and_self, Machine.interruptible,
    (Machine.pushAll_kept _ _).1]
  by_cases enabled : user.eflags.getLsbD 9 = true
  · rw [if_pos enabled, if_pos enabled]
  · rw [if_neg enabled, if_neg enabled]
    exact Machine.pushAll_segments _ _

theorem int80_keeps (keeps : interrupts.Keeps holds) (start : holds user.segments)
    (kernel : Machine) : holds (int80 interrupts user kernel).segments := by
  obtain ⟨machine, same, segments⟩ := int80_segments interrupts user kernel
  rw [segments]
  split
  · exact keeps machine (same ▸ start)
  · exact start

/-- A number with an entry in the table. -/
theorem systemCall_answers (changes : (functions handler).Leaves holds leaves)
    (interruptsKeep : interrupts.Keeps leaves)
    (start : holds (int80 interrupts user kernel).segments)
    (data : user.segments.ds.writable = true)
    (bound : Handler.bound (user.general .eax) = some handler)
    (listed : (user.general .eax).toNat ≤ 8) :
    Answered (functions handler) leaves user handler
      (systemCall functions interrupts afterCall user kernel) := by
  obtain ⟨saved, saves, calls, segments, same, runs⟩ :=
    mainSyscall_saved functions interrupts afterCall user kernel
  have inRange := (inRange_iff (user.general .eax)).mpr (Handler.bound_eq_some bound)
  obtain ⟨entered, enteredBound, entry⟩ :=
    syscallJmp_entry (Handler.bound_eq_some bound).1 listed
  rw [enteredBound] at bound
  obtain rfl : entered = handler := Option.some.inj bound
  rw [← same .eax (by decide) (by decide)] at entry
  rw [runs, if_neg inRange.1, if_neg inRange.2]
  refine callEntry_answers changes interruptsKeep (segments ▸ start) ?_ saves calls same
    entry
  rw [segments]
  exact int80_keeps interrupts.keeps_writable data kernel

end Dispatch

/-! ## The promise of the interface -/

/-- A function that returns -1 at once, as `set_handler` does, after `change` on the
segment registers. -/
def returnsMinusOne (top : Word) (change : Segments → Segments)
    (keepsDs : ∀ segments, (change segments).ds = segments.ds) : CFunction top where
  call _ machine := some { machine with
    general := Function.update machine.general .eax (-1)
    segments := change machine.segments }
  keepsFrame := by
    rintro arguments before after ⟨⟩
    have other : Register.esp ≠ .eax := by decide
    exact ⟨Function.update_of_ne other (-1) before.general, fun _ _ _ => rfl⟩
  keepsData := by
    rintro arguments before after ⟨⟩ data
    show (change before.segments).ds.writable = true
    rw [keepsDs]
    exact data

def neverReturns (top : Word) : CFunction top where
  call _ _ := none
  keepsFrame := by
    intro arguments before after called
    cases called
  keepsData := by
    intro arguments before after called
    cases called

def noInterrupts (top : Word) : Interrupts top where
  arrive := id
  keepsGeneral _ := rfl
  keepsEflags _ := rfl
  keepsStack _ := ⟨rfl, fun _ _ _ => rfl⟩
  sparesSegments _ := .refl _
  served _ _ := rfl

/-- A program that has left another null selector in FS. -/
def Segments.moveFs (segments : Segments) : Segments :=
  { segments with fs := if segments.fs = .null 0 then .null 1 else .null 0 }

/-- `halt` does not return, a program leaves what it likes behind, and the others
copy memory. -/
def copyingFunctions (top : Word) : Handler → CFunction top
  | .halt => neverReturns top
  | .execute => returnsMinusOne top Segments.moveFs fun _ => rfl
  | _ => returnsMinusOne top Segments.reloadEs Segments.reloadEs_ds

/-- What is known of the C functions: `halt` does not return, and only `execute` comes
back with more changed in the segment registers than ES. -/
structure Genuine {top : Word} (functions : Handler → CFunction top) : Prop where
  halts : ∀ arguments machine, (functions .halt).call arguments machine = none
  spares : SparesSegments functions

section Promise

variable {top : Word} {functions : Handler → CFunction top}
  {interrupts : Interrupts top} {afterCall : Word} {user : Registers}
  {kernel : Machine} {handler : Handler}

end Promise

end ChapOS.Linkage
