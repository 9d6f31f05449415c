import ChapOS.TracedMemory
import ChapOS.WhileLoops
import Mathlib.Tactic.IntervalCases

/-!
# Assembly routines

A small part of the 32-bit x86 instruction set, enough for routines that fill and copy
memory.  A routine is a list of lines; running it keeps the lines still to be run, and a
jump goes on behind a label.  A string instruction with a `rep` prefix takes one turn
for each repetition.  The segments are flat, and addresses wrap.
-/

namespace Assembly

open WhileLoops CountedLoops

inductive Register where
  | eax
  | ecx
  | edx
  | esi
  | edi
  deriving DecidableEq, Repr

inductive Operand where
  | register (name : Register)
  | immediate (value : BitVec 32)

/-- The instructions that go on to the next line, in the order source, target. -/
inductive Instruction where
  | testl (source : Operand) (target : Register)
  | cmp (source : Operand) (target : Register)
  | movl (source : Operand) (target : Register)
  | addl (source : Operand) (target : Register)
  | subl (source : Operand) (target : Register)
  | andl (source : Operand) (target : Register)
  | shrl (count : Nat) (target : Register)
  | leal (displacement : BitVec 32) (base index target : Register)
  /-- `movb (address), %al` -/
  | movbLoad (address : Register)
  /-- `movb %al, (address)` -/
  | movbStore (address : Register)
  /-- `movw %ds, %dx` -/
  | movwFromDs
  /-- `movw %dx, %es` -/
  | movwToEs
  | cld
  | std

inductive StringInstruction where
  | stosl
  | movsl
  | movsb

inductive Line (Label : Type) where
  | label (name : Label)
  | run (instruction : Instruction)
  | rep (instruction : StringInstruction)
  | jmp (target : Label)
  | jz (target : Label)
  | jae (target : Label)

/-- The registers, the segment registers, three of the flags, and memory. -/
structure Machine where
  eax : BitVec 32
  ecx : BitVec 32
  edx : BitVec 32
  esi : BitVec 32
  edi : BitVec 32
  ds : BitVec 16
  es : BitVec 16
  zero : Bool
  carry : Bool
  direction : Bool
  memory : TracedMemory Nat UInt8

/-- The address `offset` bytes behind a pointer. -/
def addressAt (pointer : BitVec 32) (offset : Nat) : Nat :=
  (pointer + BitVec.ofNat 32 offset).toNat

/-- The address `offset` bytes in front of a pointer. -/
def addressBefore (pointer : BitVec 32) (offset : Nat) : Nat :=
  (pointer - BitVec.ofNat 32 offset).toNat

/-- A byte of a long word, the lowest first. -/
def byteOf (value : BitVec 32) (index : Nat) : UInt8 :=
  UInt8.ofNat (value.toNat / 256 ^ index)

/-- The four bytes from a pointer on. -/
def loadLong (memory : TracedMemory Nat UInt8) (pointer : BitVec 32) : BitVec 32 :=
  BitVec.ofNat 32 ((memory.read (addressAt pointer 0)).toNat +
    (memory.read (addressAt pointer 1)).toNat * 256 +
    (memory.read (addressAt pointer 2)).toNat * 256 ^ 2 +
    (memory.read (addressAt pointer 3)).toNat * 256 ^ 3)

/-- Store a long word from a pointer on. -/
def storeLong (memory : TracedMemory Nat UInt8) (pointer value : BitVec 32) :
    TracedMemory Nat UInt8 :=
  memory.storeSequence (addressAt pointer) (byteOf value) 4

namespace Machine

def get (machine : Machine) : Register → BitVec 32
  | .eax => machine.eax
  | .ecx => machine.ecx
  | .edx => machine.edx
  | .esi => machine.esi
  | .edi => machine.edi

def set (machine : Machine) (value : BitVec 32) : Register → Machine
  | .eax => { machine with eax := value }
  | .ecx => { machine with ecx := value }
  | .edx => { machine with edx := value }
  | .esi => { machine with esi := value }
  | .edi => { machine with edi := value }

def operand (machine : Machine) : Operand → BitVec 32
  | .register name => machine.get name
  | .immediate value => value

/-- Set the flags after a result. -/
def setFlags (machine : Machine) (result : BitVec 32) (carry : Bool) : Machine :=
  { machine with
    zero := decide (result = 0)
    carry := carry }

/-- Replace the low byte of `eax`. -/
def setAl (machine : Machine) (value : UInt8) : Machine :=
  { machine with
    eax := (machine.eax &&& 0xFFFFFF00) ||| BitVec.ofNat 32 value.toNat }

def exec (machine : Machine) : Instruction → Machine
  | .testl source target =>
      machine.setFlags (machine.get target &&& machine.operand source) false
  | .cmp source target =>
      machine.setFlags (machine.get target - machine.operand source)
        (decide (machine.get target < machine.operand source))
  | .movl source target => machine.set (machine.operand source) target
  | .addl source target =>
      let result := machine.get target + machine.operand source
      (machine.set result target).setFlags result
        (decide (2 ^ 32 ≤ (machine.get target).toNat + (machine.operand source).toNat))
  | .subl source target =>
      let result := machine.get target - machine.operand source
      (machine.set result target).setFlags result
        (decide (machine.get target < machine.operand source))
  | .andl source target =>
      let result := machine.get target &&& machine.operand source
      (machine.set result target).setFlags result false
  | .shrl count target =>
      let result := machine.get target >>> count
      (machine.set result target).setFlags result
        ((machine.get target).getLsbD (count - 1))
  | .leal displacement base index target =>
      machine.set (machine.get base + machine.get index + displacement) target
  | .movbLoad address => machine.setAl (machine.memory.read (machine.get address).toNat)
  | .movbStore address =>
      { machine with
        memory := machine.memory.store (machine.get address).toNat
          (UInt8.ofNat machine.eax.toNat) }
  | .movwFromDs =>
      { machine with edx := (machine.edx &&& 0xFFFF0000) ||| machine.ds.setWidth 32 }
  | .movwToEs => { machine with es := machine.edx.setWidth 16 }
  | .cld => { machine with direction := false }
  | .std => { machine with direction := true }

/-- A pointer register behind a string instruction. -/
def advance (machine : Machine) (pointer width : BitVec 32) : BitVec 32 :=
  if machine.direction then pointer - width else pointer + width

/-- One repetition of a string instruction. -/
def execString (machine : Machine) : StringInstruction → Machine
  | .stosl =>
      { machine with
        memory := storeLong machine.memory machine.edi machine.eax
        edi := machine.advance machine.edi 4 }
  | .movsl =>
      { machine with
        memory := storeLong machine.memory machine.edi
          (loadLong machine.memory machine.esi)
        esi := machine.advance machine.esi 4
        edi := machine.advance machine.edi 4 }
  | .movsb =>
      { machine with
        memory := machine.memory.store machine.edi.toNat
          (machine.memory.read machine.esi.toNat)
        esi := machine.advance machine.esi 1
        edi := machine.advance machine.edi 1 }

/-- One turn of a `rep` prefix. -/
def repeatOnce (machine : Machine) (instruction : StringInstruction) : Machine :=
  { machine.execString instruction with ecx := machine.ecx - 1 }

end Machine

section Running

variable {Label : Type} [DecidableEq Label]

/-- The lines behind a label. -/
def linesBehind (target : Label) : List (Line Label) → Option (List (Line Label))
  | [] => none
  | .label name :: rest => if name = target then some rest else linesBehind target rest
  | _ :: rest => linesBehind target rest

/-- Go on behind a label; without the label the routine is stuck. -/
def jump (routine : List (Line Label)) (target : Label) (machine : Machine) :
    Turn (List (Line Label) × Machine) Machine :=
  match linesBehind target routine with
  | none => .stuck
  | some lines => .next (lines, machine)

/-- One turn of a routine, with the lines still to be run. -/
def lineTurn (routine : List (Line Label)) :
    List (Line Label) × Machine → Turn (List (Line Label) × Machine) Machine
  | ([], machine) => .exit machine
  | (.label _ :: rest, machine) => .next (rest, machine)
  | (.run instruction :: rest, machine) => .next (rest, machine.exec instruction)
  | (.rep instruction :: rest, machine) =>
      if machine.ecx = 0 then .next (rest, machine)
      else .next (.rep instruction :: rest, machine.repeatOnce instruction)
  | (.jmp target :: _, machine) => jump routine target machine
  | (.jz target :: rest, machine) =>
      if machine.zero then jump routine target machine else .next (rest, machine)
  | (.jae target :: rest, machine) =>
      if machine.carry then .next (rest, machine) else jump routine target machine

/-- Run a routine from its first line. -/
def runRoutine (routine : List (Line Label)) (turns : Nat) (machine : Machine) :
    Option Machine :=
  runFor (lineTurn routine) turns (routine, machine)

end Running

section Bytes

/-- The low byte of `eax` is the byte moved into `%al`. -/
theorem setAl_low (machine : Machine) (value : UInt8) :
    UInt8.ofNat (machine.setAl value).eax.toNat = value := by
  apply UInt8.toNat_inj.mp
  show UInt8.toNat (UInt8.ofNat
    ((machine.eax &&& 0xFFFFFF00) ||| BitVec.ofNat 32 value.toNat).toNat) = value.toNat
  have below := value.toNat_lt
  rw [UInt8.toNat_ofNat', BitVec.toNat_or, BitVec.toNat_and, Nat.or_mod_two_pow,
    Nat.and_mod_two_pow, BitVec.toNat_ofNat]
  have masked : (0xFFFFFF00 : BitVec 32).toNat % 2 ^ 8 = 0 := rfl
  rw [masked, Nat.and_zero, Nat.zero_or]
  omega

/-- A counter that is not zero counts down. -/
theorem sub_one_toNat {counter : BitVec 32} {left : Nat}
    (isLeft : counter.toNat = left + 1) : (counter - 1).toNat = left := by
  have below := counter.isLt
  rw [BitVec.toNat_sub, isLeft]
  simp
  omega

theorem ne_zero_of_toNat_eq_succ {counter : BitVec 32} {left : Nat}
    (isLeft : counter.toNat = left + 1) : counter ≠ 0 := by
  rintro rfl
  exact nomatch isLeft

theorem add_ofNat_add (pointer : BitVec 32) (first second : Nat) :
    pointer + BitVec.ofNat 32 first + BitVec.ofNat 32 second =
      pointer + BitVec.ofNat 32 (first + second) := by
  rw [BitVec.ofNat_add, BitVec.add_assoc]

theorem sub_ofNat_sub (pointer : BitVec 32) (first second : Nat) :
    pointer - BitVec.ofNat 32 first - BitVec.ofNat 32 second =
      pointer - BitVec.ofNat 32 (first + second) := by
  rw [BitVec.ofNat_add]
  apply BitVec.eq_of_toNat_eq
  simp only [BitVec.toNat_sub, BitVec.toNat_add]
  omega

theorem addressAt_add (pointer : BitVec 32) (first offset : Nat) :
    addressAt (pointer + BitVec.ofNat 32 first) offset =
      addressAt pointer (first + offset) := by
  rw [addressAt, addressAt, add_ofNat_add]

/-- Without a wrap the addresses are those of plain arithmetic. -/
theorem addressAt_of_fits {pointer : BitVec 32} {offset : Nat}
    (fits : pointer.toNat + offset < 2 ^ 32) :
    addressAt pointer offset = pointer.toNat + offset := by
  rw [addressAt, BitVec.toNat_add, BitVec.toNat_ofNat]
  omega

theorem addressBefore_of_fits {pointer : BitVec 32} {offset : Nat}
    (fits : offset ≤ pointer.toNat) :
    addressBefore pointer offset = pointer.toNat - offset := by
  have below := pointer.isLt
  rw [addressBefore, BitVec.toNat_sub, BitVec.toNat_ofNat]
  omega

theorem byteOf_loadLong (memory : TracedMemory Nat UInt8) (pointer : BitVec 32)
    {index : Nat} (indexLt : index < 4) :
    byteOf (loadLong memory pointer) index = memory.read (addressAt pointer index) := by
  apply UInt8.toNat_inj.mp
  rw [byteOf, loadLong, UInt8.toNat_ofNat', BitVec.toNat_ofNat]
  have first := (memory.read (addressAt pointer 0)).toNat_lt
  have second := (memory.read (addressAt pointer 1)).toNat_lt
  have third := (memory.read (addressAt pointer 2)).toNat_lt
  have fourth := (memory.read (addressAt pointer 3)).toNat_lt
  interval_cases index <;> omega

/-- A long word that is loaded before it is stored is carried over byte by byte. -/
theorem storeLong_loadLong (memory : TracedMemory Nat UInt8) {target source : BitVec 32}
    (ahead : ∀ first second, first < second → second < 4 →
      addressAt target first ≠ addressAt source second) :
    storeLong memory target (loadLong memory source) =
      memory.moveSequence (addressAt target) (addressAt source) 4 := by
  rw [TracedMemory.moveSequence_eq_storeSequence memory ahead]
  apply TracedMemory.storeSequence_congr
  intro index indexLt
  exact byteOf_loadLong memory source indexLt

end Bytes

section Blocks

variable {Label : Type} [DecidableEq Label]

/-- Plain instructions run one after the other. -/
theorem block_leads (routine rest : List (Line Label)) (block : List Instruction)
    (machine : Machine) :
    Leads (lineTurn routine) block.length (block.map .run ++ rest, machine)
      (rest, block.foldl Machine.exec machine) := by
  induction block generalizing machine with
  | nil => exact .refl _
  | cons instruction block ih => exact .next rfl (ih (machine.exec instruction))

theorem linesBehind_block (target : Label) (rest : List (Line Label))
    (block : List Instruction) :
    linesBehind target (block.map .run ++ rest) = linesBehind target rest := by
  induction block with
  | nil => rfl
  | cons instruction block ih => exact ih

variable {routine lines rest : List (Line Label)} {target : Label} {machine : Machine}

theorem jump_next (isBehind : linesBehind target routine = some lines) :
    jump routine target machine = .next (lines, machine) := by
  rw [jump, isBehind]

theorem jz_taken (isZero : machine.zero = true)
    (isBehind : linesBehind target routine = some lines) :
    lineTurn routine (.jz target :: rest, machine) = .next (lines, machine) := by
  rw [lineTurn, if_pos isZero, jump_next isBehind]

theorem jz_past (notZero : machine.zero = false) :
    lineTurn routine (.jz target :: rest, machine) = .next (rest, machine) := by
  rw [lineTurn, notZero, if_neg (by decide)]

/-- The test of a register with itself. -/
theorem testl_self_zero (machine : Machine) (name : Register) :
    (machine.exec (.testl (.register name) name)).zero = decide (machine.get name = 0) := by
  simp [Machine.exec, Machine.setFlags, Machine.operand]

section Counters

variable {after : Machine} {counter : Register}

/-- A loop that is left when its counter is zero, with nothing behind it. -/
theorem counter_done (isZero : machine.get counter = 0)
    (isBehind : linesBehind target routine = some []) :
    Ends (lineTurn routine)
      (.run (.testl (.register counter) counter) :: .jz target :: rest, machine)
      (machine.exec (.testl (.register counter) counter)) := by
  have tested := testl_self_zero machine counter
  rw [isZero, decide_eq_true rfl] at tested
  exact Ends.next rfl (Ends.next (jz_taken tested isBehind) (Ends.exit rfl))

theorem counter_goesOn (notZero : machine.get counter ≠ 0)
    (ends : Ends (lineTurn routine)
      (rest, machine.exec (.testl (.register counter) counter)) after) :
    Ends (lineTurn routine)
      (.run (.testl (.register counter) counter) :: .jz target :: rest, machine) after := by
  have tested := testl_self_zero machine counter
  rw [decide_eq_false notZero] at tested
  exact Ends.next rfl (Ends.next (jz_past tested) ends)

/-- The body of a loop, up to the jump back. -/
theorem counted_ends (block : List Instruction)
    (isBehind : linesBehind target routine = some lines)
    (ends : Ends (lineTurn routine)
      (lines, (block.foldl Machine.exec machine).exec (.subl (.immediate 1) counter)) after) :
    Ends (lineTurn routine)
      (block.map .run ++ (.run (.subl (.immediate 1) counter) :: .jmp target :: rest),
        machine) after := by
  apply Ends.of_leads (block_leads _ _ block _)
  exact Ends.next rfl (Ends.next (jump_next isBehind) ends)

end Counters

end Blocks

section Repetitions

variable {Label : Type} [DecidableEq Label] {routine rest : List (Line Label)}
  {machine : Machine} {count : Nat}

theorem repeatOnce_ecx (machine : Machine) (instruction : StringInstruction) :
    (machine.repeatOnce instruction).ecx = machine.ecx - 1 := by
  cases instruction <;> rfl

/-- A `rep` prefix runs its instruction `ecx` times. -/
theorem rep_leads (instruction : StringInstruction) (isCount : machine.ecx.toNat = count) :
    Leads (lineTurn routine) (count + 1) (.rep instruction :: rest, machine)
      (rest, forUpTo count (fun _ current => current.repeatOnce instruction) machine) := by
  induction count generalizing machine with
  | zero =>
      have isZero : machine.ecx = 0 := BitVec.eq_of_toNat_eq isCount
      apply Leads.single
      rw [lineTurn, if_pos isZero]
      rfl
  | succ count ih =>
      have notZero : machine.ecx ≠ 0 := ne_zero_of_toNat_eq_succ isCount
      have lower : (machine.repeatOnce instruction).ecx.toNat = count := by
        rw [repeatOnce_ecx]
        exact sub_one_toNat isCount
      rw [forUpTo_front]
      apply Leads.next _ (ih lower)
      rw [lineTurn, if_neg notZero]

/-- The repetitions of `stosl` towards higher addresses. -/
theorem stosl_forward {value : UInt8} (forward : machine.direction = false)
    (fills : ∀ index < 4, byteOf machine.eax index = value) (count : Nat) :
    forUpTo count (fun _ current => current.repeatOnce .stosl) machine =
      { machine with
        memory := machine.memory.storeSequence (addressAt machine.edi) (fun _ => value)
          (4 * count)
        edi := machine.edi + BitVec.ofNat 32 (4 * count)
        ecx := machine.ecx - BitVec.ofNat 32 count } := by
  induction count with
  | zero => simp [TracedMemory.storeSequence]
  | succ count ih =>
      have stored (memory : TracedMemory Nat UInt8) (pointer : BitVec 32) :
          storeLong memory pointer machine.eax =
            memory.storeSequence (addressAt pointer) (fun _ => value) 4 :=
        memory.storeSequence_congr _ fills
      rw [forUpTo_succ, ih, Nat.mul_succ, TracedMemory.storeSequence_add,
        ← add_ofNat_add, ← sub_ofNat_sub]
      simp only [Machine.repeatOnce, Machine.execString, Machine.advance, forward, stored]
      simp only [← addressAt_add]
      rfl

/-- The repetitions of `movsl` towards higher addresses. -/
theorem movsl_forward (forward : machine.direction = false)
    (ahead : ∀ first second, first < second → second < 4 * count →
      addressAt machine.edi first ≠ addressAt machine.esi second) :
    forUpTo count (fun _ current => current.repeatOnce .movsl) machine =
      { machine with
        memory := machine.memory.moveSequence (addressAt machine.edi)
          (addressAt machine.esi) (4 * count)
        esi := machine.esi + BitVec.ofNat 32 (4 * count)
        edi := machine.edi + BitVec.ofNat 32 (4 * count)
        ecx := machine.ecx - BitVec.ofNat 32 count } := by
  induction count with
  | zero => simp [TracedMemory.moveSequence]
  | succ count ih =>
      have moved (memory : TracedMemory Nat UInt8) :=
        @storeLong_loadLong memory (machine.edi + BitVec.ofNat 32 (4 * count))
          (machine.esi + BitVec.ofNat 32 (4 * count)) (by
            intro first second before below
            rw [addressAt_add, addressAt_add]
            exact ahead _ _ (by omega) (by omega))
      rw [forUpTo_succ, ih fun first second before below =>
          ahead first second before (by omega),
        Nat.mul_succ, TracedMemory.moveSequence_add, ← add_ofNat_add, ← add_ofNat_add,
        ← sub_ofNat_sub]
      simp only [Machine.repeatOnce, Machine.execString, Machine.advance, forward, moved]
      simp only [← addressAt_add]
      rfl

/-- The repetitions of `movsb` towards higher addresses. -/
theorem movsb_forward (forward : machine.direction = false) (count : Nat) :
    forUpTo count (fun _ current => current.repeatOnce .movsb) machine =
      { machine with
        memory := machine.memory.moveSequence (addressAt machine.edi)
          (addressAt machine.esi) count
        esi := machine.esi + BitVec.ofNat 32 count
        edi := machine.edi + BitVec.ofNat 32 count
        ecx := machine.ecx - BitVec.ofNat 32 count } := by
  induction count with
  | zero => simp [TracedMemory.moveSequence]
  | succ count ih =>
      rw [forUpTo_succ, ih, TracedMemory.moveSequence_succ, ← add_ofNat_add,
        ← add_ofNat_add, ← sub_ofNat_sub]
      simp only [Machine.repeatOnce, Machine.execString, Machine.advance, forward]
      rfl

/-- The repetitions of `movsb` towards lower addresses. -/
theorem movsb_backward (backward : machine.direction = true) (count : Nat) :
    forUpTo count (fun _ current => current.repeatOnce .movsb) machine =
      { machine with
        memory := machine.memory.moveSequence (addressBefore machine.edi)
          (addressBefore machine.esi) count
        esi := machine.esi - BitVec.ofNat 32 count
        edi := machine.edi - BitVec.ofNat 32 count
        ecx := machine.ecx - BitVec.ofNat 32 count } := by
  induction count with
  | zero => simp [TracedMemory.moveSequence]
  | succ count ih =>
      rw [forUpTo_succ, ih, TracedMemory.moveSequence_succ, ← sub_ofNat_sub,
        ← sub_ofNat_sub, ← sub_ofNat_sub]
      simp only [Machine.repeatOnce, Machine.execString, Machine.advance, backward]
      rfl

end Repetitions

end Assembly
