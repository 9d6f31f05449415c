import ChapOS.CountedLoops
import ChapOS.Devices
import Mathlib.Data.List.Induction
import Mathlib.Tactic.IntervalCases

/-!
# The interrupt descriptor table

`init_idt` with the bit fields of its entries, and what the processor reads from them:
for every vector where it goes on, with interrupts on or off, and who may ask for it.
-/

namespace ChapOS

open CountedLoops

/-- `idt_desc_t`, the fields from the lowest bit on. -/
structure IdtDesc where
  offset15To0 : BitVec 16
  segSelector : BitVec 16
  reserved4 : BitVec 8
  reserved3 : Bool
  reserved2 : Bool
  reserved1 : Bool
  size : Bool
  reserved0 : Bool
  dpl : BitVec 2
  present : Bool
  offset31To16 : BitVec 16
  deriving DecidableEq, Repr

/-- The five bits that say what an entry is. -/
def IdtDesc.kind (desc : IdtDesc) : BitVec 5 :=
  BitVec.ofBool desc.reserved0 ++ BitVec.ofBool desc.size ++ BitVec.ofBool desc.reserved1 ++
    BitVec.ofBool desc.reserved2 ++ BitVec.ofBool desc.reserved3

/-- The 64 bits of an entry. -/
def IdtDesc.val (desc : IdtDesc) : BitVec 64 :=
  desc.offset31To16 ++ BitVec.ofBool desc.present ++ desc.dpl ++ desc.kind ++
    desc.reserved4 ++ desc.segSelector ++ desc.offset15To0

/-- `SET_IDT_ENTRY` -/
def IdtDesc.setIdtEntry (desc : IdtDesc) (handler : BitVec 32) : IdtDesc :=
  { desc with
    offset31To16 := ((handler &&& 0xFFFF0000) >>> 16).setWidth 16
    offset15To0 := (handler &&& 0xFFFF).setWidth 16 }

/-- The functions that `init_idt` installs. -/
inductive VectorHandler
  | exceptionDE | exceptionDB | exceptionNMI | exceptionBP | exceptionOF | exceptionBR
  | exceptionUD | exceptionNM | exceptionDF | exceptionCO | exceptionTS | exceptionNP
  | exceptionSS | exceptionGP | exceptionPF | exceptionMF | exceptionAC | exceptionMC
  | exceptionXM | exceptionVE | exceptionSX
  | pitHandler | keyboardHandler | rtcHandler | mainSyscall | genericHandler
  deriving DecidableEq, Repr

abbrev numVec : Nat := 256
abbrev exceptionNum : Nat := 32
abbrev pitVector : Nat := 0x20
abbrev keyboardVector : Nat := 0x21
abbrev rtcVector : Nat := 0x28
abbrev syscallEntry : Nat := 0x80
abbrev kernelCs : BitVec 16 := 0x0010

/-- The three local entries of `init_idt`, which start out with anything in them. -/
structure GateLocals where
  interrupt : IdtDesc
  syscall : IdtDesc
  exception : IdtDesc

namespace GateLocals

/-- The assignments to a local entry, which leave its offset as it was. -/
def assigned (desc : IdtDesc) (reserved3 : Bool) (dpl : BitVec 2) : IdtDesc :=
  { desc with
    reserved4 := 0
    reserved3 := reserved3
    reserved2 := true
    reserved1 := true
    reserved0 := false
    size := true
    dpl := dpl
    present := true
    segSelector := kernelCs }

def filled (locals : GateLocals) : GateLocals where
  interrupt := assigned locals.interrupt false 0
  exception := assigned locals.exception true 0
  syscall := assigned locals.syscall true 3

end GateLocals

/-- The body of the first loop of `init_idt`. -/
def fillEntry (locals : GateLocals) (i : Nat) (idt : Nat → IdtDesc) : Nat → IdtDesc :=
  if i < exceptionNum then Function.update idt i locals.exception
  else
    let filled := Function.update idt i locals.interrupt
    if i = syscallEntry then Function.update filled i locals.syscall else filled

/-- A use of `SET_IDT_ENTRY` for one vector, or in a loop over vectors up to a bound. -/
inductive Installation
  | entry (vector : Nat) (handler : VectorHandler)
  | entries (first bound : Nat) (handler : VectorHandler)

namespace Installation

def handler : Installation → VectorHandler
  | entry _ handler => handler
  | entries _ _ handler => handler

def covers (vector : Nat) : Installation → Bool
  | entry only _ => decide (vector = only)
  | entries first bound _ => decide (first ≤ vector ∧ vector < bound)

def run (address : VectorHandler → BitVec 32) (idt : Nat → IdtDesc) :
    Installation → Nat → IdtDesc
  | entry vector handler =>
      Function.update idt vector ((idt vector).setIdtEntry (address handler))
  | entries first bound handler =>
      forUpTo (bound - first) (fun i idt =>
        Function.update idt (first + i) ((idt (first + i)).setIdtEntry (address handler))) idt

end Installation

/-- The rest of `init_idt`, in its order. -/
def installations : List Installation :=
  [.entry pitVector .pitHandler,
    .entry keyboardVector .keyboardHandler,
    .entries (keyboardVector + 1) rtcVector .genericHandler,
    .entry rtcVector .rtcHandler,
    .entries (rtcVector + 1) syscallEntry .genericHandler,
    .entry syscallEntry .mainSyscall,
    .entries (syscallEntry + 1) numVec .genericHandler,
    .entry 0 .exceptionDE, .entry 1 .exceptionDB, .entry 2 .exceptionNMI,
    .entry 3 .exceptionBP, .entry 4 .exceptionOF, .entry 5 .exceptionBR,
    .entry 6 .exceptionUD, .entry 7 .exceptionNM, .entry 8 .exceptionDF,
    .entry 9 .exceptionCO, .entry 10 .exceptionTS, .entry 11 .exceptionNP,
    .entry 12 .exceptionSS, .entry 13 .exceptionGP, .entry 14 .exceptionPF,
    .entry 16 .exceptionMF, .entry 17 .exceptionAC, .entry 18 .exceptionMC,
    .entry 19 .exceptionXM, .entry 20 .exceptionVE, .entry 30 .exceptionSX]

/-- `init_idt`, for the addresses of the handlers. -/
def initIdt (address : VectorHandler → BitVec 32) (locals : GateLocals)
    (idt : Nat → IdtDesc) : Nat → IdtDesc :=
  installations.foldl (Installation.run address)
    (forUpTo numVec (fillEntry locals.filled) idt)

/-! ## What the processor reads -/

/-- A gate of the table, by what the processor does with it. -/
structure Gate where
  offset : BitVec 32
  selector : BitVec 16
  /-- A trap gate leaves interrupts on, an interrupt gate turns them off. -/
  trap : Bool
  dpl : BitVec 2
  deriving DecidableEq, Repr

/-- Why the processor does not take an entry: it is no 32-bit gate, or not present. -/
inductive GateFault
  | wrongType | notPresent
  deriving DecidableEq, Repr

/-- An entry as the processor decodes it. -/
def readGate (entry : BitVec 64) : Except GateFault Gate :=
  let gate (trap : Bool) : Gate :=
    ⟨entry.extractLsb' 48 16 ++ entry.extractLsb' 0 16, entry.extractLsb' 16 16, trap,
      entry.extractLsb' 45 2⟩
  if entry.extractLsb' 40 5 = 0b01110 ∨ entry.extractLsb' 40 5 = 0b01111 then
    if entry.extractLsb' 47 1 = 1 then .ok (gate (decide (entry.extractLsb' 40 5 = 0b01111)))
    else .error .notPresent
  else .error .wrongType

/-- An exception or an interrupt from a device. -/
def deliver (idt : Nat → IdtDesc) (vector : Nat) : Except GateFault Gate :=
  readGate (idt vector).val

/-- `int vector` at a privilege level.  A gate above the level of the program, or one that
is not there, is an exception. -/
def softwareInterrupt (idt : Nat → IdtDesc) (level vector : Nat) : Except GateFault Gate :=
  match deliver idt vector with
  | .ok gate => if gate.dpl.toNat < level then deliver idt 13 else .ok gate
  | .error .wrongType => deliver idt 13
  | .error .notPresent => deliver idt 11

/-- The vector of an interrupt line, by the second initialisation words of the
controllers. -/
def irqVector (irq : Nat) : Nat :=
  if irq < 8 then icw2Master.toNat + irq else icw2Slave.toNat + (irq - 8)

section Entries

variable (desc : IdtDesc)

theorem extract_offset : desc.val.extractLsb' 48 16 ++ desc.val.extractLsb' 0 16 =
    desc.offset31To16 ++ desc.offset15To0 := by
  unfold IdtDesc.val
  simp (disch := decide) only [BitVec.extractLsb'_append_eq_of_le,
    BitVec.extractLsb'_append_eq_of_add_le, Nat.reduceSub, BitVec.extractLsb'_eq_self]

theorem extract_fields : desc.val.extractLsb' 16 16 = desc.segSelector ∧
    desc.val.extractLsb' 40 5 = desc.kind ∧ desc.val.extractLsb' 45 2 = desc.dpl ∧
    desc.val.extractLsb' 47 1 = BitVec.ofBool desc.present := by
  unfold IdtDesc.val
  simp (disch := decide) only [BitVec.extractLsb'_append_eq_of_le,
    BitVec.extractLsb'_append_eq_of_add_le, Nat.reduceSub, BitVec.extractLsb'_eq_self,
    and_self]

/-- An entry with the fields of an interrupt gate or a trap gate is decoded as one. -/
theorem readGate_assigned (reserved3 : Bool) (dpl : BitVec 2) :
    readGate (GateLocals.assigned desc reserved3 dpl).val =
      .ok ⟨desc.offset31To16 ++ desc.offset15To0, kernelCs, reserved3, dpl⟩ := by
  obtain ⟨selector, kind, level, present⟩ :=
    extract_fields (GateLocals.assigned desc reserved3 dpl)
  have offset := extract_offset (GateLocals.assigned desc reserved3 dpl)
  have isGate : (GateLocals.assigned desc reserved3 dpl).kind =
      bif reserved3 then 0b01111 else 0b01110 := by
    unfold IdtDesc.kind GateLocals.assigned
    dsimp only
    cases reserved3 <;> decide
  rw [isGate] at kind
  unfold readGate
  rw [selector, kind, level, present, offset]
  cases reserved3 with
  | false => exact (if_pos (Or.inl rfl)).trans (if_pos rfl)
  | true => exact (if_pos (Or.inr rfl)).trans (if_pos rfl)

/-- Both halves of an address are found again. -/
theorem offset_setIdtEntry (handler : BitVec 32) :
    (desc.setIdtEntry handler).offset31To16 ++ (desc.setIdtEntry handler).offset15To0 =
      handler := by
  apply BitVec.eq_of_getLsbD_eq
  intro bit bitLt
  unfold IdtDesc.setIdtEntry
  rw [BitVec.getLsbD_append]
  simp only [BitVec.getLsbD_setWidth, BitVec.getLsbD_ushiftRight, BitVec.getLsbD_and]
  by_cases low : bit < 16
  · have masked : (0xFFFF#32).getLsbD bit = true := by
      interval_cases bit <;> rfl
    simp [low, masked]
  · have masked : (0xFFFF0000#32).getLsbD bit = true := by
      interval_cases bit <;> rfl
    have back : 16 + (bit - 16) = bit := by omega
    have high : bit - 16 < 16 := by omega
    simp [low, back, high, masked]

end Entries

section Table

variable (address : VectorHandler → BitVec 32)

/-- The first loop gives every vector its kind of gate. -/
theorem fillEntry_spec (locals : GateLocals) (idt : Nat → IdtDesc) (count vector : Nat) :
    forUpTo count (fillEntry locals) idt vector =
      if vector < count then
        if vector < exceptionNum then locals.exception
        else if vector = syscallEntry then locals.syscall else locals.interrupt
      else idt vector := by
  induction count with
  | zero => rfl
  | succ count ih =>
      rw [forUpTo_succ, fillEntry]
      by_cases last : vector = count
      · subst last
        rw [if_pos (Nat.lt_succ_self vector)]
        split
        · rw [Function.update_self]
        · dsimp only
          split
          · rw [Function.update_self]
          · rw [Function.update_self]
      · have sameSide : vector < count + 1 ↔ vector < count := by omega
        simp only [sameSide]
        rw [← ih]
        split
        · rw [Function.update_of_ne last]
        · split
          · rw [Function.update_of_ne last, Function.update_of_ne last]
          · rw [Function.update_of_ne last]

/-- An installation sets the offset of the vectors that it covers. -/
theorem Installation.run_apply (installation : Installation) (idt : Nat → IdtDesc)
    (vector : Nat) :
    installation.run address idt vector =
      if installation.covers vector then
        (idt vector).setIdtEntry (address installation.handler)
      else idt vector := by
  cases installation with
  | entry only handler =>
      simp only [Installation.run, Installation.covers, Installation.handler,
        Function.update_apply, decide_eq_true_eq]
      split
      · rename_i here
        rw [here]
      · rfl
  | entries first bound handler =>
      have loop (count : Nat) :
          forUpTo count (fun i idt => Function.update idt (first + i)
              ((idt (first + i)).setIdtEntry (address handler))) idt vector =
            if first ≤ vector ∧ vector < first + count then
              (idt vector).setIdtEntry (address handler)
            else idt vector := by
        induction count with
        | zero => rw [forUpTo_zero, if_neg (by omega)]
        | succ count ih =>
            rw [forUpTo_succ, Function.update_apply]
            by_cases last : vector = first + count
            · rw [if_pos last, ← last, ih, if_neg (by omega), if_pos (by omega)]
            · rw [if_neg last, ih]
              have sameSide : first ≤ vector ∧ vector < first + (count + 1) ↔
                  first ≤ vector ∧ vector < first + count := by omega
              simp only [sameSide]
      simp only [Installation.run, Installation.covers, Installation.handler,
        decide_eq_true_eq]
      rw [loop]
      have sameSide : first ≤ vector ∧ vector < first + (bound - first) ↔
          first ≤ vector ∧ vector < bound := by omega
      simp only [sameSide]

/-- The handler that a list of installations leaves at a vector. -/
def installed (list : List Installation) (vector : Nat) : Option VectorHandler :=
  list.foldl (fun current installation =>
    if installation.covers vector then some installation.handler else current) none

/-- Only the last installation of a vector counts. -/
theorem run_installed (list : List Installation) (idt : Nat → IdtDesc) (vector : Nat) :
    list.foldl (Installation.run address) idt vector =
      match installed list vector with
      | none => idt vector
      | some handler => (idt vector).setIdtEntry (address handler) := by
  induction list using List.reverseRecOn with
  | nil => rfl
  | append_singleton list last ih =>
      unfold installed
      rw [List.foldl_append, List.foldl_append, List.foldl_cons, List.foldl_nil,
        List.foldl_cons, List.foldl_nil, Installation.run_apply, ih]
      split
      · rename_i covered
        cases installed list vector <;> rfl
      · rfl

/-- The handler of a vector; of 15, 21 to 29 and 31 there is none. -/
def routed (vector : Nat) : Option VectorHandler :=
  if vector < exceptionNum then
    [some .exceptionDE, some .exceptionDB, some .exceptionNMI, some .exceptionBP,
      some .exceptionOF, some .exceptionBR, some .exceptionUD, some .exceptionNM,
      some .exceptionDF, some .exceptionCO, some .exceptionTS, some .exceptionNP,
      some .exceptionSS, some .exceptionGP, some .exceptionPF, none, some .exceptionMF,
      some .exceptionAC, some .exceptionMC, some .exceptionXM, some .exceptionVE, none,
      none, none, none, none, none, none, none, none, some .exceptionSX,
      none].getD vector none
  else if vector = pitVector then some .pitHandler
  else if vector = keyboardVector then some .keyboardHandler
  else if vector = rtcVector then some .rtcHandler
  else if vector = syscallEntry then some .mainSyscall
  else some .genericHandler

theorem installed_installations {vector : Nat} (vectorLt : vector < numVec) :
    installed installations vector = routed vector := by
  revert vector
  decide +kernel

/-- The kind of gate that the first loop gives to a vector. -/
theorem assigned_at (locals : GateLocals) (idt : Nat → IdtDesc) {vector : Nat}
    (vectorLt : vector < numVec) :
    ∃ desc, forUpTo numVec (fillEntry locals.filled) idt vector =
        GateLocals.assigned desc (decide (vector < exceptionNum ∨ vector = syscallEntry))
          (if vector = syscallEntry then 3 else 0) ∧
      (vector < exceptionNum → desc = locals.exception) := by
  rw [fillEntry_spec, if_pos vectorLt]
  by_cases exception : vector < exceptionNum
  · have notSyscall : vector ≠ syscallEntry := by
      intro syscall
      rw [syscall] at exception
      exact absurd exception (by decide)
    rw [if_pos exception, if_neg notSyscall, decide_eq_true (Or.inl exception)]
    exact ⟨locals.exception, rfl, fun _ => rfl⟩
  · rw [if_neg exception]
    by_cases syscall : vector = syscallEntry
    · rw [if_pos syscall, if_pos syscall, decide_eq_true (Or.inr syscall)]
      exact ⟨locals.syscall, rfl, fun small => absurd small exception⟩
    · rw [if_neg syscall, if_neg syscall, decide_eq_false (not_or.mpr ⟨exception, syscall⟩)]
      exact ⟨locals.interrupt, rfl, fun small => absurd small exception⟩

/-- What the processor reads at a vector behind `init_idt`. -/
theorem deliver_initIdt (locals : GateLocals) (idt : Nat → IdtDesc) {vector : Nat}
    (vectorLt : vector < numVec) :
    deliver (initIdt address locals idt) vector =
      .ok ⟨match routed vector with
          | some handler => address handler
          | none => locals.exception.offset31To16 ++ locals.exception.offset15To0,
        kernelCs, decide (vector < exceptionNum ∨ vector = syscallEntry),
        if vector = syscallEntry then 3 else 0⟩ := by
  obtain ⟨desc, filled, stale⟩ := assigned_at locals idt vectorLt
  unfold deliver initIdt
  rw [run_installed, installed_installations vectorLt, filled]
  cases route : routed vector with
  | none =>
      have isException : vector < exceptionNum := by
        by_contra above
        unfold routed at route
        rw [if_neg above] at route
        repeat' split at route
        all_goals cases route
      dsimp only
      rw [readGate_assigned, stale isException]
  | some handler =>
      have moved (gate : IdtDesc) (reserved3 : Bool) (dpl : BitVec 2) :
          (GateLocals.assigned gate reserved3 dpl).setIdtEntry (address handler) =
            GateLocals.assigned (gate.setIdtEntry (address handler)) reserved3 dpl := rfl
      dsimp only
      rw [moved, readGate_assigned, offset_setIdtEntry]

end Table

/-- A program gets into the kernel through the system calls and nowhere else: any other
`int` is a general protection fault. -/
theorem program_enters_by_syscall (address : VectorHandler → BitVec 32) (locals : GateLocals)
    (idt : Nat → IdtDesc) {vector : Nat} (vectorLt : vector < numVec) :
    softwareInterrupt (initIdt address locals idt) 3 vector =
      .ok (if vector = syscallEntry then ⟨address .mainSyscall, kernelCs, true, 3⟩
        else ⟨address .exceptionGP, kernelCs, true, 0⟩) := by
  unfold softwareInterrupt
  rw [deliver_initIdt address locals idt vectorLt,
    deliver_initIdt address locals idt (show 13 < numVec by decide)]
  by_cases syscall : vector = syscallEntry
  · subst syscall
    rfl
  · dsimp only
    rw [if_neg syscall, if_neg syscall]
    rfl

/-- The entries that `x86_desc.S` reserves. -/
def clearedDesc : IdtDesc :=
  ⟨0, 0, 0, false, false, false, false, false, 0, false, 0⟩

/-- A program that runs into a breakpoint. -/
theorem program_enters_by_syscall_breakpoint :
    softwareInterrupt (initIdt (fun _ => 0x400123) ⟨clearedDesc, clearedDesc, clearedDesc⟩
        fun _ => clearedDesc) 3 3 =
      .ok ⟨0x400123, kernelCs, true, 0⟩ :=
  program_enters_by_syscall (fun _ => 0x400123) ⟨clearedDesc, clearedDesc, clearedDesc⟩
    (fun _ => clearedDesc) (show 3 < numVec by decide)

/-- Every interrupt line arrives through an interrupt gate, those in use at their
handlers. -/
theorem interrupt_lines_routed (address : VectorHandler → BitVec 32) (locals : GateLocals)
    (idt : Nat → IdtDesc) {irq : Nat} (irqLt : irq < 16) :
    deliver (initIdt address locals idt) (irqVector irq) =
      .ok ⟨address (if irq = pitIrq then .pitHandler
          else if irq = keyboardIrq then .keyboardHandler
          else if irq = rtcIrq then .rtcHandler
          else .genericHandler), kernelCs, false, 0⟩ := by
  have vectorLt : irqVector irq < numVec := by
    interval_cases irq <;> decide
  rw [deliver_initIdt address locals idt vectorLt]
  interval_cases irq <;> rfl

/-- The mouse, which nobody handles. -/
theorem interrupt_lines_routed_mouse :
    deliver (initIdt (fun _ => 0x400123) ⟨clearedDesc, clearedDesc, clearedDesc⟩
        fun _ => clearedDesc) (irqVector 12) =
      .ok ⟨0x400123, kernelCs, false, 0⟩ :=
  interrupt_lines_routed (fun _ => 0x400123) ⟨clearedDesc, clearedDesc, clearedDesc⟩
    (fun _ => clearedDesc) (show 12 < 16 by decide)

end ChapOS
