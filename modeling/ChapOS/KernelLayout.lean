import Mathlib.Data.List.Nodup
import Mathlib.Data.Nat.Bitwise
import Mathlib.Logic.Function.Basic

/-!
# What the build decides

The sources leave open where the linker puts the page tables and which registers
the compiler gives the operands of the inline assembly in `halt`.  Both are
parameters of the kernel.
-/

namespace ChapOS

/-- The registers that an operand with the constraint `"r"` can be in; EBP holds the
frame. -/
inductive OperandRegister where
  | eax
  | ebx
  | ecx
  | edx
  | esi
  | edi
  deriving DecidableEq, Repr

/-- Where the compiler puts the operands `status`, `kbp` and `ksp` of the assembly in
`halt`.  Its clobber list does not name EAX, so one of them can be there; that of the
saved frame is taken to be elsewhere, as the kernel is lost otherwise. -/
structure HaltOperands where
  status : OperandRegister
  kbp : OperandRegister
  ksp : OperandRegister
  distinct : [status, kbp, ksp].Nodup
  kbp_kept : kbp ≠ .eax
  ksp_kept : ksp ≠ .eax

/-- What the linker and the compiler decide: the addresses of the two page tables,
distinct and 4KB-aligned as their `aligned` attributes ask, and the operands of
`halt`. -/
structure KernelLayout where
  pageTableAddr : Nat
  userPageTableAddr : Nat
  pageTable_aligned : 2 ^ 12 ∣ pageTableAddr
  userPageTable_aligned : 2 ^ 12 ∣ userPageTableAddr
  pageTable_lt : pageTableAddr < 2 ^ 32
  distinct : userPageTableAddr ≠ pageTableAddr
  haltOperands : HaltOperands

/-- The registers that the assembly in `halt` works on. -/
structure HaltRegisters where
  operand : OperandRegister → Nat
  ebp : Nat
  esp : Nat

namespace HaltRegisters

/-- The registers in front of the assembly: the operands are loaded. -/
def load (operands : HaltOperands) (status kbp ksp : Nat) (before : HaltRegisters) :
    HaltRegisters :=
  { before with
    operand :=
      Function.update
        (Function.update (Function.update before.operand operands.ksp ksp)
          operands.kbp kbp)
        operands.status status }

/-- `movl value, %eax`. -/
def setEax (value : Nat) (before : HaltRegisters) : HaltRegisters :=
  { before with operand := Function.update before.operand .eax value }

/-- The assembly in `halt`, up to its jump to `RET_FROM_IRET`. -/
def haltAssembly (operands : HaltOperands) (before : HaltRegisters) : HaltRegisters :=
  let cleared := before.setEax 0
  let moved := cleared.setEax (cleared.operand operands.status)
  let masked := moved.setEax (moved.operand .eax &&& 0xFF)
  let switched := { masked with
    ebp := masked.operand operands.kbp
    esp := masked.operand operands.ksp }
  if switched.operand .eax = 1 then switched.setEax 256 else switched

variable (operands : HaltOperands) (status kbp ksp value : Nat) (before : HaltRegisters)

@[simp] theorem setEax_eax : (before.setEax value).operand .eax = value := by
  simp only [setEax, Function.update_self]

theorem setEax_operand {register : OperandRegister} (kept : register ≠ .eax) :
    (before.setEax value).operand register = before.operand register :=
  Function.update_of_ne kept _ _

@[simp] theorem setEax_ebp : (before.setEax value).ebp = before.ebp :=
  rfl

@[simp] theorem setEax_esp : (before.setEax value).esp = before.esp :=
  rfl

@[simp] theorem load_status :
    (before.load operands status kbp ksp).operand operands.status = status :=
  Function.update_self _ _ _

@[simp] theorem load_kbp :
    (before.load operands status kbp ksp).operand operands.kbp = kbp := by
  have apart : operands.kbp ≠ operands.status := fun same => by
    have distinct := operands.distinct
    simp [same] at distinct
  simp only [load, Function.update_of_ne apart, Function.update_self]

@[simp] theorem load_ksp :
    (before.load operands status kbp ksp).operand operands.ksp = ksp := by
  have distinct := operands.distinct
  have apart : operands.ksp ≠ operands.status := fun same => by
    simp [same] at distinct
  have apartKbp : operands.ksp ≠ operands.kbp := fun same => by
    simp [same] at distinct
  simp only [load, Function.update_of_ne apart, Function.update_of_ne apartKbp,
    Function.update_self]

/-- The frame comes back: EBP and ESP are as `execute` saved them. -/
theorem haltAssembly_frame :
    ((before.load operands status kbp ksp).haltAssembly operands).ebp = kbp ∧
      ((before.load operands status kbp ksp).haltAssembly operands).esp = ksp := by
  simp only [haltAssembly]
  constructor <;> split <;>
    simp [setEax_operand, operands.kbp_kept, operands.ksp_kept]

end HaltRegisters

/-- What `halt` gives to the parent.  EAX is cleared before the status is read, so a
status that stands there is lost; otherwise it is the low byte, and 256 for 1. -/
def haltValue (operands : HaltOperands) (status : Nat) : Nat :=
  if operands.status = .eax then 0
  else if status % 256 = 1 then 256
  else status % 256

/-- Status 0 is delivered by every build. -/
@[simp] theorem haltValue_zero (operands : HaltOperands) : haltValue operands 0 = 0 := by
  unfold haltValue
  split <;> rfl

/-- The assembly leaves this value in EAX, whatever the other registers hold. -/
theorem HaltRegisters.haltAssembly_eax (operands : HaltOperands)
    (status kbp ksp : Nat) (before : HaltRegisters) :
    ((before.load operands (status % 256) kbp ksp).haltAssembly operands).operand .eax =
      haltValue operands status := by
  have mask (value : Nat) : value &&& 0xFF = value % 256 :=
    Nat.and_two_pow_sub_one_eq_mod value 8
  simp only [haltAssembly, haltValue]
  by_cases inEax : operands.status = .eax
  · simp [inEax]
  · simp only [setEax_eax, setEax_operand _ _ inEax, load_status, mask, Nat.mod_mod,
      if_neg inEax]
    split
    · simp
    · simp

/-- A build that puts no operand of `halt` in EAX. -/
def spareEax : HaltOperands where
  status := .ebx
  kbp := .edx
  ksp := .ecx
  distinct := by decide
  kbp_kept := by decide
  ksp_kept := by decide

/-- Page tables below the kernel, and no operand of `halt` in EAX. -/
def lowLayout : KernelLayout :=
  ⟨0x1000, 0x2000, by decide, by decide, by decide, by decide, spareEax⟩

/-- The same with the status in EAX, where gcc puts it without optimisation. -/
def eaxLayout : KernelLayout :=
  { lowLayout with
    haltOperands :=
      { status := .eax
        kbp := .edx
        ksp := .ecx
        distinct := by decide
        kbp_kept := by decide
        ksp_kept := by decide } }

end ChapOS
