import Mathlib.Algebra.Group.Nat.Defs
import Mathlib.Data.List.Basic

/-!
# Stacks of 32-bit words in byte memory

A downward-growing stack kept in byte-addressed memory, little endian, with
32-bit addresses that wrap.  `Holds` says which words lie from an address
upwards; it is kept by every change below that address, so code that balances
its pushes and pops finds its words again.
-/

namespace WordStack

abbrev Word := BitVec 32

abbrev Bytes := Word → BitVec 8

def loadWord (memory : Bytes) (address : Word) : Word :=
  memory (address + 3) ++ memory (address + 2) ++ memory (address + 1) ++
    memory address

def storeWord (memory : Bytes) (address value : Word) : Bytes := fun byte =>
  if byte = address then value.extractLsb' 0 8
  else if byte = address + 1 then value.extractLsb' 8 8
  else if byte = address + 2 then value.extractLsb' 16 8
  else if byte = address + 3 then value.extractLsb' 24 8
  else memory byte

theorem loadWord_storeWord (memory : Bytes) (address value : Word) :
    loadWord (storeWord memory address value) address = value := by
  have one : address + 1 ≠ address := by bv_omega
  have two : address + 2 ≠ address ∧ address + 2 ≠ address + 1 := by
    constructor <;> bv_omega
  have three : address + 3 ≠ address ∧ address + 3 ≠ address + 1 ∧
      address + 3 ≠ address + 2 := by
    refine ⟨?_, ?_, ?_⟩ <;> bv_omega
  unfold loadWord storeWord
  rw [if_neg three.1, if_neg three.2.1, if_neg three.2.2, if_pos rfl, if_neg two.1,
    if_neg two.2, if_pos rfl, if_neg one, if_pos rfl, if_pos rfl]
  have half : value.extractLsb' 24 8 ++ value.extractLsb' 16 8 =
      value.extractLsb' 16 16 :=
    BitVec.extractLsb'_append_extractLsb'_eq_extractLsb' rfl
  have upper : value.extractLsb' 16 16 ++ value.extractLsb' 8 8 =
      value.extractLsb' 8 24 :=
    BitVec.extractLsb'_append_extractLsb'_eq_extractLsb' rfl
  have whole : value.extractLsb' 8 24 ++ value.extractLsb' 0 8 = value :=
    BitVec.extractLsb'_append_extractLsb'
  rw [half, upper, whole]

/-- A store changes the four bytes from its address on, and no other. -/
theorem storeWord_of_apart (memory : Bytes) {address byte : Word} (value : Word)
    (apart : 4 ≤ (byte - address).toNat) :
    storeWord memory address value byte = memory byte := by
  unfold storeWord
  rw [if_neg (by bv_omega), if_neg (by bv_omega), if_neg (by bv_omega),
    if_neg (by bv_omega)]

/-- The words found from an address upwards. -/
def loadWords (memory : Bytes) (address : Word) : Nat → List Word
  | 0 => []
  | count + 1 => loadWord memory address :: loadWords memory (address + 4) count

@[simp]
theorem loadWords_length (memory : Bytes) (address : Word) (count : Nat) :
    (loadWords memory address count).length = count := by
  induction count generalizing address with
  | zero => rfl
  | succ count ih => rw [loadWords, List.length_cons, ih]

/-- Two memories that agree on a range of bytes hold the same words there. -/
theorem loadWords_congr {memory other : Bytes} {address : Word} {count : Nat}
    (same : ∀ offset < 4 * count, other (address + BitVec.ofNat 32 offset) =
      memory (address + BitVec.ofNat 32 offset)) :
    loadWords other address count = loadWords memory address count := by
  induction count generalizing address with
  | zero => rfl
  | succ count ih =>
      have zero : other address = memory address := by
        simpa using same 0 (by omega)
      have one : other (address + 1) = memory (address + 1) := same 1 (by omega)
      have two : other (address + 2) = memory (address + 2) := same 2 (by omega)
      have three : other (address + 3) = memory (address + 3) := same 3 (by omega)
      rw [loadWords, loadWords]
      congr 1
      · rw [loadWord, loadWord, zero, one, two, three]
      · apply ih
        intro offset offsetLt
        have shifted := same (4 + offset) (by omega)
        rwa [BitVec.ofNat_add, ← BitVec.add_assoc] at shifted

/-- `words` lie in memory from `address` upwards. -/
def Holds (memory : Bytes) (address : Word) (words : List Word) : Prop :=
  loadWords memory address words.length = words

namespace Holds

variable {memory : Bytes} {address value : Word} {words : List Word}

theorem nil : Holds memory address [] :=
  rfl

theorem cons_iff : Holds memory address (value :: words) ↔
    loadWord memory address = value ∧ Holds memory (address + 4) words := by
  rw [Holds, List.length_cons, loadWords, List.cons.injEq, Holds]

theorem congr {other : Bytes} (holds : Holds memory address words)
    (same : ∀ offset < 4 * words.length, other (address + BitVec.ofNat 32 offset) =
      memory (address + BitVec.ofNat 32 offset)) :
    Holds other address words :=
  (loadWords_congr same).trans holds

/-- A push puts its word on top of those that lie there. -/
theorem push (holds : Holds memory address words) (value : Word)
    (room : 4 * (words.length + 1) ≤ 2 ^ 32) :
    Holds (storeWord memory (address - 4) value) (address - 4) (value :: words) := by
  refine cons_iff.mpr ⟨loadWord_storeWord _ _ _, ?_⟩
  have back : address - 4 + 4 = address := by bv_omega
  rw [back]
  apply holds.congr
  intro offset offsetLt
  apply storeWord_of_apart
  have distance : address + BitVec.ofNat 32 offset - (address - 4) =
      BitVec.ofNat 32 (offset + 4) := by
    rw [BitVec.ofNat_add]
    bv_omega
  rw [distance, BitVec.toNat_ofNat, Nat.mod_eq_of_lt (by omega)]
  omega

/-- The words below a given depth, and those above it. -/
theorem append_iff {upper : List Word} : Holds memory address (words ++ upper) ↔
    Holds memory address words ∧
      Holds memory (address + BitVec.ofNat 32 (4 * words.length)) upper := by
  induction words generalizing address with
  | nil => simp [Holds, loadWords]
  | cons value words ih =>
      rw [List.cons_append, cons_iff, cons_iff, ih, and_assoc]
      have shifted : address + 4 + BitVec.ofNat 32 (4 * words.length) =
          address + BitVec.ofNat 32 (4 * (value :: words).length) := by
        rw [List.length_cons, Nat.mul_succ, BitVec.ofNat_add]
        bv_omega
      rw [shifted]

end Holds

end WordStack
