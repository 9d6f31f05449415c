import Mathlib.Data.Nat.Bitwise

/-!
# The two-level page walk

Translation of linear addresses by a page directory of 1024 entries and page
tables of 1024 entries, with 4MB pages where a directory entry has its PS bit
set.  Entries are the raw words; the flag bits and the frame base of a word
that was or-ed together from an aligned base and low flags are recovered here.
-/

namespace PageWalk

/-- Bit 0 of an entry. -/
def present (entry : Nat) : Bool :=
  entry.testBit 0

/-- Bit 1 of an entry. -/
def writable (entry : Nat) : Bool :=
  entry.testBit 1

/-- Bit 2 of an entry: accessible at user level. -/
def userLevel (entry : Nat) : Bool :=
  entry.testBit 2

/-- Bit 7 of a directory entry: it maps a 4MB page itself. -/
def largePage (entry : Nat) : Bool :=
  entry.testBit 7

/-- The frame address of an entry whose low `bits` bits are not address bits. -/
def frameBase (bits entry : Nat) : Nat :=
  entry / 2 ^ bits * 2 ^ bits

/-- Bits 31 to 22 of a linear address. -/
def directoryIndex (linear : Nat) : Nat :=
  linear / 2 ^ 22

/-- Bits 21 to 12 of a linear address. -/
def tableIndex (linear : Nat) : Nat :=
  linear / 2 ^ 12 % 2 ^ 10

theorem tableIndex_lt (linear : Nat) : tableIndex linear < 1024 :=
  Nat.mod_lt _ (by decide)

/-- A linear address is put together from its two indices and its offset. -/
theorem linear_eq (linear : Nat) :
    linear = directoryIndex linear * 2 ^ 22 + tableIndex linear * 2 ^ 12 +
      linear % 2 ^ 12 := by
  simp only [directoryIndex, tableIndex]
  omega

/-- The result of a successful walk, with the access rights that hold at
every level. -/
structure Translation where
  physical : Nat
  writable : Bool
  userLevel : Bool
  deriving DecidableEq, Repr

/-- A page directory, and the page tables found at physical frame addresses. -/
structure Tables where
  directory : Nat → Nat
  tableAt : Nat → Option (Nat → Nat)

/-- Translate a linear address; `none` is a page fault. -/
def walk (tables : Tables) (linear : Nat) : Option Translation :=
  let outer := tables.directory (directoryIndex linear)
  if present outer then
    if largePage outer then
      some
        { physical := frameBase 22 outer + linear % 2 ^ 22
          writable := writable outer
          userLevel := userLevel outer }
    else
      (tables.tableAt (frameBase 12 outer)).bind fun table =>
        let inner := table (tableIndex linear)
        if present inner then
          some
            { physical := frameBase 12 inner + linear % 2 ^ 12
              writable := writable outer && writable inner
              userLevel := userLevel outer && userLevel inner }
        else none
  else none

section Entries

variable {bits base flags : Nat}

/-- An aligned base or-ed with low flags keeps the base as its frame. -/
theorem frameBase_or (aligned : 2 ^ bits ∣ base) (low : flags < 2 ^ bits) :
    frameBase bits (base ||| flags) = base := by
  obtain ⟨frame, rfl⟩ := aligned
  rw [frameBase, ← Nat.two_pow_add_eq_or_of_lt low,
    Nat.mul_add_div (Nat.two_pow_pos bits), Nat.div_eq_of_lt low,
    Nat.add_zero, Nat.mul_comm]

/-- An aligned base or-ed with low flags shows exactly the flags in its low
bits. -/
theorem testBit_or_of_aligned (flags : Nat) (aligned : 2 ^ bits ∣ base) {bit : Nat}
    (bitLt : bit < bits) :
    (base ||| flags).testBit bit = flags.testBit bit := by
  obtain ⟨frame, rfl⟩ := aligned
  rw [Nat.testBit_or, Nat.testBit_two_pow_mul]
  simp [Nat.not_le_of_lt bitLt]

end Entries

section Walks

variable {tables : Tables} {linear : Nat}

theorem walk_of_absent
    (absent : present (tables.directory (directoryIndex linear)) = false) :
    walk tables linear = none := by
  simp [walk, absent]

/-- A present directory entry with PS set maps its 4MB page. -/
theorem walk_of_large {base flags : Nat}
    (entry : tables.directory (directoryIndex linear) = base ||| flags)
    (aligned : 2 ^ 22 ∣ base) (low : flags < 2 ^ 22)
    (isPresent : flags.testBit 0 = true) (isLarge : flags.testBit 7 = true) :
    walk tables linear =
      some ⟨base + linear % 2 ^ 22, flags.testBit 1, flags.testBit 2⟩ := by
  have bitEq (bit : Nat) (bitLt : bit < 22) :
      (base ||| flags).testBit bit = flags.testBit bit :=
    testBit_or_of_aligned flags aligned bitLt
  simp [walk, entry, present, largePage, writable, userLevel,
    frameBase_or aligned low, bitEq, isPresent, isLarge]

/-- A present directory entry without PS hands the address to its table. -/
theorem walk_of_table {base flags : Nat} (table : Nat → Nat)
    (entry : tables.directory (directoryIndex linear) = base ||| flags)
    (aligned : 2 ^ 12 ∣ base) (low : flags < 2 ^ 12)
    (isPresent : flags.testBit 0 = true) (notLarge : flags.testBit 7 = false)
    (found : tables.tableAt base = some table) :
    walk tables linear =
      if present (table (tableIndex linear)) then
        some
          { physical := frameBase 12 (table (tableIndex linear)) + linear % 2 ^ 12
            writable := flags.testBit 1 && writable (table (tableIndex linear))
            userLevel := flags.testBit 2 && userLevel (table (tableIndex linear)) }
      else none := by
  have bitEq (bit : Nat) (bitLt : bit < 12) :
      (base ||| flags).testBit bit = flags.testBit bit :=
    testBit_or_of_aligned flags aligned bitLt
  simp [walk, entry, present, largePage, writable, userLevel,
    frameBase_or aligned low, bitEq, isPresent, notLarge, found]

end Walks

end PageWalk
