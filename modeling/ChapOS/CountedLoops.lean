import Mathlib.Algebra.Group.Int.Defs
import Mathlib.Algebra.Group.Nat.Defs
import Mathlib.Logic.Function.Basic

/-!
# Counted loops

The state after the body of a counted `for` loop has run for the indices below
a bound, with the invariant rule by which such loops are verified.
-/

namespace CountedLoops

variable {State : Type*}

/-- Run `body 0`, `body 1`, ..., `body (count - 1)` in this order. -/
def forUpTo : Nat → (Nat → State → State) → State → State
  | 0, _, state => state
  | count + 1, body, state => body count (forUpTo count body state)

@[simp]
theorem forUpTo_zero (body : Nat → State → State) (state : State) :
    forUpTo 0 body state = state :=
  rfl

theorem forUpTo_succ (count : Nat) (body : Nat → State → State)
    (state : State) :
    forUpTo (count + 1) body state = body count (forUpTo count body state) :=
  rfl

/-- The first index can be taken off the front of the loop. -/
theorem forUpTo_front (count : Nat) (body : Nat → State → State)
    (state : State) :
    forUpTo (count + 1) body state =
      forUpTo count (fun index => body (index + 1)) (body 0 state) := by
  induction count with
  | zero => rfl
  | succ count ih =>
      rw [forUpTo_succ, ih]
      rfl

/-- Only the bodies below the bound matter. -/
theorem forUpTo_congr {count : Nat} {body other : Nat → State → State} {state : State}
    (same : ∀ index < count, ∀ current, body index current = other index current) :
    forUpTo count body state = forUpTo count other state := by
  induction count with
  | zero => rfl
  | succ count ih =>
      rw [forUpTo_succ, forUpTo_succ, same count (Nat.lt_succ_self count),
        ih fun index indexLt => same index (Nat.lt_succ_of_lt indexLt)]

/-- A loop can be cut in two. -/
theorem forUpTo_add (first count : Nat) (body : Nat → State → State) (state : State) :
    forUpTo (first + count) body state =
      forUpTo count (fun index => body (first + index)) (forUpTo first body state) := by
  induction count with
  | zero => rfl
  | succ count ih => rw [← Nat.add_assoc, forUpTo_succ, ih, forUpTo_succ]

/-- The invariant rule: what holds before the first index and is carried by
every body from its index to the next holds at the end. -/
theorem forUpTo_invariant (invariant : Nat → State → Prop) {count : Nat}
    {body : Nat → State → State} {state : State}
    (starts : invariant 0 state)
    (preserves : ∀ index < count, ∀ current,
      invariant index current → invariant (index + 1) (body index current)) :
    invariant count (forUpTo count body state) := by
  induction count with
  | zero => exact starts
  | succ count ih =>
      rw [forUpTo_succ]
      apply preserves count (Nat.lt_succ_self count)
      exact ih fun index indexLt =>
        preserves index (Nat.lt_succ_of_lt indexLt)

/-- A loop that assigns the same value to every index below the bound. -/
theorem forUpTo_assign {Value : Type*} (count : Nat) (value : Value)
    (cells : Nat → Value) (index : Nat) :
    forUpTo count (fun current state => Function.update state current value)
        cells index =
      if index < count then value else cells index := by
  induction count with
  | zero => simp
  | succ count ih =>
      rw [forUpTo_succ, Function.update_apply, ih]
      by_cases last : index = count
      · simp [last]
      · have sameSide : index < count + 1 ↔ index < count := by omega
        simp only [last, if_false, sameSide]

/-- How many of the first `count` indices a loop reaches that stops at the first index
it is not allowed. -/
def reached (allowed : Nat → Bool) : Nat → Nat
  | 0 => 0
  | count + 1 =>
      if reached allowed count = count ∧ allowed count = true then count + 1
      else reached allowed count

theorem reached_le (allowed : Nat → Bool) (count : Nat) :
    reached allowed count ≤ count := by
  induction count with
  | zero => exact Nat.le_refl 0
  | succ count ih =>
      rw [reached]
      split <;> omega

/-- An index is reached when it and all before it are allowed. -/
theorem lt_reached_iff {allowed : Nat → Bool} {count index : Nat} :
    index < reached allowed count ↔
      index < count ∧ ∀ before ≤ index, allowed before = true := by
  induction count generalizing index with
  | zero => simp [reached]
  | succ count ih =>
      rw [reached]
      by_cases all : reached allowed count = count ∧ allowed count = true
      · rw [if_pos all]
        refine ⟨fun indexLt => ⟨indexLt, fun before beforeLe => ?_⟩, And.left⟩
        by_cases last : before = count
        · rw [last]
          exact all.2
        · exact (ih.mp (show before < reached allowed count by omega)).2 before
            (Nat.le_refl before)
      · rw [if_neg all, ih]
        refine ⟨fun found => ⟨by omega, found.2⟩, fun found => ⟨?_, found.2⟩⟩
        by_contra large
        obtain rfl : index = count := by omega
        have le := reached_le allowed index
        apply all
        refine ⟨?_, found.2 index (Nat.le_refl index)⟩
        by_contra short
        have stopped := mt (@ih (reached allowed index)).mpr (Nat.lt_irrefl _)
        exact stopped ⟨by omega, fun before beforeLe => found.2 before (by omega)⟩

theorem reached_eq_iff {allowed : Nat → Bool} {count : Nat} :
    reached allowed count = count ↔ ∀ index < count, allowed index = true := by
  constructor
  · intro all index indexLt
    exact (lt_reached_iff.mp (show index < reached allowed count by omega)).2 index
      (Nat.le_refl index)
  · intro all
    by_contra short
    have le := reached_le allowed count
    have stopped := mt (@lt_reached_iff allowed count (reached allowed count)).mpr
      (Nat.lt_irrefl _)
    exact stopped ⟨by omega, fun before beforeLe => all before (by omega)⟩

end CountedLoops
