import Mathlib.Tactic.Basic

/-!
# Loops that need not end

A loop is given by what one turn of it does.  It is run for a number of turns,
and has no result when that number is too small, so that a result is also a
proof that the loop ends.  The variant rule gives the result of a loop together
with a number of turns that is enough.
-/

namespace WhileLoops

/-- How one turn of a loop is left. -/
inductive Turn (State Result : Type*) where
  | next (state : State)
  | exit (result : Result)
  /-- Something inside the turn does not end. -/
  | stuck

/-- Run a loop for at most `turns` turns. -/
def runFor {State Result : Type*} (turn : State → Turn State Result) :
    Nat → State → Option Result
  | 0, _ => none
  | turns + 1, state =>
      match turn state with
      | .next after => runFor turn turns after
      | .exit result => some result
      | .stuck => none

/-- `while (condition) body`. -/
def whileTurn {State : Type*} (condition : State → Bool) (body : State → State)
    (state : State) : Turn State State :=
  if condition state then .next (body state) else .exit state

/-- Go on with the result of a loop inside the turn. -/
def Turn.after {State Result Inner : Type*} (inner : Option Inner)
    (rest : Inner → Turn State Result) : Turn State Result :=
  match inner with
  | none => .stuck
  | some value => rest value

/-- A turn goes on with one property and exits with another. -/
def Turn.All {State Result : Type*} (holds : State → Prop) (asked : Result → Prop) :
    Turn State Result → Prop
  | .next after => holds after
  | .exit result => asked result
  | .stuck => True

/-- The loop ends with a result. -/
def Ends {State Result : Type*} (turn : State → Turn State Result) (state : State)
    (result : Result) : Prop :=
  ∃ turns, runFor turn turns state = some result

section Rules

variable {State Result : Type*} {turn : State → Turn State Result}
  {state after : State} {result : Result}

theorem runFor_next (goesOn : turn state = .next after) (turns : Nat) :
    runFor turn (turns + 1) state = runFor turn turns after := by
  rw [runFor, goesOn]

theorem runFor_exit (exits : turn state = .exit result) (turns : Nat) :
    runFor turn (turns + 1) state = some result := by
  rw [runFor, exits]

/-- More turns do not change a result. -/
theorem runFor_mono {turns more : Nat} (enough : turns ≤ more)
    (ends : runFor turn turns state = some result) :
    runFor turn more state = some result := by
  induction turns generalizing state more with
  | zero => exact nomatch ends
  | succ turns ih =>
      obtain ⟨more, rfl⟩ : ∃ rest, more = rest + 1 := ⟨more - 1, by omega⟩
      rw [runFor] at ends ⊢
      cases step : turn state with
      | next after =>
          rw [step] at ends
          exact ih (by omega) ends
      | exit value =>
          rw [step] at ends
          exact ends
      | stuck =>
          rw [step] at ends
          exact nomatch ends

/-- The rule for partial correctness. -/
theorem runFor_keeps {holds : State → Prop} {asked : Result → Prop}
    (turns_keep : ∀ state, holds state → (turn state).All holds asked)
    (start : holds state) {turns : Nat} (ends : runFor turn turns state = some result) :
    asked result := by
  induction turns generalizing state with
  | zero => cases ends
  | succ turns ih =>
      have kept := turns_keep state start
      rw [runFor] at ends
      cases step : turn state with
      | next after =>
          rw [step] at ends kept
          exact ih kept ends
      | exit value =>
          rw [step] at ends kept
          exact Option.some.inj ends ▸ kept
      | stuck =>
          rw [step] at ends
          cases ends

/-- The variant rule for total correctness: as long as every turn either exits as
asked for, or keeps the invariant and decreases the variant, the loop ends. -/
theorem runFor_of_variant (holds : State → Prop) (variant : State → Nat)
    (asked : Result → Prop)
    (turns_keep : ∀ state, holds state →
      (∃ result, turn state = .exit result ∧ asked result) ∨
      ∃ after, turn state = .next after ∧ holds after ∧ variant after < variant state)
    (start : holds state) {turns : Nat} (enough : variant state < turns) :
    ∃ result, runFor turn turns state = some result ∧ asked result := by
  induction turns generalizing state with
  | zero => exact absurd enough (Nat.not_lt_zero _)
  | succ turns ih =>
      rcases turns_keep state start with ⟨result, exits, isAsked⟩ |
        ⟨after, goesOn, stillHolds, decreases⟩
      · exact ⟨result, runFor_exit exits turns, isAsked⟩
      · rw [runFor_next goesOn]
        exact ih stillHolds (by omega)

/-- A loop all of whose turns go on has no result. -/
theorem runFor_of_goesOn (holds : State → Prop)
    (turns_go_on : ∀ state, holds state → ∃ after, turn state = .next after ∧ holds after)
    (start : holds state) (turns : Nat) : runFor turn turns state = none := by
  induction turns generalizing state with
  | zero => rfl
  | succ turns ih =>
      obtain ⟨after, goesOn, stillHolds⟩ := turns_go_on state start
      rw [runFor_next goesOn]
      exact ih stillHolds

/-- The rule for a `while` loop. -/
theorem while_of_variant {condition : State → Bool} {body : State → State}
    (holds : State → Prop) (variant : State → Nat)
    (body_keeps : ∀ state, holds state → condition state = true →
      holds (body state) ∧ variant (body state) < variant state)
    (start : holds state) {turns : Nat} (enough : variant state < turns) :
    ∃ last, runFor (whileTurn condition body) turns state = some last ∧
      holds last ∧ condition last = false := by
  apply runFor_of_variant holds variant
    (fun last => holds last ∧ condition last = false) _ start enough
  intro current currentHolds
  unfold whileTurn
  cases tested : condition current with
  | true =>
      obtain ⟨kept, decreases⟩ := body_keeps current currentHolds tested
      exact Or.inr ⟨body current, rfl, kept, decreases⟩
  | false => exact Or.inl ⟨current, rfl, currentHolds, tested⟩

/-- A number of turns leads from one state to another. -/
inductive Leads (turn : State → Turn State Result) : Nat → State → State → Prop where
  | refl (state : State) : Leads turn 0 state state
  | next {count : Nat} {state middle last : State} (goesOn : turn state = .next middle)
      (leads : Leads turn count middle last) : Leads turn (count + 1) state last

namespace Leads

variable {count : Nat}

theorem single (goesOn : turn state = .next after) : Leads turn 1 state after :=
  .next goesOn (.refl after)

/-- The turns of a run come off its number of turns. -/
theorem runFor_add (leads : Leads turn count state after) (turns : Nat) :
    runFor turn (count + turns) state = runFor turn turns after := by
  induction leads with
  | refl => rw [Nat.zero_add]
  | next goesOn _ ih => rw [Nat.add_right_comm, runFor_next goesOn, ih]

end Leads

namespace Ends

theorem exit (exits : turn state = .exit result) : Ends turn state result :=
  ⟨1, runFor_exit exits 0⟩

theorem next (goesOn : turn state = .next after) (ends : Ends turn after result) :
    Ends turn state result := by
  obtain ⟨turns, ended⟩ := ends
  exact ⟨turns + 1, (runFor_next goesOn turns).trans ended⟩

/-- A loop that ends has its result for every number of turns that is enough. -/
theorem exists_enough (ends : Ends turn state result) :
    ∃ enough, ∀ turns, enough ≤ turns → runFor turn turns state = some result := by
  obtain ⟨enough, ended⟩ := ends
  exact ⟨enough, fun turns isEnough => runFor_mono isEnough ended⟩

/-- A loop ends as it does after some of its turns. -/
theorem of_leads {count : Nat} (leads : Leads turn count state after)
    (ends : Ends turn after result) : Ends turn state result := by
  obtain ⟨turns, ended⟩ := ends
  exact ⟨count + turns, (leads.runFor_add turns).trans ended⟩

end Ends

end Rules

end WhileLoops
