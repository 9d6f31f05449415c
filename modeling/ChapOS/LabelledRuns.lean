import Mathlib.Logic.Relation

/-!
# Runs of labelled transition systems

A run performs a list of labelled steps.  The rules here carry an invariant
or a simulation from single steps to runs of any length, and a depth over runs
whose opening and closing labels match.
-/

/-- `Run step first labels last`: the labels lead from `first` to `last`. -/
inductive Run {State Label : Type*} (step : State → Label → State → Prop) :
    State → List Label → State → Prop
  | nil (state : State) : Run step state [] state
  | cons {first middle last : State} {label : Label} {labels : List Label} :
      step first label middle → Run step middle labels last →
        Run step first (label :: labels) last

namespace Run

variable {State Label : Type*} {step : State → Label → State → Prop}

theorem append {first middle last : State} {before after : List Label}
    (firstRun : Run step first before middle)
    (lastRun : Run step middle after last) :
    Run step first (before ++ after) last := by
  induction firstRun with
  | nil state => exact lastRun
  | cons edge _ ih => exact Run.cons edge (ih lastRun)

/-- The invariant rule: what every step preserves, every run preserves. -/
theorem invariant (holds : State → Prop)
    (preserves : ∀ state label next,
      holds state → step state label next → holds next)
    {first last : State} {labels : List Label}
    (run : Run step first labels last) (start : holds first) : holds last := by
  induction run with
  | nil state => exact start
  | cons edge _ ih => exact ih (preserves _ _ _ start edge)

/-- A run stays a run when each of its steps is a step of another system. -/
theorem mono {other : State → Label → State → Prop}
    (included : ∀ state label next,
      step state label next → other state label next)
    {first last : State} {labels : List Label}
    (run : Run step first labels last) : Run other first labels last := by
  induction run with
  | nil state => exact Run.nil state
  | cons edge _ ih => exact Run.cons (included _ _ _ edge) ih

/-- A run of two lists of labels passes through a state between them. -/
theorem split {first last : State} {before after : List Label}
    (run : Run step first (before ++ after) last) :
    ∃ middle, Run step first before middle ∧ Run step middle after last := by
  induction before generalizing first with
  | nil => exact ⟨first, Run.nil first, run⟩
  | cons label labels ih =>
      cases run with
      | cons edge rest =>
          obtain ⟨middle, firstRun, lastRun⟩ := ih rest
          exact ⟨middle, Run.cons edge firstRun, lastRun⟩

end Run

/-- Every opening label has its closing label. -/
inductive WellNested {Label : Type*} (opens closes : Label → Prop) : List Label → Prop
  | nil : WellNested opens closes []
  | plain {label : Label} {rest : List Label} (notOpen : ¬opens label)
      (notClose : ¬closes label) (nested : WellNested opens closes rest) :
      WellNested opens closes (label :: rest)
  | nested {label closing : Label} {inner rest : List Label} (opened : opens label)
      (innerNested : WellNested opens closes inner) (closed : closes closing)
      (restNested : WellNested opens closes rest) :
      WellNested opens closes (label :: (inner ++ closing :: rest))

/-- The depth rule: a well-nested run ends at the depth it started from, when
opening labels lead one level up, closing labels one level down, and all others
stay on their level.  The steps need to do so above a base level only. -/
theorem WellNested.depth {State Label : Type*} {step : State → Label → State → Prop}
    {opens closes : Label → Prop} (atDepth : State → Nat → Prop) (base : Nat)
    (plain : ∀ state label next depth, base ≤ depth → ¬opens label → ¬closes label →
      atDepth state depth → step state label next → atDepth next depth)
    (opened : ∀ state label next depth, base ≤ depth → opens label →
      atDepth state depth → step state label next → atDepth next (depth + 1))
    (closed : ∀ state label next depth, base ≤ depth → closes label →
      atDepth state (depth + 1) → step state label next → atDepth next depth)
    {labels : List Label} (nested : WellNested opens closes labels)
    {first last : State} {depth : Nat} (above : base ≤ depth)
    (run : Run step first labels last) (start : atDepth first depth) :
    atDepth last depth := by
  induction nested generalizing first last depth with
  | nil =>
      cases run
      exact start
  | plain notOpen notClose _ ih =>
      cases run with
      | cons edge rest =>
          exact ih above rest (plain _ _ _ _ above notOpen notClose start edge)
  | nested isOpen _ isClose _ innerIh restIh =>
      cases run with
      | cons edge rest =>
          obtain ⟨middle, innerRun, lastRun⟩ := rest.split
          have inside := opened _ _ _ _ above isOpen start edge
          have innerEnd := innerIh (by omega) innerRun inside
          cases lastRun with
          | cons closingEdge restRun =>
              exact restIh above restRun
                (closed _ _ _ _ above isClose innerEnd closingEdge)
