import Mathlib.Data.List.Basic
import Mathlib.Logic.Function.Iterate

/-!
# Alternating lamps

Lamps in a picture, each of which shows one glyph for so many ticks and another one for
so many.  What a lamp shows depends only on the number of ticks since it was put up, and
its place in the picture shows it as long as no other lamp is there.
-/

namespace Lamps

structure Lamp (Place Glyph : Type*) where
  place : Place
  onGlyph : Glyph
  offGlyph : Glyph
  onTicks : Nat
  offTicks : Nat
  /-- Ticks until it is switched. -/
  left : Nat
  lit : Bool

variable {Place Glyph : Type*}

namespace Lamp

variable (lamp : Lamp Place Glyph)

def shown : Glyph :=
  if lamp.lit then lamp.onGlyph else lamp.offGlyph

def switched : Lamp Place Glyph :=
  { lamp with
    lit := !lamp.lit
    left := if lamp.lit then lamp.offTicks else lamp.onTicks }

def tick : Lamp Place Glyph :=
  if 1 < lamp.left then { lamp with left := lamp.left - 1 } else lamp.switched

/-- The lamp goes on like another one. -/
def retimed (source : Lamp Place Glyph) : Lamp Place Glyph :=
  { lamp with
    onTicks := source.onTicks
    offTicks := source.offTicks
    left := source.left
    lit := source.lit }

/-- The lamp has been lit, and a number of ticks have passed since then. -/
structure AtPhase (elapsed : Nat) : Prop where
  onPositive : 0 < lamp.onTicks
  offPositive : 0 < lamp.offTicks
  lit : lamp.lit = decide (elapsed % (lamp.onTicks + lamp.offTicks) < lamp.onTicks)
  left : lamp.left + elapsed % (lamp.onTicks + lamp.offTicks) =
    if lamp.lit then lamp.onTicks else lamp.onTicks + lamp.offTicks

/-- The lamp will be switched within one of its times. -/
structure Counts : Prop where
  onPositive : 0 < lamp.onTicks
  offPositive : 0 < lamp.offTicks
  positive : 0 < lamp.left
  within : lamp.left ≤ max lamp.onTicks lamp.offTicks

variable {lamp} {elapsed : Nat}

@[simp]
theorem tick_place : lamp.tick.place = lamp.place := by
  unfold tick switched
  split <;> rfl

@[simp]
theorem tick_glyphs :
    lamp.tick.onGlyph = lamp.onGlyph ∧ lamp.tick.offGlyph = lamp.offGlyph := by
  unfold tick switched
  split <;> exact ⟨rfl, rfl⟩

@[simp]
theorem tick_ticks :
    lamp.tick.onTicks = lamp.onTicks ∧ lamp.tick.offTicks = lamp.offTicks := by
  unfold tick switched
  split <;> exact ⟨rfl, rfl⟩

/-- Between two switches nothing else is shown. -/
theorem tick_shown (stays : 1 < lamp.left) : lamp.tick.shown = lamp.shown := by
  rw [tick, if_pos stays]
  rfl

theorem Counts.tick (counts : lamp.Counts) : lamp.tick.Counts := by
  obtain ⟨onPositive, offPositive, positive, within⟩ := counts
  by_cases stays : 1 < lamp.left
  · rw [Lamp.tick, if_pos stays]
    exact ⟨onPositive, offPositive, Nat.sub_pos_of_lt stays, Nat.le_trans (Nat.sub_le _ _) within⟩
  · rw [Lamp.tick, if_neg stays, switched]
    cases lamp.lit with
    | true => exact ⟨onPositive, offPositive, offPositive, Nat.le_max_right _ _⟩
    | false => exact ⟨onPositive, offPositive, onPositive, Nat.le_max_left _ _⟩

theorem Counts.retimed {source : Lamp Place Glyph} (counts : source.Counts) :
    (lamp.retimed source).Counts :=
  ⟨counts.onPositive, counts.offPositive, counts.positive, counts.within⟩

theorem AtPhase.of_lit (onPositive : 0 < lamp.onTicks) (offPositive : 0 < lamp.offTicks)
    (lit : lamp.lit = true) (left : lamp.left = lamp.onTicks) : lamp.AtPhase 0 where
  onPositive := onPositive
  offPositive := offPositive
  lit := by rw [lit, Nat.zero_mod, decide_eq_true onPositive]
  left := by rw [lit, Nat.zero_mod, Nat.add_zero, left, if_pos rfl]

theorem succ_mod_of_lt {period : Nat} (inside : elapsed % period + 1 < period) :
    (elapsed + 1) % period = elapsed % period + 1 := by
  rw [Nat.add_mod, Nat.mod_eq_of_lt (show 1 < period by omega), Nat.mod_eq_of_lt inside]

theorem succ_mod_of_eq {period : Nat} (last : elapsed % period + 1 = period) :
    (elapsed + 1) % period = 0 := by
  obtain ⟨quotient, split⟩ : ∃ quotient, elapsed + 1 = period * quotient := by
    refine ⟨elapsed / period + 1, ?_⟩
    rw [Nat.mul_add, Nat.mul_one]
    have := Nat.div_add_mod elapsed period
    omega
  rw [split, Nat.mul_mod_right]

theorem AtPhase.tick (atPhase : lamp.AtPhase elapsed) : lamp.tick.AtPhase (elapsed + 1) := by
  obtain ⟨onPositive, offPositive, lit, left⟩ := atPhase
  have within : elapsed % (lamp.onTicks + lamp.offTicks) < lamp.onTicks + lamp.offTicks :=
    Nat.mod_lt elapsed (by omega)
  have inPeriod := @succ_mod_of_lt elapsed (lamp.onTicks + lamp.offTicks)
  have atEnd := @succ_mod_of_eq elapsed (lamp.onTicks + lamp.offTicks)
  generalize elapsed % (lamp.onTicks + lamp.offTicks) = phase at *
  constructor
  · rwa [tick_ticks.1]
  · rwa [tick_ticks.2]
  · rw [tick_ticks.1, tick_ticks.2]
    by_cases stays : 1 < lamp.left
    · rw [Lamp.tick, if_pos stays]
      dsimp only
      cases isLit : lamp.lit with
      | true =>
          rw [isLit, if_pos rfl] at left
          rw [inPeriod (by omega)]
          exact (decide_eq_true (by omega)).symm
      | false =>
          rw [isLit, if_neg Bool.false_ne_true] at left
          have isOff := of_decide_eq_false (isLit ▸ lit).symm
          rw [inPeriod (by omega)]
          exact (decide_eq_false (by omega)).symm
    · rw [Lamp.tick, if_neg stays, switched]
      dsimp only
      cases isLit : lamp.lit with
      | true =>
          rw [isLit, if_pos rfl] at left
          have isOn := of_decide_eq_true (isLit ▸ lit).symm
          rw [inPeriod (by omega)]
          exact (decide_eq_false (by omega)).symm
      | false =>
          rw [isLit, if_neg Bool.false_ne_true] at left
          rw [atEnd (by omega)]
          exact (decide_eq_true onPositive).symm
  · rw [tick_ticks.1, tick_ticks.2]
    by_cases stays : 1 < lamp.left
    · rw [Lamp.tick, if_pos stays]
      dsimp only
      have notLast : phase + 1 < lamp.onTicks + lamp.offTicks := by
        split at left <;> omega
      rw [inPeriod notLast, ← left]
      omega
    · rw [Lamp.tick, if_neg stays, switched]
      dsimp only
      cases isLit : lamp.lit with
      | true =>
          rw [isLit, if_pos rfl] at left
          have isOn := of_decide_eq_true (isLit ▸ lit).symm
          rw [inPeriod (by omega), if_pos rfl, Bool.not_true, if_neg Bool.false_ne_true]
          omega
      | false =>
          rw [isLit, if_neg Bool.false_ne_true] at left
          rw [atEnd (by omega), if_neg Bool.false_ne_true, Bool.not_false, if_pos rfl,
            Nat.add_zero]

/-- Ticks change neither what a lamp is nor how long its times are. -/
theorem iterate_tick (lamp : Lamp Place Glyph) (ticks : Nat) :
    (Lamp.tick^[ticks] lamp).place = lamp.place ∧
      (Lamp.tick^[ticks] lamp).onGlyph = lamp.onGlyph ∧
      (Lamp.tick^[ticks] lamp).offGlyph = lamp.offGlyph ∧
      (Lamp.tick^[ticks] lamp).onTicks = lamp.onTicks ∧
      (Lamp.tick^[ticks] lamp).offTicks = lamp.offTicks := by
  induction ticks with
  | zero => exact ⟨rfl, rfl, rfl, rfl, rfl⟩
  | succ ticks ih =>
      rw [Function.iterate_succ_apply', tick_place, tick_glyphs.1, tick_glyphs.2, tick_ticks.1,
        tick_ticks.2]
      exact ih

theorem AtPhase.iterate (atPhase : lamp.AtPhase elapsed) (ticks : Nat) :
    (Lamp.tick^[ticks] lamp).AtPhase (elapsed + ticks) := by
  induction ticks with
  | zero => exact atPhase
  | succ ticks ih =>
      rw [Function.iterate_succ_apply', ← Nat.add_assoc]
      exact ih.tick

/-- What a lamp shows so many ticks after it has been lit. -/
theorem AtPhase.shown_iterate (atPhase : lamp.AtPhase 0) (ticks : Nat) :
    (Lamp.tick^[ticks] lamp).shown =
      if ticks % (lamp.onTicks + lamp.offTicks) < lamp.onTicks then lamp.onGlyph
      else lamp.offGlyph := by
  have lit := (atPhase.iterate ticks).lit
  obtain ⟨-, onGlyph, offGlyph, onTicks, offTicks⟩ := iterate_tick lamp ticks
  rw [Nat.zero_add, onTicks, offTicks] at lit
  rw [shown, lit, onGlyph, offGlyph]
  simp

end Lamp

/-- The lamps, the latest first, and what every place of the picture shows. -/
structure Show (Place Glyph : Type*) where
  lamps : List (Lamp Place Glyph)
  picture : Place → Glyph

namespace Show

variable [DecidableEq Place]

/-- A lamp that is switched by a tick draws what it then shows. -/
def redraw (picture : Place → Glyph) (lamp : Lamp Place Glyph) : Place → Glyph :=
  if 1 < lamp.left then picture else Function.update picture lamp.place lamp.tick.shown

variable (current : Show Place Glyph)

def lampsAt (place : Place) : List (Lamp Place Glyph) :=
  current.lamps.filter fun lamp => lamp.place = place

def tick : Show Place Glyph where
  lamps := current.lamps.map Lamp.tick
  picture := current.lamps.foldl redraw current.picture

/-- Put up a lamp. -/
def add (lamp : Lamp Place Glyph) : Show Place Glyph where
  lamps := lamp :: current.lamps
  picture := Function.update current.picture lamp.place lamp.shown

/-- Take down the latest lamp at a place. -/
def remove (place : Place) : Show Place Glyph :=
  { current with lamps := current.lamps.eraseP fun lamp => lamp.place = place }

/-- A lamp at a place goes on like another one. -/
def retimedAt (source : Lamp Place Glyph) (place : Place) (lamp : Lamp Place Glyph) :
    Option (Lamp Place Glyph) :=
  if lamp.place = place then some (lamp.retimed source) else none

/-- Let the latest lamp at a place go on like another one, and draw a glyph there. -/
def retime (source : Lamp Place Glyph) (place : Place) (glyph : Glyph) : Show Place Glyph where
  lamps := current.lamps.replaceF (retimedAt source place)
  picture := Function.update current.picture place glyph

/-- The lamp is the only one at its place. -/
def Alone (lamp : Lamp Place Glyph) : Prop :=
  current.lampsAt lamp.place = [lamp]

/-- The lamp is the only one at its place, and shown there. -/
structure Displays (lamp : Lamp Place Glyph) : Prop where
  alone : current.Alone lamp
  drawn : current.picture lamp.place = lamp.shown

variable {current} {lamp other : Lamp Place Glyph} {place : Place}

theorem redraw_congr {picture before : Place → Glyph} (same : picture place = before place) :
    redraw picture other place = redraw before other place := by
  unfold redraw
  split
  · exact same
  · by_cases here : place = other.place
    · rw [here, Function.update_self, Function.update_self]
    · rw [Function.update_of_ne here, Function.update_of_ne here, same]

/-- A place is only drawn by the lamps that are there. -/
theorem foldl_redraw_at (lamps : List (Lamp Place Glyph)) {picture before : Place → Glyph}
    (same : picture place = before place) :
    lamps.foldl redraw picture place =
      (lamps.filter fun lamp => lamp.place = place).foldl redraw before place := by
  induction lamps generalizing picture before with
  | nil => exact same
  | cons first lamps ih =>
      rw [List.foldl_cons]
      by_cases here : first.place = place
      · rw [List.filter_cons_of_pos (by simpa using here), List.foldl_cons]
        exact ih (redraw_congr same)
      · rw [List.filter_cons_of_neg (by simpa using here)]
        apply ih
        unfold redraw
        split
        · exact same
        · rw [Function.update_of_ne (Ne.symm here), same]

/-- At a place the lamps and the picture are the same. -/
structure SameAt (place : Place) (current next : Show Place Glyph) : Prop where
  lampsAt : next.lampsAt place = current.lampsAt place
  picture : next.picture place = current.picture place

namespace SameAt

theorem add (elsewhere : other.place ≠ place) : SameAt place current (current.add other) where
  lampsAt := by
    unfold Show.lampsAt Show.add
    rw [List.filter_cons_of_neg (by simpa using elsewhere)]
  picture := Function.update_of_ne (Ne.symm elsewhere) _ _

theorem remove {removed : Place} (elsewhere : removed ≠ place) :
    SameAt place current (current.remove removed) where
  lampsAt := by
    unfold Show.lampsAt Show.remove
    dsimp only
    induction current.lamps with
    | nil => rfl
    | cons first lamps ih =>
        by_cases here : first.place = removed
        · rw [List.eraseP_cons_of_pos (by simpa using here), List.filter_cons_of_neg]
          rw [here]
          simpa using elsewhere
        · rw [List.eraseP_cons_of_neg (by simpa using here), List.filter_cons, ih,
            List.filter_cons]
  picture := rfl

theorem retime {retimed : Place} (elsewhere : retimed ≠ place) (source : Lamp Place Glyph)
    (glyph : Glyph) : SameAt place current (current.retime source retimed glyph) where
  lampsAt := by
    unfold Show.lampsAt Show.retime
    dsimp only
    induction current.lamps with
    | nil => rfl
    | cons first lamps ih =>
        by_cases here : first.place = retimed
        · have isRetimed : retimedAt source retimed first = some (first.retimed source) :=
            if_pos here
          rw [List.replaceF_cons_of_some _ isRetimed, List.filter_cons_of_neg,
            List.filter_cons_of_neg]
          · rw [here]
            simpa using elsewhere
          · rw [show (first.retimed source).place = retimed from here]
            simpa using elsewhere
        · have kept : retimedAt source retimed first = none := if_neg here
          rw [List.replaceF_cons_of_none _ kept, List.filter_cons, ih, List.filter_cons]
  picture := Function.update_of_ne (Ne.symm elsewhere) _ _

end SameAt

/-- Only the first lamp at the place is retimed. -/
theorem replaceF_append {source : Lamp Place Glyph} {before : List (Lamp Place Glyph)}
    (notBefore : ∀ earlier ∈ before, earlier.place ≠ place) (here : lamp.place = place)
    (after : List (Lamp Place Glyph)) :
    (before ++ lamp :: after).replaceF (retimedAt source place) =
      before ++ lamp.retimed source :: after := by
  induction before with
  | nil => exact List.replaceF_cons_of_some _ (if_pos here)
  | cons first before ih =>
      have kept : retimedAt source place first = none :=
        if_neg (notBefore first List.mem_cons_self)
      rw [List.cons_append, List.replaceF_cons_of_none _ kept, ih fun earlier mem =>
        notBefore earlier (List.mem_cons_of_mem first mem), List.cons_append]

namespace Alone

theorem congr (alone : current.Alone lamp) {next : Show Place Glyph}
    (same : SameAt lamp.place current next) : next.Alone lamp :=
  same.lampsAt.trans alone

theorem of_add (free : current.lampsAt lamp.place = []) : (current.add lamp).Alone lamp := by
  unfold Alone lampsAt add
  rw [List.filter_cons_of_pos (by simp)]
  exact congrArg (List.cons lamp) free

theorem mem (alone : current.Alone lamp) : lamp ∈ current.lamps := by
  have inFilter : lamp ∈ current.lampsAt lamp.place := by
    rw [alone]
    exact List.mem_singleton_self lamp
  exact List.mem_of_mem_filter inFilter

theorem retime (alone : current.Alone lamp) (source : Lamp Place Glyph) (glyph : Glyph) :
    (current.retime source lamp.place glyph).Alone (lamp.retimed source) := by
  obtain ⟨before, after, split⟩ := List.append_of_mem alone.mem
  have filtered := alone
  unfold Alone lampsAt at filtered
  rw [split, List.filter_append, List.filter_cons_of_pos (by simp)] at filtered
  obtain ⟨noneBefore, noneAfter⟩ : (before.filter fun other => other.place = lamp.place) = [] ∧
      (after.filter fun other => other.place = lamp.place) = [] := by
    have lengths := congrArg List.length filtered
    rw [List.length_append, List.length_cons, List.length_singleton] at lengths
    constructor
    · exact List.length_eq_zero_iff.mp (by omega)
    · exact List.length_eq_zero_iff.mp (by omega)
  have notBefore : ∀ earlier ∈ before, earlier.place ≠ lamp.place := by
    intro earlier mem
    simpa using List.filter_eq_nil_iff.mp noneBefore earlier mem
  unfold Alone lampsAt Show.retime
  dsimp only
  rw [split, replaceF_append notBefore rfl]
  have same : (lamp.retimed source).place = lamp.place := rfl
  rw [same, List.filter_append, noneBefore, List.nil_append,
    List.filter_cons_of_pos (by simpa using same), noneAfter]

theorem tick (alone : current.Alone lamp) : current.tick.Alone lamp.tick := by
  unfold Alone lampsAt Show.tick
  rw [Lamp.tick_place, List.filter_map]
  have samePlace : ((fun other : Lamp Place Glyph => decide (other.place = lamp.place)) ∘
      Lamp.tick) = fun other => decide (other.place = lamp.place) := by
    ext other
    simp
  rw [samePlace]
  exact congrArg (List.map Lamp.tick) alone

theorem tick_picture (alone : current.Alone lamp) :
    current.tick.picture lamp.place = redraw current.picture lamp lamp.place := by
  have only : current.lamps.filter (fun other => other.place = lamp.place) = [lamp] := alone
  have drawn := @foldl_redraw_at Place Glyph _ lamp.place current.lamps current.picture
    current.picture rfl
  rw [only] at drawn
  exact drawn

/-- Nothing is drawn between two switches. -/
theorem tick_stays (alone : current.Alone lamp) (stays : 1 < lamp.left) :
    current.tick.picture lamp.place = current.picture lamp.place := by
  rw [alone.tick_picture, redraw, if_pos stays]

/-- A switch draws the lamp. -/
theorem tick_switches (alone : current.Alone lamp) (last : ¬1 < lamp.left) :
    current.tick.Displays lamp.tick where
  alone := alone.tick
  drawn := by
    rw [Lamp.tick_place, alone.tick_picture, redraw, if_neg last, Function.update_self]

end Alone

namespace Displays

theorem congr (displays : current.Displays lamp) {next : Show Place Glyph}
    (same : SameAt lamp.place current next) : next.Displays lamp where
  alone := displays.alone.congr same
  drawn := same.picture.trans displays.drawn

theorem of_add (free : current.lampsAt lamp.place = []) :
    (current.add lamp).Displays lamp where
  alone := .of_add free
  drawn := Function.update_self _ _ _

theorem tick (displays : current.Displays lamp) : current.tick.Displays lamp.tick := by
  by_cases stays : 1 < lamp.left
  · refine ⟨displays.alone.tick, ?_⟩
    rw [Lamp.tick_place, displays.alone.tick_stays stays, displays.drawn,
      Lamp.tick_shown stays]
  · exact displays.alone.tick_switches stays

end Displays

end Show

end Lamps
