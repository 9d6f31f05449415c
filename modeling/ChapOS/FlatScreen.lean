import Mathlib.Logic.Function.Basic
import Mathlib.Data.List.Basic

/-!
# Typed text on a scrolling screen

In row-major order a character display is one row of cells.  Writing its last cell
scrolls it by one row; erasing blanks the cell before the cursor and steps back.  A
text that is typed and edited at its end stays readable from the cell it starts in.
-/

/-- The cells of a display in row-major order, and the one the cursor is on. -/
structure FlatScreen (Symbol : Type*) where
  cells : Nat → Symbol
  cursor : Nat

namespace FlatScreen

variable {Symbol : Type*}

/-- Write a symbol on a screen of `size` cells, with rows of `width`. -/
def put (width size : Nat) (blank : Symbol) (screen : FlatScreen Symbol)
    (symbol : Symbol) : FlatScreen Symbol :=
  let written := Function.update screen.cells screen.cursor symbol
  if screen.cursor + 1 < size then ⟨written, screen.cursor + 1⟩
  else
    ⟨fun cell => if cell + width < size then written (cell + width) else blank,
      screen.cursor + 1 - width⟩

/-- Step back over the symbol before the cursor, which stays. -/
def stepBack (screen : FlatScreen Symbol) : FlatScreen Symbol :=
  ⟨screen.cells, screen.cursor - 1⟩

/-- Erase the symbol before the cursor. -/
def erase (blank : Symbol) (screen : FlatScreen Symbol) : FlatScreen Symbol :=
  ⟨Function.update screen.cells (screen.cursor - 1) blank, screen.cursor - 1⟩

/-- Two screens look alike. -/
structure Alike (size : Nat) (first second : FlatScreen Symbol) : Prop where
  cells : ∀ cell < size, second.cells cell = first.cells cell
  cursor : second.cursor = first.cursor

theorem Alike.symm {size : Nat} {first second : FlatScreen Symbol}
    (alike : first.Alike size second) : second.Alike size first :=
  ⟨fun cell inside => (alike.cells cell inside).symm, alike.cursor.symm⟩

/-- The text is readable from the cell `start` on, the cells after it are blank, and the
cursor is behind it. -/
structure Echoes (size : Nat) (blank : Symbol) (start : Nat) (text : List Symbol)
    (screen : FlatScreen Symbol) : Prop where
  fits : start + text.length < size
  readable : ∀ i (inText : i < text.length), screen.cells (start + i) = text[i]
  blankAfter : ∀ cell, start + text.length ≤ cell → cell < size →
    screen.cells cell = blank
  cursor : screen.cursor = start + text.length

namespace Echoes

variable {width size start : Nat} {blank : Symbol} {text : List Symbol}
  {screen other : FlatScreen Symbol}

theorem of_alike (echoes : screen.Echoes size blank start text)
    (alike : screen.Alike size other) : other.Echoes size blank start text := by
  have fits := echoes.fits
  constructor
  · exact fits
  · intro i inText
    rw [alike.cells _ (by omega)]
    exact echoes.readable i inText
  · intro cell after inside
    rw [alike.cells cell inside]
    exact echoes.blankAfter cell after inside
  · rw [alike.cursor]
    exact echoes.cursor

/-- Writing the cell of the cursor reads as the text with the symbol behind it. -/
theorem written (echoes : screen.Echoes size blank start text) (symbol : Symbol)
    {i : Nat} (inText : i < (text ++ [symbol]).length) :
    Function.update screen.cells screen.cursor symbol (start + i) =
      (text ++ [symbol])[i] := by
  rw [echoes.cursor]
  simp only [List.length_append, List.length_singleton] at inText
  by_cases last : i = text.length
  · subst last
    rw [Function.update_self]
    simp
  · rw [Function.update_of_ne (by omega), List.getElem_append_left (by omega)]
    exact echoes.readable i (by omega)

theorem written_blank (echoes : screen.Echoes size blank start text) (symbol : Symbol)
    {cell : Nat} (after : start + text.length < cell) (inside : cell < size) :
    Function.update screen.cells screen.cursor symbol cell = blank := by
  rw [echoes.cursor, Function.update_of_ne (by omega)]
  exact echoes.blankAfter cell (by omega) inside

/-- A symbol that leaves room is appended. -/
theorem put_of_room (echoes : screen.Echoes size blank start text) (width : Nat)
    (symbol : Symbol) (room : start + text.length + 1 < size) :
    (screen.put width size blank symbol).Echoes size blank start (text ++ [symbol]) := by
  rw [put, if_pos (by rw [echoes.cursor]; exact room)]
  constructor
  · simp only [List.length_append, List.length_singleton]
    omega
  · intro i inText
    exact echoes.written symbol inText
  · intro cell after inside
    simp only [List.length_append, List.length_singleton] at after
    exact echoes.written_blank symbol (by omega) inside
  · simp only [List.length_append, List.length_singleton, echoes.cursor]
    omega

/-- A symbol in the last cell is appended, and the text moves up by one row. -/
theorem put_of_last (echoes : screen.Echoes size blank start text) (symbol : Symbol)
    (last : start + text.length + 1 = size) (positive : 0 < width)
    (below : width ≤ start) :
    (screen.put width size blank symbol).Echoes size blank (start - width)
      (text ++ [symbol]) := by
  rw [put, if_neg (by rw [echoes.cursor]; omega)]
  constructor
  · simp only [List.length_append, List.length_singleton]
    omega
  · intro i inText
    have read := echoes.written symbol inText
    simp only [List.length_append, List.length_singleton] at inText
    have moved : start - width + i + width = start + i := by omega
    dsimp only
    rw [moved, if_pos (by omega)]
    exact read
  · intro cell after inside
    simp only [List.length_append, List.length_singleton] at after
    exact if_neg (by omega)
  · simp only [List.length_append, List.length_singleton, echoes.cursor]
    omega

/-- One step back the text is read but for its last symbol, once that is blank. -/
theorem drops_iff (echoes : screen.Echoes size blank start text) (nonempty : text ≠ [])
    (kept : ∀ cell, cell < start + (text.length - 1) →
      other.cells cell = screen.cells cell)
    (cursor : other.cursor = screen.cursor - 1) :
    other.Echoes size blank start text.dropLast ↔
      ∀ cell, start + (text.length - 1) ≤ cell → cell < size →
        other.cells cell = blank := by
  have fits := echoes.fits
  have positive := List.length_pos_of_ne_nil nonempty
  constructor
  · intro shown cell after inside
    exact shown.blankAfter cell (by rw [List.length_dropLast]; exact after) inside
  · intro blankAfter
    constructor
    · rw [List.length_dropLast]
      omega
    · intro i inText
      rw [List.length_dropLast] at inText
      rw [List.getElem_dropLast, kept _ (by omega)]
      exact echoes.readable i (by omega)
    · intro cell after inside
      rw [List.length_dropLast] at after
      exact blankAfter cell after inside
    · rw [List.length_dropLast, cursor, echoes.cursor]
      omega

/-- Erasing drops the last symbol. -/
theorem erase (echoes : screen.Echoes size blank start text) (nonempty : text ≠ []) :
    (screen.erase blank).Echoes size blank start text.dropLast := by
  have positive := List.length_pos_of_ne_nil nonempty
  have cursor := echoes.cursor
  rw [echoes.drops_iff nonempty _ rfl]
  · intro cell after inside
    by_cases here : cell = screen.cursor - 1
    · rw [here]
      exact Function.update_self _ _ _
    · refine (Function.update_of_ne here _ _).trans ?_
      exact echoes.blankAfter cell (by omega) inside
  · intro cell before
    exact Function.update_of_ne (by omega) _ _

/-- Stepping back drops the last symbol only if it was blank. -/
theorem stepBack_iff (echoes : screen.Echoes size blank start text)
    (nonempty : text ≠ []) :
    screen.stepBack.Echoes size blank start text.dropLast ↔
      text.getLast nonempty = blank := by
  have positive := List.length_pos_of_ne_nil nonempty
  have fits := echoes.fits
  have lastCell : screen.cells (start + (text.length - 1)) = text.getLast nonempty := by
    rw [echoes.readable _ (by omega), List.getLast_eq_getElem]
  have kept : ∀ cell, cell < start + (text.length - 1) →
      screen.stepBack.cells cell = screen.cells cell := fun _ _ => rfl
  rw [echoes.drops_iff nonempty kept rfl]
  constructor
  · intro blankAfter
    rw [← lastCell]
    exact blankAfter (start + (text.length - 1)) (Nat.le_refl _) (by omega)
  · intro isBlank cell after inside
    by_cases last : cell = start + (text.length - 1)
    · rw [last]
      exact lastCell.trans isBlank
    · exact echoes.blankAfter cell (by omega) inside

end Echoes

end FlatScreen
