import Mathlib.Logic.Function.Basic
import Mathlib.Order.Lattice
import Mathlib.Order.Nat

/-!
# An endless sheet of rows

The reference for a scrolling character display.  Symbols are laid out on
unboundedly many rows of a fixed width: a breaking symbol starts a new row,
any other symbol fills the current cell and wraps to the next row after the
last column.  A display of some height shows the rows that end at the current
one, or the first rows while the current one is among them.
-/

/-- The cells laid out so far and the cell the next symbol goes to. -/
structure EndlessSheet (Symbol : Type*) where
  cells : Nat → Nat → Symbol
  row : Nat
  column : Nat

namespace EndlessSheet

variable {Symbol : Type*} (width height : Nat)
  (breaks : Symbol → Prop) [DecidablePred breaks]

/-- Write one symbol. -/
def write (sheet : EndlessSheet Symbol) (symbol : Symbol) :
    EndlessSheet Symbol :=
  if breaks symbol then
    { sheet with row := sheet.row + 1, column := 0 }
  else
    let cells := Function.update sheet.cells sheet.row
      (Function.update (sheet.cells sheet.row) sheet.column symbol)
    if sheet.column + 1 < width then
      { sheet with cells := cells, column := sheet.column + 1 }
    else
      { cells := cells, row := sheet.row + 1, column := 0 }

/-- Write symbols one after the other. -/
def writeAll (sheet : EndlessSheet Symbol) (symbols : List Symbol) :
    EndlessSheet Symbol :=
  symbols.foldl (write width breaks) sheet

/-- The cells that writing the symbols fills. -/
def Fills (sheet : EndlessSheet Symbol) :
    List Symbol → Nat → Nat → Prop
  | [], _, _ => False
  | symbol :: symbols, row, column =>
      (¬ breaks symbol ∧ row = sheet.row ∧ column = sheet.column) ∨
        Fills (sheet.write width breaks symbol) symbols row column

/-- The first row shown by a display of the given height. -/
def windowTop (sheet : EndlessSheet Symbol) : Nat :=
  max (height - 1) sheet.row - (height - 1)

/-- The symbol shown at a row and column of the display. -/
def window (sheet : EndlessSheet Symbol) (row column : Nat) : Symbol :=
  sheet.cells (sheet.windowTop height + row) column

/-- No row below the display has been written. -/
def BlankBelow (blank : Symbol) (sheet : EndlessSheet Symbol) : Prop :=
  ∀ row column, height ≤ row → sheet.row < row →
    sheet.cells row column = blank

variable {height breaks}

theorem write_of_breaks {width : Nat} (sheet : EndlessSheet Symbol) {symbol : Symbol}
    (isBreak : breaks symbol) :
    sheet.write width breaks symbol =
      { sheet with row := sheet.row + 1, column := 0 } := by
  simp [write, isBreak]

theorem write_cells (width : Nat) (sheet : EndlessSheet Symbol) {symbol : Symbol}
    (noBreak : ¬ breaks symbol) (row column : Nat) :
    (sheet.write width breaks symbol).cells row column =
      if row = sheet.row ∧ column = sheet.column then symbol
      else sheet.cells row column := by
  have cellsEq : (sheet.write width breaks symbol).cells =
      Function.update sheet.cells sheet.row
        (Function.update (sheet.cells sheet.row) sheet.column symbol) := by
    unfold write
    rw [if_neg noBreak]
    split <;> rfl
  rw [cellsEq]
  by_cases sameRow : row = sheet.row
  · subst row
    simp [Function.update_apply]
  · simp [sameRow]

theorem write_row_of_lt {width : Nat} (sheet : EndlessSheet Symbol) {symbol : Symbol}
    (noBreak : ¬ breaks symbol) (inside : sheet.column + 1 < width) :
    (sheet.write width breaks symbol).row = sheet.row ∧
      (sheet.write width breaks symbol).column = sheet.column + 1 := by
  simp [write, noBreak, inside]

theorem write_row_of_wrap {width : Nat} (sheet : EndlessSheet Symbol) {symbol : Symbol}
    (noBreak : ¬ breaks symbol) (atEnd : ¬ sheet.column + 1 < width) :
    (sheet.write width breaks symbol).row = sheet.row + 1 ∧
      (sheet.write width breaks symbol).column = 0 := by
  simp [write, noBreak, atEnd]

theorem write_row_le (width : Nat) (breaks : Symbol → Prop) [DecidablePred breaks]
    (sheet : EndlessSheet Symbol) (symbol : Symbol) :
    sheet.row ≤ (sheet.write width breaks symbol).row := by
  unfold write
  split
  · simp
  · dsimp only
    split <;> simp

theorem windowTop_mono {first second : EndlessSheet Symbol}
    (rows : first.row ≤ second.row) :
    first.windowTop height ≤ second.windowTop height := by
  unfold windowTop
  omega

/-- Writing never moves the display upwards. -/
theorem windowTop_le_writeAll (width : Nat) (sheet : EndlessSheet Symbol)
    (symbols : List Symbol) :
    sheet.windowTop height ≤
      (sheet.writeAll width breaks symbols).windowTop height := by
  induction symbols generalizing sheet with
  | nil => exact Nat.le_refl _
  | cons symbol symbols ih =>
      exact (windowTop_mono (write_row_le width breaks sheet symbol)).trans
        (ih (sheet.write width breaks symbol))

/-- Rows below the display stay blank. -/
theorem BlankBelow.write {width : Nat} {blank : Symbol} {sheet : EndlessSheet Symbol}
    (blankBelow : BlankBelow height blank sheet) (symbol : Symbol) :
    BlankBelow height blank (sheet.write width breaks symbol) := by
  intro row column belowHeight belowRow
  have rows := write_row_le width breaks sheet symbol
  have belowBefore : sheet.row < row := by omega
  by_cases isBreak : breaks symbol
  · rw [write_of_breaks sheet isBreak]
    exact blankBelow row column belowHeight belowBefore
  · rw [write_cells width sheet isBreak, if_neg (by omega)]
    exact blankBelow row column belowHeight belowBefore

end EndlessSheet
