import ChapOS.EndlessSheet
import ChapOS.Keyboard

/-!
# The console is a window on an endless sheet

Every byte sent through `putc` moves the 80x25 screen in step with the
reference sheet of `EndlessSheet`: the visible cells, the cursor and the
attributes are those of the window that ends at the current row.
-/

namespace ChapOS

open CountedLoops

/-- The bytes that start a new row. -/
def BreaksRow (c : UInt8) : Prop :=
  c = newLine ∨ c = carriageReturn

instance : DecidablePred BreaksRow :=
  fun c => inferInstanceAs (Decidable (c = newLine ∨ c = carriageReturn))

/-- The console's reference sheet. -/
abbrev Sheet := EndlessSheet UInt8

namespace Sheet

/-- `putc` on the reference sheet. -/
def put (sheet : Sheet) (c : UInt8) : Sheet :=
  EndlessSheet.write numCols BreaksRow sheet c

/-- The first visible row. -/
def top (sheet : Sheet) : Nat :=
  EndlessSheet.windowTop numRows sheet

theorem top_of_row (sheet : Sheet) : sheet.top = sheet.row - 24 := by
  simp only [top, EndlessSheet.windowTop, numRows]
  omega

end Sheet

namespace Console

/-- The sheet that a screen starts from: its rows are the first 25, all rows
after them are blank. -/
def sheet (console : Console) : Sheet where
  cells row column := if row < 25 then console.cell row column else space
  row := console.screenY.toNat
  column := console.screenX.toNat

/-- The console shows the window of the sheet that ends at the current row. -/
structure Shows (console : Console) (sheet : Sheet) : Prop where
  cells : ∀ y x : Nat, y < 25 → x < 80 →
    console.cell y x = sheet.cells (sheet.top + y) x
  column : console.screenX = sheet.column
  row : console.screenY = (sheet.row - sheet.top : Nat)
  columnLt : sheet.column < 80
  blankBelow : EndlessSheet.BlankBelow numRows space sheet

variable {console : Console} {sheet : Sheet}

theorem Shows.row_lt (_ : console.Shows sheet) :
    sheet.row - sheet.top < 25 := by
  have := sheet.top_of_row
  omega

/-- A visible sheet is written only at cursors on the screen. -/
theorem Shows.onScreen (shows : console.Shows sheet) : console.OnScreen := by
  have rowLt := shows.row_lt
  have columnLt := shows.columnLt
  exact ⟨by rw [shows.column]; omega, by rw [shows.column]; omega,
    by rw [shows.row]; omega, by rw [shows.row]; omega⟩

theorem shows_sheet (onScreen : console.OnScreen) :
    console.Shows console.sheet := by
  obtain ⟨left, right, top, bottom⟩ := onScreen
  have topZero : console.sheet.top = 0 := by
    rw [Sheet.top_of_row]
    simp only [Console.sheet]
    omega
  refine ⟨?_, ?_, ?_, ?_, ?_⟩
  · intro y x yLt _
    rw [topZero, Nat.zero_add]
    exact (if_pos yLt).symm
  · simp only [Console.sheet]
    omega
  · rw [topZero]
    simp only [Console.sheet]
    omega
  · simp only [Console.sheet]
    omega
  · intro row column below _
    exact if_neg (by simpa using below)

/-- The attribute of a visible cell after the window moved from `before` to
`after` and `filled` cells were written: `ATTRIB` where a cell was written or
shifted, as it was anywhere else. -/
structure AttributesFollow (first last : Console) (before after : Nat)
    (filled : Nat → Nat → Prop) : Prop where
  changed : ∀ y x : Nat, y < 25 → x < 80 →
    before < after ∨ filled (after + y) x → last.cellAttribute y x = attrib
  kept : ∀ y x : Nat, y < 25 → x < 80 →
    before = after → ¬ filled (after + y) x →
      last.cellAttribute y x = first.cellAttribute y x

private theorem shows_newLine (shows : console.Shows sheet) {c : UInt8}
    (isBreak : BreaksRow c) :
    (console.putc c).Shows (sheet.put c) ∧
      AttributesFollow console (console.putc c) sheet.top (sheet.put c).top
        (fun _ _ => False) := by
  have topEq := sheet.top_of_row
  have sheetEq : sheet.put c = { sheet with row := sheet.row + 1, column := 0 } :=
    EndlessSheet.write_of_breaks sheet isBreak
  have nextTop := (sheet.put c).top_of_row
  have blankBelow : EndlessSheet.BlankBelow numRows space (sheet.put c) :=
    shows.blankBelow.write c
  rw [sheetEq] at nextTop blankBelow ⊢
  simp only at nextTop
  have cursor := shows.row
  have putcEq : console.putc c =
      moveCurser
        { (if console.screenY < (numRows : Int) - 1 then
            { console with screenY := console.screenY + 1 }
          else console.moveScreenUp) with screenX := 0 } := by
    simp only [putc]
    rw [if_pos (show c = newLine ∨ c = carriageReturn from isBreak)]
  rw [putcEq]
  by_cases above : console.screenY < (numRows : Int) - 1
  · rw [if_pos above]
    simp only [numRows] at above
    have topSame : sheet.row + 1 - 24 = sheet.row - 24 := by omega
    rw [topSame, ← topEq] at nextTop
    refine ⟨⟨?_, rfl, ?_, by simp, blankBelow⟩, ⟨?_, ?_⟩⟩
    · intro y x yLt xLt
      rw [nextTop]
      exact shows.cells y x yLt xLt
    · simp only [moveCurser_screenY, nextTop]
      omega
    · intro y x _ _ changed
      rw [nextTop] at changed
      exact absurd changed (by simp)
    · intro y x _ _ _ _
      rfl
  · rw [if_neg above]
    simp only [numRows] at above
    have topNext : Sheet.top ⟨sheet.cells, sheet.row + 1, 0⟩ = sheet.top + 1 := by
      rw [nextTop]
      omega
    refine ⟨⟨?_, rfl, ?_, by simp, blankBelow⟩, ⟨?_, ?_⟩⟩
    · intro y x yLt xLt
      rw [topNext]
      refine (moveScreenUp_cell console yLt xLt).1.trans ?_
      by_cases last : y < 24
      · have rowEq : sheet.top + 1 + y = sheet.top + (y + 1) := by omega
        rw [if_pos last, shows.cells (y + 1) x (by omega) xLt, rowEq]
      · rw [if_neg last]
        refine (shows.blankBelow _ _ ?_ ?_).symm
        · simp only [numRows]
          omega
        · omega
    · simp only [moveCurser_screenY, moveScreenUp_screenY, topNext]
      omega
    · intro y x yLt xLt _
      exact (moveScreenUp_cell console yLt xLt).2
    · intro y x _ _ same
      omega

/-- The cursor is on the last cell of the screen. -/
def AtEnd (console : Console) : Prop :=
  console.screenX = 79 ∧ console.screenY = 24

/-- The screen with a byte written at the cursor. -/
def written (console : Console) (c : UInt8) : Console :=
  { console with mem := storeCell console.mem console.screenY console.screenX c }

theorem written_cell (onScreen : console.OnScreen) (c : UInt8) {y x : Nat} (yLt : y < 25)
    (xLt : x < 80) :
    (console.written c).cell y x =
        (if (y : Int) = console.screenY ∧ (x : Int) = console.screenX then c
          else console.cell y x) ∧
      (console.written c).cellAttribute y x =
        (if (y : Int) = console.screenY ∧ (x : Int) = console.screenX then attrib
          else console.cellAttribute y x) := by
  obtain ⟨left, right, top, bottom⟩ := onScreen
  have stored := storeCell_read console.mem c
    (show console.screenY.toNat < 25 by omega) (show console.screenX.toNat < 80 by omega)
    yLt xLt
  rw [Int.toNat_of_nonneg top, Int.toNat_of_nonneg left] at stored
  have here : (y : Int) = console.screenY ∧ (x : Int) = console.screenX ↔
      y = console.screenY.toNat ∧ x = console.screenX.toNat := by omega
  simp only [here]
  exact stored

/-- What `putc` does with a byte that breaks no row: it is written at the cursor, which
moves on; from the last cell of the screen everything moves up. -/
structure PutsCharacter (before after : Console) (c : UInt8) : Prop where
  scrolled : before.AtEnd → ∀ y x : Nat, y < 25 → x < 80 →
    after.cell y x = (if y < 24 then (before.written c).cell (y + 1) x else space) ∧
      after.cellAttribute y x = attrib
  kept : ¬before.AtEnd → ∀ y x : Nat,
    after.cell y x = (before.written c).cell y x ∧
      after.cellAttribute y x = (before.written c).cellAttribute y x
  screenX : after.screenX = if before.screenX = 79 then 0 else before.screenX + 1
  screenY : after.screenY =
    if before.screenX = 79 ∧ before.screenY < 24 then before.screenY + 1
    else before.screenY

theorem putc_character (onScreen : console.OnScreen) {c : UInt8} (noBreak : ¬BreaksRow c) :
    console.PutsCharacter (console.putc c) c := by
  obtain ⟨left, right, top, bottom⟩ := onScreen
  have putcEq : console.putc c =
      let next : Console := { console.written c with screenX := console.screenX + 1 }
      let moved :=
        if 24 ≤ console.screenY ∧ 80 ≤ console.screenX + 1 then next.moveScreenUp
        else if 80 ≤ console.screenX + 1 then { next with screenY := console.screenY + 1 }
        else next
      moveCurser { moved with screenX := moved.screenX.tmod 80 } := by
    simp only [putc]
    rw [if_neg (show ¬(c = newLine ∨ c = carriageReturn) from noBreak)]
    rfl
  rw [putcEq]
  dsimp only
  by_cases wraps : 80 ≤ console.screenX + 1
  · have lastColumn : console.screenX = 79 := by omega
    have full : (console.screenX + 1).tmod 80 = 0 := by
      rw [lastColumn]
      rfl
    by_cases last : 24 ≤ console.screenY
    · have atEnd : console.AtEnd := ⟨lastColumn, by omega⟩
      rw [if_pos ⟨last, wraps⟩]
      constructor
      · intro _ y x yLt xLt
        exact moveScreenUp_cell { console.written c with screenX := console.screenX + 1 }
          yLt xLt
      · exact fun elsewhere => absurd atEnd elsewhere
      · rw [moveCurser_screenX, moveScreenUp_screenX, if_pos lastColumn]
        exact full
      · rw [moveCurser_screenY, moveScreenUp_screenY, if_neg (by omega)]
        rfl
    · rw [if_neg fun both => last both.1, if_pos wraps]
      constructor
      · rintro ⟨-, lastRow⟩
        omega
      · exact fun _ y x => ⟨rfl, rfl⟩
      · rw [moveCurser_screenX, if_pos lastColumn]
        exact full
      · rw [moveCurser_screenY, if_pos ⟨lastColumn, by omega⟩]
  · have inside : console.screenX ≠ 79 := by omega
    have small : (console.screenX + 1).tmod 80 = console.screenX + 1 :=
      Int.tmod_eq_of_lt (by omega) (by omega)
    rw [if_neg fun both => wraps both.2, if_neg wraps]
    constructor
    · exact fun atEnd => absurd atEnd.1 inside
    · exact fun _ y x => ⟨rfl, rfl⟩
    · rw [moveCurser_screenX, if_neg inside]
      exact small
    · rw [moveCurser_screenY, if_neg fun both => inside both.1]
      rfl

private theorem shows_character (shows : console.Shows sheet) {c : UInt8}
    (noBreak : ¬ BreaksRow c) :
    (console.putc c).Shows (sheet.put c) ∧
      AttributesFollow console (console.putc c) sheet.top (sheet.put c).top
        (fun row column => row = sheet.row ∧ column = sheet.column) := by
  have topEq := sheet.top_of_row
  have nextTop := (sheet.put c).top_of_row
  have blankBelow : EndlessSheet.BlankBelow numRows space (sheet.put c) :=
    shows.blankBelow.write c
  have cells := EndlessSheet.write_cells numCols sheet noBreak
  have columnLt := shows.columnLt
  have column := shows.column
  have row := shows.row
  obtain ⟨scrolled, kept, screenX, screenY⟩ := putc_character shows.onScreen noBreak
  -- The written screen against the sheet, before the window moves.
  have writtenSheet {y x : Nat} (yLt : y < 25) (xLt : x < 80) :
      (console.written c).cell y x = (sheet.put c).cells (sheet.top + y) x := by
    have here : (y : Int) = console.screenY ∧ (x : Int) = console.screenX ↔
        sheet.top + y = sheet.row ∧ x = sheet.column := by omega
    rw [(written_cell shows.onScreen c yLt xLt).1, shows.cells y x yLt xLt, Sheet.put, cells]
    simp only [here]
  have writtenAttribute {y x : Nat} (yLt : y < 25) (xLt : x < 80) :
      (console.written c).cellAttribute y x =
        if sheet.top + y = sheet.row ∧ x = sheet.column then attrib
        else console.cellAttribute y x := by
    have here : (y : Int) = console.screenY ∧ (x : Int) = console.screenX ↔
        sheet.top + y = sheet.row ∧ x = sheet.column := by omega
    rw [(written_cell shows.onScreen c yLt xLt).2]
    simp only [here]
  have cursor : (sheet.put c).row = (if sheet.column = 79 then sheet.row + 1 else sheet.row) ∧
      (sheet.put c).column = if sheet.column = 79 then 0 else sheet.column + 1 := by
    by_cases lastColumn : sheet.column = 79
    · rw [if_pos lastColumn, if_pos lastColumn]
      exact EndlessSheet.write_row_of_wrap sheet noBreak
        (by simp only [numCols, lastColumn]; omega)
    · rw [if_neg lastColumn, if_neg lastColumn]
      exact EndlessSheet.write_row_of_lt sheet noBreak (by simp only [numCols]; omega)
  obtain ⟨nextRow, nextColumn⟩ := cursor
  have columnAfter : (console.putc c).screenX = (sheet.put c).column := by
    rw [screenX, nextColumn, column]
    split <;> split <;> omega
  have columnInside : (sheet.put c).column < 80 := by
    rw [nextColumn]
    split <;> omega
  by_cases atEnd : console.AtEnd
  · obtain ⟨lastColumn, lastRow⟩ := atEnd
    rw [if_pos (by omega)] at nextRow
    have topNext : (sheet.put c).top = sheet.top + 1 := by omega
    constructor
    · refine ⟨?_, columnAfter, ?_, columnInside, blankBelow⟩
      · intro y x yLt xLt
        rw [(scrolled ⟨lastColumn, lastRow⟩ y x yLt xLt).1, topNext]
        by_cases above : y < 24
        · have rowEq : sheet.top + 1 + y = sheet.top + (y + 1) := by omega
          rw [if_pos above, writtenSheet (by omega) xLt, rowEq]
        · rw [if_neg above, Sheet.put, cells, if_neg (by omega)]
          exact (shows.blankBelow _ _ (by simp only [numRows]; omega) (by omega)).symm
      · rw [screenY, if_neg (by omega), topNext, nextRow]
        omega
    · constructor
      · intro y x yLt xLt _
        exact (scrolled ⟨lastColumn, lastRow⟩ y x yLt xLt).2
      · intro y x _ _ same
        omega
  · have topNext : (sheet.put c).top = sheet.top := by
      rw [nextTop, nextRow, topEq]
      split
      · have above : ¬console.screenY = 24 := fun lastRow => atEnd ⟨by omega, lastRow⟩
        omega
      · rfl
    constructor
    · refine ⟨?_, columnAfter, ?_, columnInside, blankBelow⟩
      · intro y x yLt xLt
        rw [(kept atEnd y x).1, topNext]
        exact writtenSheet yLt xLt
      · rw [screenY, topNext, nextRow]
        by_cases lastColumn : sheet.column = 79
        · have above : ¬console.screenY = 24 := fun lastRow => atEnd ⟨by omega, lastRow⟩
          rw [if_pos ⟨by omega, by omega⟩, if_pos lastColumn]
          omega
        · rw [if_neg (by omega), if_neg lastColumn]
          exact row
    · rw [topNext]
      constructor
      · intro y x yLt xLt changed
        rw [(kept atEnd y x).2, writtenAttribute yLt xLt, if_pos (by omega)]
      · intro y x yLt xLt _ notFilled
        rw [(kept atEnd y x).2, writtenAttribute yLt xLt, if_neg notFilled]

/-- One byte: the screen follows the sheet. -/
theorem Shows.putc (shows : console.Shows sheet) (c : UInt8) :
    (console.putc c).Shows (sheet.put c) ∧
      AttributesFollow console (console.putc c) sheet.top (sheet.put c).top
        (fun row column =>
          ¬ BreaksRow c ∧ row = sheet.row ∧ column = sheet.column) := by
  by_cases isBreak : BreaksRow c
  · simpa [isBreak] using shows_newLine shows isBreak
  · simpa [isBreak] using shows_character shows isBreak

/-- Any number of bytes: the screen follows the sheet. -/
theorem Shows.putAll (shows : console.Shows sheet) (bytes : List UInt8) :
    (console.putAll bytes).Shows (EndlessSheet.writeAll numCols BreaksRow sheet bytes) ∧
      AttributesFollow console (console.putAll bytes) sheet.top
        (Sheet.top (EndlessSheet.writeAll numCols BreaksRow sheet bytes))
        (EndlessSheet.Fills numCols BreaksRow sheet bytes) := by
  induction bytes generalizing console sheet with
  | nil =>
      refine ⟨shows, ⟨?_, ?_⟩⟩
      · intro y x _ _ changed
        exact absurd changed (by simp [EndlessSheet.writeAll, EndlessSheet.Fills])
      · intro y x _ _ _ _
        rfl
  | cons c bytes ih =>
      obtain ⟨stepShows, stepAttributes⟩ := shows.putc c
      obtain ⟨restShows, restAttributes⟩ := ih stepShows
      refine ⟨restShows, ?_⟩
      have stepTop : sheet.top ≤ (sheet.put c).top :=
        EndlessSheet.windowTop_mono (EndlessSheet.write_row_le numCols BreaksRow sheet c)
      have restTop : (sheet.put c).top ≤
          Sheet.top (EndlessSheet.writeAll numCols BreaksRow (sheet.put c) bytes) :=
        EndlessSheet.windowTop_le_writeAll numCols (sheet.put c) bytes
      change AttributesFollow console ((console.putc c).putAll bytes) sheet.top
        (Sheet.top (EndlessSheet.writeAll numCols BreaksRow (sheet.put c) bytes))
        (fun row column =>
          (¬ BreaksRow c ∧ row = sheet.row ∧ column = sheet.column) ∨
            EndlessSheet.Fills numCols BreaksRow (sheet.put c) bytes row column)
      generalize Sheet.top
        (EndlessSheet.writeAll numCols BreaksRow (sheet.put c) bytes) = last at *
      refine ⟨?_, ?_⟩
      · intro y x yLt xLt changed
        by_cases later : (sheet.put c).top < last ∨
            EndlessSheet.Fills numCols BreaksRow (sheet.put c) bytes (last + y) x
        · exact restAttributes.changed y x yLt xLt later
        · -- The change was made by the first byte and kept since.
          have lastEq : (sheet.put c).top = last := by omega
          have notFilled : ¬ EndlessSheet.Fills numCols BreaksRow (sheet.put c)
              bytes (last + y) x := fun filled => later (Or.inr filled)
          rw [restAttributes.kept y x yLt xLt lastEq notFilled]
          apply stepAttributes.changed y x yLt xLt
          rw [lastEq]
          rcases changed with moved | first | filled
          · exact Or.inl moved
          · exact Or.inr first
          · exact absurd filled notFilled
      · intro y x yLt xLt same notFilled
        have lastEq : (sheet.put c).top = last := by omega
        rw [restAttributes.kept y x yLt xLt lastEq fun filled =>
          notFilled (Or.inr filled)]
        apply stepAttributes.kept y x yLt xLt (by omega)
        rw [lastEq]
        exact fun first => notFilled (Or.inl first)

/-- What printing bytes must leave on the screen, compared with the endless
sheet that the screen started from. -/
structure PrintsOnSheet (before after : Console) (bytes : List UInt8) : Prop where
  cells : ∀ y x : Nat, y < 25 → x < 80 →
    after.cell y x =
      EndlessSheet.window numRows
        (EndlessSheet.writeAll numCols BreaksRow before.sheet bytes) y x
  column : after.screenX =
    (EndlessSheet.writeAll numCols BreaksRow before.sheet bytes).column
  row : after.screenY =
    ((EndlessSheet.writeAll numCols BreaksRow before.sheet bytes).row -
      (EndlessSheet.writeAll numCols BreaksRow before.sheet bytes).windowTop numRows :
        Nat)
  attributes : AttributesFollow before after 0
    ((EndlessSheet.writeAll numCols BreaksRow before.sheet bytes).windowTop numRows)
    (EndlessSheet.Fills numCols BreaksRow before.sheet bytes)

theorem printsOnSheet_putAll (onScreen : console.OnScreen)
    (bytes : List UInt8) : PrintsOnSheet console (console.putAll bytes) bytes := by
  obtain ⟨shows, attributes⟩ := (shows_sheet onScreen).putAll bytes
  have topZero : console.sheet.top = 0 := by
    have bottom := onScreen.bottom
    rw [Sheet.top_of_row]
    simp only [Console.sheet]
    omega
  rw [topZero] at attributes
  exact ⟨shows.cells, shows.column, shows.row, attributes⟩

/-- `puts` prints the bytes before the first NUL. -/
theorem puts_eq_putAll (console : Console) (text : List UInt8) :
    (console.puts text).1 = console.putAll (text.takeWhile fun c => c ≠ 0) := by
  induction text generalizing console with
  | nil => rfl
  | cons c text ih =>
      by_cases isNull : c = 0
      · simp [puts, isNull, Console.putAll]
      · rw [List.takeWhile_cons_of_pos (by simpa using isNull)]
        simpa [puts, isNull, Console.putAll] using ih (console.putc c)

/-- `keyboard_write` prints the bytes that are not NUL. -/
theorem keyboardWrite_eq_putAll (console : Console) (buff : Nat → UInt8)
    (nbytes : Int) :
    (keyboardWrite console buff nbytes).1 =
      console.putAll
        (((List.range nbytes.toNat).map buff).filter fun c => c ≠ 0) := by
  simp only [keyboardWrite]
  induction nbytes.toNat with
  | zero => rfl
  | succ count ih =>
      rw [forUpTo_succ, ih, List.range_succ, List.map_append, List.filter_append]
      by_cases isNull : buff count = 0 <;>
        simp [isNull, Console.putAll, List.foldl_append]

end Console

/-- The console implements an endless sheet of paper: for every screen, every
cursor on it and all bytes, sent directly, by `puts` or by `keyboard_write`,
the visible cells, the cursor and the attributes are those of the reference. -/
theorem console_prints_on_sheet (console : Console)
    (onScreen : console.OnScreen) :
    (∀ bytes, console.PrintsOnSheet (console.putAll bytes) bytes) ∧
      (∀ text : List UInt8, console.PrintsOnSheet (console.puts text).1
        (text.takeWhile fun c => c ≠ 0)) ∧
      ∀ (buff : Nat → UInt8) (nbytes : Int),
        console.PrintsOnSheet (keyboardWrite console buff nbytes).1
          (((List.range nbytes.toNat).map buff).filter fun c => c ≠ 0) := by
  refine ⟨?_, ?_, ?_⟩
  · intro bytes
    exact Console.printsOnSheet_putAll onScreen bytes
  · intro text
    rw [Console.puts_eq_putAll]
    exact Console.printsOnSheet_putAll onScreen _
  · intro buff nbytes
    rw [Console.keyboardWrite_eq_putAll]
    exact Console.printsOnSheet_putAll onScreen _

/-- A blank screen with the cursor in the last cell of the last row. -/
def cornerConsole : Console where
  mem := ⟨fun _ => space, []⟩
  screenX := 79
  screenY := 24
  cursorLocation := 0

theorem console_prints_on_sheet_corner :
    cornerConsole.PrintsOnSheet (cornerConsole.putAll [0x61, 0x62]) [0x61, 0x62] :=
  (console_prints_on_sheet cornerConsole
    ⟨by decide, by decide, by decide, by decide⟩).1 [0x61, 0x62]

end ChapOS
