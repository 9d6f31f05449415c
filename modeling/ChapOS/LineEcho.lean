import ChapOS.FlatScreen
import ChapOS.KeyEffects
import ChapOS.LineDiscipline
import ChapOS.Modifiers

/-!
# What is typed is what is seen

`putc` and `press_bskp` each move the cursor over the ends of rows in their own way.
Read in row-major order the screen shows the key buffer from the cell in which the
line starts, until a Backspace at the start of the second row: it moves the cursor
and leaves the character on the screen.
-/

namespace ChapOS

namespace Console

/-- The screen in row-major order. -/
def flat (console : Console) : FlatScreen UInt8 where
  cells cell := console.cell (cell / 80) (cell % 80)
  cursor := (80 * console.screenY + console.screenX).toNat

variable {console : Console}

theorem moveCurser_flat (console : Console) : console.moveCurser.flat = console.flat :=
  rfl

theorem flat_cells (console : Console) (cell : Nat) :
    console.flat.cells cell = console.cell (cell / 80) (cell % 80) :=
  rfl

/-- The cell a character is stored in. -/
theorem storeCell_flat (mem : PhysicalMemory) {y x : Int} (c : UInt8)
    (low : 0 ≤ 80 * y + x) (high : 80 * y + x < 2000) {cell : Nat} (inside : cell < 2000) :
    (storeCell mem y x c).read (cellAddress (cell / 80 : Nat) (cell % 80 : Nat)) =
      if cell = (80 * y + x).toNat then c
      else mem.read (cellAddress (cell / 80 : Nat) (cell % 80 : Nat)) := by
  have address : cellAddress (cell / 80 : Nat) (cell % 80 : Nat) = video + 2 * cell := by
    rw [cellAddress_nat (by omega) (by omega)]
    omega
  simp only [storeCell, TracedMemory.store_read, cellAddress_of_cell low high, address]
  by_cases here : cell = (80 * y + x).toNat
  · rw [if_pos here, if_neg (by omega), if_pos (by omega)]
  · rw [if_neg here, if_neg (by omega), if_neg (by omega)]

/-- A character goes to the cell of the cursor. -/
theorem putc_flat (onScreen : console.OnScreen) {c : UInt8} (noBreak : ¬BreaksRow c) :
    (console.flat.put 80 2000 space c).Alike 2000 (console.putc c).flat := by
  have ⟨left, right, top, bottom⟩ := onScreen
  have cursor : console.flat.cursor = (80 * console.screenY + console.screenX).toNat := rfl
  have moved : (console.putc c).flat.cursor =
      (80 * (console.putc c).screenY + (console.putc c).screenX).toNat := rfl
  have writtenCell {cell : Nat} (inside : cell < 2000) : (console.written c).flat.cells cell =
      Function.update console.flat.cells console.flat.cursor c cell := by
    rw [Function.update_apply]
    exact storeCell_flat console.mem c (by omega) (by omega) inside
  obtain ⟨scrolled, kept, screenX, screenY⟩ := putc_character onScreen noBreak
  rw [screenX, screenY] at moved
  by_cases atEnd : console.AtEnd
  · have ⟨lastColumn, lastRow⟩ := atEnd
    rw [if_pos lastColumn, if_neg (by omega)] at moved
    rw [FlatScreen.put, if_neg (by omega)]
    constructor
    · intro cell inside
      refine (scrolled atEnd (cell / 80) (cell % 80) (by omega) (by omega)).1.trans ?_
      dsimp only
      by_cases shown : cell + 80 < 2000
      · have rowEq : (cell + 80) / 80 = cell / 80 + 1 := by omega
        have columnEq : (cell + 80) % 80 = cell % 80 := by omega
        rw [if_pos shown, if_pos (by omega), ← writtenCell shown, flat_cells, rowEq, columnEq]
      · rw [if_neg shown, if_neg (by omega)]
    · show (console.putc c).flat.cursor = console.flat.cursor + 1 - 80
      omega
  · have room : console.flat.cursor + 1 < 2000 := by
      by_contra full
      exact atEnd ⟨by omega, by omega⟩
    rw [FlatScreen.put, if_pos room]
    constructor
    · intro cell inside
      exact (kept atEnd (cell / 80) (cell % 80)).1.trans (writtenCell inside)
    · show (console.putc c).flat.cursor = console.flat.cursor + 1
      rw [moved]
      by_cases lastColumn : console.screenX = 79
      · rw [if_pos lastColumn, if_pos ⟨lastColumn, by omega⟩]
        omega
      · rw [if_neg lastColumn, if_neg fun both => lastColumn both.1]
        omega

/-- `press_bskp` steps back over the start of the second row, and erases elsewhere. -/
theorem eraseOnScreen_flat (onScreen : console.OnScreen) (behind : console.flat.cursor ≠ 0) :
    (if console.flat.cursor = 80 then console.flat.stepBack
      else console.flat.erase space).Alike 2000 (Tty.eraseOnScreen console).flat := by
  obtain ⟨left, right, top, bottom⟩ := onScreen
  have cursor : console.flat.cursor = (80 * console.screenY + console.screenX).toNat := rfl
  have moved : (Tty.eraseOnScreen console).flat.cursor = console.flat.cursor - 1 := by
    show (80 * (Tty.eraseOnScreen console).screenY +
      (Tty.eraseOnScreen console).screenX).toNat = _
    rw [Tty.eraseOnScreen_screenX, Tty.eraseOnScreen_screenY]
    by_cases first : console.screenX = 0
    · rw [if_neg (not_not_intro first), if_neg (not_not_intro first), if_pos (by omega)]
      omega
    · rw [if_pos first, if_pos first]
      omega
  by_cases start : console.flat.cursor = 80
  · have kept : (Tty.eraseOnScreen console).mem = console.mem := by
      rw [Tty.eraseOnScreen_mem, if_neg (by omega)]
    rw [if_pos start]
    constructor
    · intro cell inside
      rw [flat_cells, Console.cell, kept]
      rfl
    · exact moved
  · have erased : (Tty.eraseOnScreen console).mem =
        storeCell console.mem console.screenY (console.screenX - 1) space := by
      rw [Tty.eraseOnScreen_mem, if_pos (by omega)]
    rw [if_neg start]
    constructor
    · intro cell inside
      have before : (80 * console.screenY + (console.screenX - 1)).toNat =
          console.flat.cursor - 1 := by omega
      rw [flat_cells, Console.cell, erased, FlatScreen.erase]
      dsimp only
      rw [Function.update_apply, ← before]
      exact storeCell_flat console.mem space (by omega) (by omega) inside
    · exact moved

/-- Backspace drops the last character of an echoed text from the screen, unless it is
the last one of the first row and shows. -/
theorem eraseOnScreen_echoes_iff (onScreen : console.OnScreen) {start : Nat}
    {text : List UInt8} (echo : console.flat.Echoes 2000 space start text)
    (nonempty : text ≠ []) :
    (Tty.eraseOnScreen console).flat.Echoes 2000 space start text.dropLast ↔
      ¬(console.flat.cursor = 80 ∧ text.getLast nonempty ≠ space) := by
  have positive := List.length_pos_of_ne_nil nonempty
  have cursor := echo.cursor
  have alike := eraseOnScreen_flat onScreen (by omega)
  by_cases atStart : console.flat.cursor = 80
  · rw [if_pos atStart] at alike
    have steps : (Tty.eraseOnScreen console).flat.Echoes 2000 space start text.dropLast ↔
        console.flat.stepBack.Echoes 2000 space start text.dropLast :=
      ⟨fun echoed => echoed.of_alike alike.symm, fun echoed => echoed.of_alike alike⟩
    rw [steps, echo.stepBack_iff nonempty, not_and, not_not]
    exact ⟨fun isSpace _ => isSpace, fun isSpace => isSpace atStart⟩
  · rw [if_neg atStart] at alike
    exact iff_of_true ((echo.erase nonempty).of_alike alike) fun both => atStart both.1

end Console

/-- No mapped key sends a line break. -/
theorem scancodeArray_noBreak (mode : KeyboardMode) (key : Nat) :
    ¬BreaksRow (scancodeArray mode key) := by
  have rows : ('\x00' :: scancodeRow mode).all
      (fun c => decide (¬BreaksRow (UInt8.ofNat c.toNat))) = true := by
    cases mode <;> rfl
  have row := List.all_eq_true.mp rows
  refine of_decide_eq_true (row _ ?_)
  rw [List.getD_eq_getElem?_getD]
  cases mapped : (scancodeRow mode)[key]? with
  | none => exact List.mem_cons_self
  | some c => exact List.mem_cons_of_mem _ (List.mem_of_getElem? mapped)

/-- The keys that a line is typed with: all but Enter, Ctrl and the keys that request
terminals. -/
def TypesLine (key : Nat) : Prop :=
  key ∉ [enter, ctrlDown, f1Down, f2Down, f3Down]

instance (key : Nat) : Decidable (TypesLine key) :=
  inferInstanceAs (Decidable (key ∉ _))

/-- A line that is typed: the mode of the next key, the text, and the greatest length
it has had. -/
structure TypedLine where
  mode : KeyboardMode
  text : List UInt8
  longest : Nat

namespace TypedLine

/-- Backspace and the printable keys edit the text. -/
def edit (typed : TypedLine) (key : Nat) : List UInt8 :=
  if key = bksp then editLine typed.mode typed.text .backspace
  else if IsPrintable typed.mode key then editLine typed.mode typed.text (.printable key)
  else typed.text

/-- Type a key. -/
def press (typed : TypedLine) (key : Nat) : TypedLine where
  mode := typed.mode.afterKey key
  text := typed.edit key
  longest := max typed.longest (typed.edit key).length

/-- Type keys from an empty line on. -/
def ofKeys (mode : KeyboardMode) (keys : List Nat) : TypedLine :=
  keys.foldl press ⟨mode, [], 0⟩

/-- The cell in which a line that began in the cell `first` starts now: the screen has
scrolled by the rows that the line once took up below it. -/
def start (first : Nat) (typed : TypedLine) : Nat :=
  first - 80 * ((first + typed.longest) / 80 - 24)

/-- The cursor is at the start of the second row, behind a character that shows. -/
def AtSecondRow (first : Nat) (typed : TypedLine) : Prop :=
  first + typed.text.length = 80 ∧ ∃ c ∈ typed.text.getLast?, c ≠ space

/-- A key that does not make the line longer than it has been scrolls nothing. -/
theorem start_press {typed : TypedLine} {key : Nat} (first : Nat)
    (shorter : (typed.edit key).length ≤ typed.longest) :
    (typed.press key).start first = typed.start first := by
  rw [start, start, press, Nat.max_eq_left shorter]

theorem ofKeys_snoc (mode : KeyboardMode) (keys : List Nat) (key : Nat) :
    ofKeys mode (keys ++ [key]) = (ofKeys mode keys).press key := by
  simp [ofKeys]

end TypedLine

namespace Tty

/-- The characters in the key buffer. -/
def contents (tty : Tty) : List UInt8 :=
  (List.range tty.keyboard.bufferIndex).map tty.line

/-- The screen shows the key buffer from the cell `start` on, nothing behind it, and the
cursor there. -/
structure EchoesFrom (tty : Tty) (start : Nat) : Prop where
  onScreen : tty.console.OnScreen
  echoes : tty.console.flat.Echoes (numRows * numCols) space start tty.contents

/-- Handle scancodes one after the other. -/
def pressKeys (tty : Tty) (keys : List Nat) : Tty :=
  keys.foldl (fun current key => (current.handleKey key).1) tty

/-- The key buffer holds the typed line. -/
structure Holds (tty : Tty) (typed : TypedLine) : Prop where
  line : HoldsLine typed.mode typed.text tty
  longest : typed.text.length ≤ typed.longest
  capacity : typed.longest ≤ 128

variable {tty : Tty} {typed : TypedLine}

theorem HoldsLine.contents {mode : KeyboardMode} {text : List UInt8}
    (holds : HoldsLine mode text tty) : tty.contents = text := by
  apply List.ext_getElem
  · simp [Tty.contents, holds.index]
  · intro i inContents inText
    rw [← holds.characters i inText]
    simp [Tty.contents]

/-- For a held line the echo is that of its text. -/
theorem HoldsLine.echoesFrom_iff {mode : KeyboardMode} {text : List UInt8}
    (holds : HoldsLine mode text tty) (start : Nat) :
    tty.EchoesFrom start ↔
      tty.console.OnScreen ∧ tty.console.flat.Echoes 2000 space start text := by
  constructor
  · rintro ⟨onScreen, echoes⟩
    rw [holds.contents] at echoes
    exact ⟨onScreen, echoes⟩
  · rintro ⟨onScreen, echoes⟩
    rw [← holds.contents] at echoes
    exact ⟨onScreen, echoes⟩

/-- The other keys change the mode and the flag of Alt at most. -/
theorem handleKey_idle {key : Nat} (types : TypesLine key) (notBksp : key ≠ bksp)
    (unmapped : ¬IsPrintable tty.keyboard.keyboardMode key)
    (released : tty.keyboard.ctrlFlag = false) :
    ∃ mode alt, (tty.handleKey key).1 =
      { tty with
        keyboard := { tty.keyboard with keyboardMode := mode, altFlag := alt } } := by
  obtain ⟨⟨mode, ctrl, alt, bufferKey, bufferIndex, returnFlag, curTermId⟩, console⟩ := tty
  obtain rfl : ctrl = false := released
  simp only [TypesLine, List.mem_cons, List.not_mem_nil, or_false, not_or] at types
  obtain ⟨notEnter, notCtrl, notF1, notF2, notF3⟩ := types
  by_cases special : key ∈ [capsDown, leftShiftDown, leftShiftUp, rightShiftDown,
      rightShiftUp, ctrlUp, altDown, altUp]
  · simp only [List.mem_cons, List.not_mem_nil, or_false] at special
    rcases special with rfl | rfl | rfl | rfl | rfl | rfl | rfl | rfl
    all_goals exact ⟨_, _, rfl⟩
  · simp only [List.mem_cons, List.not_mem_nil, or_false, not_or] at special
    obtain ⟨notCaps, notLeft, notLeftUp, notRight, notRightUp, notCtrlUp, notAlt,
      notAltUp⟩ := special
    have notPressed : key ∉ [capsDown, enter, leftShiftDown, rightShiftDown, bksp, ctrlDown,
        altDown, f1Down, f2Down, f3Down] := by
      simp only [List.mem_cons, List.not_mem_nil, or_false, not_or]
      exact ⟨notCaps, notEnter, notLeft, notRight, notBksp, notCtrl, notAlt, notF1, notF2,
        notF3⟩
    have notReleased : key ∉ [leftShiftUp, rightShiftUp, ctrlUp, altUp] := by
      simp only [List.mem_cons, List.not_mem_nil, or_false, not_or]
      exact ⟨notLeftUp, notRightUp, notCtrlUp, notAltUp⟩
    refine ⟨mode, alt, ?_⟩
    rw [handleKey_of_other notPressed notReleased, pressOtherKey]
    by_cases outside : numActualMapKeys ≤ key
    · rw [if_pos outside]
    · have null : scancodeArray mode key = keyNull := by
        by_contra mapped
        exact unmapped ⟨Nat.lt_of_not_le outside, mapped, notPressed⟩
      rw [if_neg outside]
      dsimp only
      rw [if_pos null]

/-- Every key of a line edits the key buffer as it edits the text. -/
theorem Holds.press (holds : tty.Holds typed) {key : Nat} (types : TypesLine key) :
    (tty.handleKey key).1.Holds (typed.press key) := by
  have mode := tty.handleKey_mode key
  rw [holds.line.mode] at mode
  have edited : HoldsLine (tty.handleKey key).1.keyboard.keyboardMode (typed.edit key)
      (tty.handleKey key).1 := by
    unfold TypedLine.edit
    by_cases isBksp : key = bksp
    · subst isBksp
      have pressed : HoldsLine typed.mode (editLine typed.mode typed.text .backspace)
          (tty.handleKey bksp).1 := holds.line.press_backspace.1
      rw [if_pos rfl, pressed.mode]
      exact pressed
    rw [if_neg isBksp]
    by_cases printable : IsPrintable typed.mode key
    · have pressed : HoldsLine typed.mode (editLine typed.mode typed.text (.printable key))
          (tty.handleKey key).1 := (holds.line.press_printable printable).1
      rw [if_pos printable, pressed.mode]
      exact pressed
    · have unmapped : ¬IsPrintable tty.keyboard.keyboardMode key := by
        rw [holds.line.mode]
        exact printable
      obtain ⟨next, alt, idle⟩ :=
        handleKey_idle types isBksp unmapped holds.line.ctrlReleased
      rw [if_neg printable, idle]
      exact ⟨rfl, holds.line.ctrlReleased, holds.line.index, holds.line.capacity,
        holds.line.characters, holds.line.nonNull⟩
  rw [mode] at edited
  exact ⟨edited, Nat.le_max_right _ _, Nat.max_le.mpr ⟨holds.capacity, edited.capacity⟩⟩

section Echo

variable {first key : Nat}

/-- Backspace takes the last character off the screen, unless it is at the start of the
second row. -/
theorem EchoesFrom.backspace_iff (echoes : tty.EchoesFrom (typed.start first))
    (holds : tty.Holds typed) (inside : first < 2000) :
    (tty.handleKey bksp).1.EchoesFrom ((typed.press bksp).start first) ↔
      ¬typed.AtSecondRow first := by
  have types : TypesLine bksp := by decide
  have capacity := holds.capacity
  have longest := holds.longest
  have edited : typed.edit bksp = typed.text.dropLast := if_pos rfl
  rw [TypedLine.start_press first (by rw [edited, List.length_dropLast]; omega),
    (holds.press types).line.echoesFrom_iff]
  obtain ⟨onScreen, echo⟩ := (holds.line.echoesFrom_iff _).mp echoes
  show tty.pressBskp.console.OnScreen ∧
    tty.pressBskp.console.flat.Echoes 2000 space (typed.start first) (typed.edit bksp) ↔ _
  rw [edited]
  have index := holds.line.index
  by_cases empty : typed.text = []
  · have same : tty.pressBskp.console = tty.console.moveCurser := by
      rw [pressBskp, if_neg (by rw [index, empty]; exact Nat.lt_irrefl 0)]
    refine iff_of_true ?_ ?_
    · rw [same, empty]
      rw [empty] at echo
      exact ⟨⟨onScreen.left, onScreen.right, onScreen.top, onScreen.bottom⟩, echo⟩
    · rintro ⟨-, c, member, -⟩
      rw [empty] at member
      cases member
  · have positive := List.length_pos_of_ne_nil empty
    have erased : tty.pressBskp.console = (eraseOnScreen tty.console).moveCurser := by
      rw [pressBskp, if_pos (by rw [index]; exact positive)]
      rfl
    have after := eraseOnScreen_onScreen onScreen
    have cursor := echo.cursor
    have behind : tty.console.flat.cursor = 80 ↔ first + typed.text.length = 80 := by
      rw [cursor, TypedLine.start]
      omega
    have moved : tty.pressBskp.console.OnScreen := by
      rw [erased]
      exact ⟨after.left, after.right, after.top, after.bottom⟩
    rw [and_iff_right moved, erased, Console.moveCurser_flat,
      Console.eraseOnScreen_echoes_iff onScreen echo empty, behind, TypedLine.AtSecondRow,
      List.getLast?_eq_getLast_of_ne_nil empty]
    simp

/-- A printable key puts its character behind the text. -/
theorem EchoesFrom.printable (echoes : tty.EchoesFrom (typed.start first))
    (holds : tty.Holds typed) (inside : first < 2000) (types : TypesLine key)
    (mapped : IsPrintable typed.mode key) :
    (tty.handleKey key).1.EchoesFrom ((typed.press key).start first) := by
  have capacity := holds.capacity
  have longest := holds.longest
  have notBksp : key ≠ bksp := by
    rintro rfl
    exact mapped.2.2 (by decide)
  have edited : typed.edit key = editLine typed.mode typed.text (.printable key) := by
    rw [TypedLine.edit, if_neg notBksp, if_pos mapped]
  rw [(holds.press types).line.echoesFrom_iff]
  obtain ⟨onScreen, echo⟩ := (holds.line.echoesFrom_iff _).mp echoes
  show (tty.handleKey key).1.console.OnScreen ∧ (tty.handleKey key).1.console.flat.Echoes
    2000 space ((typed.press key).start first) (typed.edit key)
  have pressed : tty.handleKey key = tty.pressOtherKey key :=
    handleKey_of_isPrintable mapped
  obtain ⟨below, notNull, -⟩ := mapped
  rw [pressed, pressOtherKey, if_neg (Nat.not_le_of_lt below)]
  simp only [holds.line.mode, if_neg notNull, holds.line.ctrlReleased, if_true,
    holds.line.index, keyboardNumKeys]
  by_cases full : typed.text.length = 128
  · have same : typed.edit key = typed.text := by
      rw [edited, editLine, if_neg (by omega)]
    rw [if_neg (not_not_intro full),
      TypedLine.start_press first (by rw [same]; exact longest), same]
    exact ⟨onScreen, echo⟩
  · have appended : typed.edit key = typed.text ++ [scancodeArray typed.mode key] := by
      rw [edited, editLine, if_pos (by omega)]
    have fits := echo.fits
    have put := Console.putc_flat onScreen (scancodeArray_noBreak typed.mode key)
    rw [if_pos full, appended]
    refine ⟨Console.putc_onScreen onScreen _, FlatScreen.Echoes.of_alike ?_ put⟩
    have lengthEq : (typed.edit key).length = typed.text.length + 1 := by
      rw [appended, List.length_append, List.length_singleton]
    have startEq : (typed.press key).start first =
        first - 80 * ((first + max typed.longest (typed.text.length + 1)) / 80 - 24) := by
      rw [TypedLine.start, TypedLine.press, lengthEq]
    have before : typed.start first = first - 80 * ((first + typed.longest) / 80 - 24) := rfl
    by_cases room : typed.start first + typed.text.length + 1 < 2000
    · have kept : (typed.press key).start first = typed.start first := by omega
      rw [kept]
      exact echo.put_of_room 80 _ room
    · have scrolled : (typed.press key).start first = typed.start first - 80 := by omega
      rw [scrolled]
      exact echo.put_of_last _ (by omega) (by omega) (by omega)

/-- The other keys leave the screen as it is. -/
theorem EchoesFrom.idle (echoes : tty.EchoesFrom (typed.start first))
    (holds : tty.Holds typed) (types : TypesLine key) (notBksp : key ≠ bksp)
    (unmapped : ¬IsPrintable typed.mode key) :
    (tty.handleKey key).1.EchoesFrom ((typed.press key).start first) := by
  have same : typed.edit key = typed.text := by
    rw [TypedLine.edit, if_neg notBksp, if_neg unmapped]
  rw [TypedLine.start_press first (by rw [same]; exact holds.longest)]
  rw [← holds.line.mode] at unmapped
  obtain ⟨mode, alt, idle⟩ := handleKey_idle types notBksp unmapped holds.line.ctrlReleased
  rw [idle]
  exact ⟨echoes.onScreen, echoes.echoes⟩

/-- One key keeps the echo unless it is a Backspace at the start of the second row. -/
theorem EchoesFrom.press_iff (echoes : tty.EchoesFrom (typed.start first))
    (holds : tty.Holds typed) (inside : first < 2000) (types : TypesLine key) :
    (tty.handleKey key).1.EchoesFrom ((typed.press key).start first) ↔
      (key = bksp → ¬typed.AtSecondRow first) := by
  by_cases isBksp : key = bksp
  · subst isBksp
    rw [echoes.backspace_iff holds inside]
    exact ⟨fun keeps _ => keeps, fun keeps => keeps rfl⟩
  · refine iff_of_true ?_ fun same => absurd same isBksp
    by_cases mapped : IsPrintable typed.mode key
    · exact echoes.printable holds inside types mapped
    · exact echoes.idle holds types isBksp mapped

theorem pressKeys_snoc (tty : Tty) (keys : List Nat) (key : Nat) :
    tty.pressKeys (keys ++ [key]) = ((tty.pressKeys keys).handleKey key).1 := by
  simp [pressKeys]

theorem Holds.pressKeys {mode : KeyboardMode} (holds : tty.Holds ⟨mode, [], 0⟩)
    {keys : List Nat} (types : ∀ key ∈ keys, TypesLine key) :
    (tty.pressKeys keys).Holds (.ofKeys mode keys) := by
  induction keys using List.reverseRecOn with
  | nil => exact holds
  | append_singleton keys key ih =>
      have before := ih fun other member => types other (List.mem_append_left _ member)
      rw [pressKeys_snoc, TypedLine.ofKeys_snoc]
      exact before.press (types key (by simp))

end Echo

end Tty

/-- From any cursor with blanks behind it, the screen shows the key buffer after every
key exactly when no Backspace is pressed at the start of the second row, behind a
character that shows. -/
theorem echo_matches_iff (tty : Tty) (keys : List Nat)
    (onScreen : tty.console.OnScreen) (newLine : tty.keyboard.bufferIndex = 0)
    (released : tty.keyboard.ctrlFlag = false)
    (blank : ∀ cell, tty.console.flat.cursor ≤ cell → cell < 2000 →
      tty.console.flat.cells cell = space)
    (types : ∀ key ∈ keys, TypesLine key) :
    (∀ before, before <+: keys →
        (tty.pressKeys before).EchoesFrom
          ((TypedLine.ofKeys tty.keyboard.keyboardMode before).start
            tty.console.flat.cursor)) ↔
      ∀ before, before ++ [bksp] <+: keys →
        ¬(TypedLine.ofKeys tty.keyboard.keyboardMode before).AtSecondRow
          tty.console.flat.cursor := by
  have inside : tty.console.flat.cursor < 2000 := by
    obtain ⟨left, right, top, bottom⟩ := onScreen
    show (80 * tty.console.screenY + tty.console.screenX).toNat < 2000
    omega
  have empty : Tty.HoldsLine tty.keyboard.keyboardMode [] tty :=
    ⟨rfl, released, newLine, by simp, by simp, by simp⟩
  have holds {before : List Nat} (isPrefix : before <+: keys) :
      (tty.pressKeys before).Holds (.ofKeys tty.keyboard.keyboardMode before) :=
    Tty.Holds.pressKeys ⟨empty, Nat.le_refl 0, Nat.zero_le 128⟩
      fun key member => types key (isPrefix.subset member)
  have step {before : List Nat} {key : Nat} (isPrefix : before ++ [key] <+: keys) :
      before <+: keys ∧ TypesLine key :=
    ⟨(List.prefix_append before [key]).trans isPrefix,
      types key (isPrefix.subset (by simp))⟩
  constructor
  · intro echoes before isPrefix
    obtain ⟨earlier, typesLine⟩ := step isPrefix
    have after := echoes _ isPrefix
    rw [Tty.pressKeys_snoc, TypedLine.ofKeys_snoc] at after
    exact ((echoes before earlier).press_iff (holds earlier) inside typesLine).mp after rfl
  · intro keeps before
    induction before using List.reverseRecOn with
    | nil =>
        intro _
        have start : (TypedLine.ofKeys tty.keyboard.keyboardMode []).start
            tty.console.flat.cursor = tty.console.flat.cursor := by
          simp only [TypedLine.ofKeys, TypedLine.start, List.foldl_nil]
          omega
        rw [start]
        refine (empty.echoesFrom_iff _).mpr ⟨onScreen, ⟨inside, ?_, blank, rfl⟩⟩
        intro i inText
        exact absurd inText (Nat.not_lt_zero i)
    | append_singleton before key ih =>
        intro isPrefix
        obtain ⟨earlier, typesLine⟩ := step isPrefix
        rw [Tty.pressKeys_snoc, TypedLine.ofKeys_snoc]
        rw [(ih earlier).press_iff (holds earlier) inside typesLine]
        rintro rfl
        exact keeps before isPrefix

/-- A cleared screen with the cursor in a cell of it. -/
def clearedTty (row column : Nat) : Tty :=
  { Kernel.loaded.tty with
    console := { cornerConsole with screenX := column, screenY := row } }

/-- Two characters around the end of the screen, which scrolls between them, and a
Backspace. -/
theorem echo_matches_corner :
    ((clearedTty 24 79).pressKeys [0x1E, 0x30]).EchoesFrom 1919 ∧
      ((clearedTty 24 79).pressKeys [0x1E, 0x30, bksp]).EchoesFrom 1919 := by
  have echoes := (echo_matches_iff (clearedTty 24 79) [0x1E, 0x30, bksp]
    ⟨by decide, by decide, by decide, by decide⟩ rfl rfl (fun _ _ _ => rfl)
    (by decide)).mpr (by
      rintro before - ⟨here, -⟩
      have corner : (clearedTty 24 79).console.flat.cursor = 1999 := by decide
      omega)
  constructor
  · exact echoes [0x1E, 0x30] ⟨[bksp], rfl⟩
  · exact echoes [0x1E, 0x30, bksp] (List.prefix_refl _)

/-- A row typed from its first cell on and one Backspace: the last character stays. -/
theorem backspace_leaves_character :
    (clearedTty 0 0).console.OnScreen ∧ (clearedTty 0 0).keyboard.bufferIndex = 0 ∧
      (clearedTty 0 0).keyboard.ctrlFlag = false ∧
      (∀ cell, (clearedTty 0 0).console.flat.cells cell = space) ∧
      (∀ key ∈ List.replicate 80 0x1E ++ [bksp], TypesLine key) ∧
      ¬∀ before, before <+: List.replicate 80 0x1E ++ [bksp] →
        ((clearedTty 0 0).pressKeys before).EchoesFrom
          ((TypedLine.ofKeys .pressNothing before).start 0) := by
  refine ⟨⟨by decide, by decide, by decide, by decide⟩, rfl, rfl, fun _ => rfl, by decide,
    ?_⟩
  intro echoes
  have last := (echoes _ (List.prefix_refl _)).echoes
  have shown : ((clearedTty 0 0).pressKeys
      (List.replicate 80 0x1E ++ [bksp])).console.flat.cells 79 = 0x61 := by decide +kernel
  rw [last.blankAfter 79 (by decide +kernel) (by decide)] at shown
  exact absurd shown (by decide)

end ChapOS
