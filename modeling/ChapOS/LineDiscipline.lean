import ChapOS.Kernel

/-!
# The line discipline

What is typed between two Enters is a line of at most 128 characters that
Backspace edits at its end.  The key buffer and `buffer_index` hold this line,
and Enter ends it with a NUL for the reader.  A line of all 128 characters
leaves no room for the NUL.
-/

namespace ChapOS

/-- The key events of a line. -/
inductive LineKey where
  | printable (scancode : Nat)
  | backspace
  | ctrlL
  | enter
  deriving DecidableEq, Repr

/-- The scancodes the keyboard sends for a key event. -/
def LineKey.scancodes : LineKey → List Nat
  | .printable scancode => [scancode]
  | .backspace => [bksp]
  | .ctrlL => [ctrlDown, 0x26, ctrlUp]
  | .enter => [ChapOS.enter]

/-- The scancode reaches `press_other_key` and is mapped to a character. -/
def IsPrintable (mode : KeyboardMode) (scancode : Nat) : Prop :=
  scancode < 87 ∧ scancodeArray mode scancode ≠ keyNull ∧
    scancode ∉ [capsDown, enter, leftShiftDown, rightShiftDown, bksp, ctrlDown,
      altDown, f1Down, f2Down, f3Down]

instance (mode : KeyboardMode) (scancode : Nat) :
    Decidable (IsPrintable mode scancode) :=
  inferInstanceAs (Decidable (_ ∧ _ ∧ _))

/-- Edit a line of capacity 128; Enter and Ctrl+L begin a new one. -/
def editLine (mode : KeyboardMode) (line : List UInt8) : LineKey → List UInt8
  | .printable scancode =>
      if line.length < 128 then line ++ [scancodeArray mode scancode] else line
  | .backspace => line.dropLast
  | .ctrlL => []
  | .enter => []

/-- The line that a sequence of key events leaves. -/
def replay (mode : KeyboardMode) (line : List UInt8) (keys : List LineKey) :
    List UInt8 :=
  keys.foldl (editLine mode) line

/-- Every Enter of a sequence comes while the line still has room for its NUL. -/
def EntersFit (mode : KeyboardMode) (line : List UInt8) (keys : List LineKey) :
    Prop :=
  ∀ before after, keys = before ++ .enter :: after →
    (replay mode line before).length < 128

theorem entersFit_nil (mode : KeyboardMode) (line : List UInt8) :
    EntersFit mode line [] := by
  intro before after same
  simp at same

theorem entersFit_cons {mode : KeyboardMode} {line : List UInt8} {key : LineKey}
    {keys : List LineKey} :
    EntersFit mode line (key :: keys) ↔
      (key = .enter → line.length < 128) ∧
        EntersFit mode (editLine mode line key) keys := by
  constructor
  · intro fits
    refine ⟨?_, ?_⟩
    · rintro rfl
      exact fits [] keys rfl
    · rintro before after rfl
      exact fits (key :: before) after rfl
  · rintro ⟨first, rest⟩ before after same
    cases before with
    | nil => exact first (List.cons.inj same).1
    | cons head before =>
        obtain ⟨rfl, tailSame⟩ := List.cons.inj same
        exact rest before after tailSame

namespace Tty

/-- Handle the scancodes of a key event. -/
def press (tty : Tty) (key : LineKey) : Tty :=
  key.scancodes.foldl (fun current scancode => (current.handleKey scancode).1) tty

/-- Handle a sequence of key events. -/
def pressAll (tty : Tty) (keys : List LineKey) : Tty :=
  keys.foldl press tty

@[simp]
theorem storeKey_keyBuffer (tty : Tty) (index : Nat) (key : UInt8) :
    (tty.storeKey index key).keyBuffer = tty.keyBuffer.store index key := by
  simp [storeKey, keyBuffer]

@[simp]
theorem setBufferIndex_keyBuffer (tty : Tty) (index : Nat) :
    (tty.setBufferIndex index).keyBuffer = tty.keyBuffer :=
  rfl

@[simp]
theorem putc_keyboard (tty : Tty) (c : UInt8) :
    (tty.putc c).keyboard = tty.keyboard :=
  rfl

/-- The key buffer and its index hold a line, with Ctrl up. -/
structure HoldsLine (mode : KeyboardMode) (typed : List UInt8) (tty : Tty) :
    Prop where
  mode : tty.keyboard.keyboardMode = mode
  ctrlReleased : tty.keyboard.ctrlFlag = false
  index : tty.keyboard.bufferIndex = typed.length
  capacity : typed.length ≤ 128
  characters : ∀ i (inLine : i < typed.length), tty.line i = typed[i]
  nonNull : ∀ c ∈ typed, c ≠ keyNull

/-- The index that Enter stores its NUL to. -/
def storeRegion (line : List UInt8) (key : LineKey) : Set Nat :=
  { index | index < 128 ∨ key = .enter ∧ index = line.length }

variable {mode : KeyboardMode} {line : List UInt8} {tty : Tty}

/-- The keys without a case of their own. -/
theorem handleKey_of_other {scancode : Nat}
    (notPressed : scancode ∉ [capsDown, enter, leftShiftDown, rightShiftDown, bksp,
      ctrlDown, altDown, f1Down, f2Down, f3Down])
    (notReleased : scancode ∉ [leftShiftUp, rightShiftUp, ctrlUp, altUp]) :
    tty.handleKey scancode = tty.pressOtherKey scancode := by
  simp only [List.mem_cons, List.not_mem_nil, or_false, not_or] at notPressed notReleased
  obtain ⟨notCaps, notEnter, notLeft, notRight, notBksp, notCtrl, notAlt, notF1,
    notF2, notF3⟩ := notPressed
  obtain ⟨notLeftUp, notRightUp, notCtrlUp, notAltUp⟩ := notReleased
  simp only [handleKey, if_neg notCaps, if_neg notEnter, if_neg notLeft,
    if_neg notLeftUp, if_neg notRight, if_neg notRightUp, if_neg notBksp,
    if_neg notCtrl, if_neg notCtrlUp, if_neg notAlt, if_neg notAltUp, if_neg notF1,
    if_neg notF2, if_neg notF3]

theorem handleKey_of_isPrintable {scancode : Nat}
    (printable : IsPrintable mode scancode) :
    tty.handleKey scancode = tty.pressOtherKey scancode := by
  obtain ⟨below, -, notSpecial⟩ := printable
  apply handleKey_of_other notSpecial
  simp only [leftShiftUp, rightShiftUp, ctrlUp, altUp, List.mem_cons, List.not_mem_nil,
    or_false]
  omega

/-- A printable key is appended, unless the line is full. -/
theorem HoldsLine.press_printable (holds : HoldsLine mode line tty) {scancode : Nat}
    (printable : IsPrintable mode scancode) :
    HoldsLine mode (editLine mode line (.printable scancode))
        (tty.press (.printable scancode)) ∧
      TracedMemory.StoresOnly (storeRegion line (.printable scancode)) tty.keyBuffer
        (tty.press (.printable scancode)).keyBuffer := by
  have pressed : tty.press (.printable scancode) = (tty.pressOtherKey scancode).1 := by
    simp only [press, LineKey.scancodes, List.foldl_cons, List.foldl_nil]
    rw [handleKey_of_isPrintable printable]
  obtain ⟨below, mapped, -⟩ := printable
  have inMap : ¬numActualMapKeys ≤ scancode := Nat.not_le_of_lt below
  rw [pressed]
  simp only [pressOtherKey, if_neg inMap, holds.mode, if_neg mapped, holds.ctrlReleased,
    if_true, holds.index, keyboardNumKeys, editLine]
  have capacity := holds.capacity
  by_cases full : line.length = 128
  · rw [if_neg (not_not_intro full), if_neg (by omega)]
    exact ⟨holds, TracedMemory.StoresOnly.refl _ _⟩
  · rw [if_pos full, if_pos (by omega)]
    refine ⟨⟨holds.mode, holds.ctrlReleased, ?_, ?_, ?_, ?_⟩, ?_⟩
    · simp only [putc_keyboard, setBufferIndex, List.length_append, List.length_singleton]
      omega
    · simp only [List.length_append, List.length_singleton]
      omega
    · intro i inLine
      simp only [List.length_append, List.length_singleton] at inLine
      show ((tty.storeKey line.length (scancodeArray mode scancode)).keyBuffer).read i = _
      rw [storeKey_keyBuffer, TracedMemory.store_read]
      by_cases last : i = line.length
      · subst last
        simp
      · rw [if_neg last, List.getElem_append_left (by omega)]
        exact holds.characters i (by omega)
    · intro c member
      rcases List.mem_append.mp member with inLine | isLast
      · exact holds.nonNull c inLine
      · rw [List.mem_singleton.mp isLast]
        exact mapped
    · show TracedMemory.StoresOnly _ tty.keyBuffer
        (tty.storeKey line.length (scancodeArray mode scancode)).keyBuffer
      rw [storeKey_keyBuffer]
      exact TracedMemory.store_storesOnly _ _ (Or.inl (by omega))

/-- Backspace drops the last character. -/
theorem HoldsLine.press_backspace (holds : HoldsLine mode line tty) :
    HoldsLine mode (editLine mode line .backspace) (tty.press .backspace) ∧
      TracedMemory.StoresOnly (storeRegion line .backspace) tty.keyBuffer
        (tty.press .backspace).keyBuffer := by
  have pressed : tty.press .backspace = tty.pressBskp := rfl
  have capacity := holds.capacity
  rw [pressed]
  simp only [pressBskp, holds.index, editLine]
  by_cases empty : line.length > 0
  · rw [if_pos empty]
    refine ⟨⟨holds.mode, holds.ctrlReleased, ?_, ?_, ?_, ?_⟩, ?_⟩
    · simp only [setBufferIndex, List.length_dropLast]
      omega
    · simp only [List.length_dropLast]
      omega
    · intro i inLine
      simp only [List.length_dropLast] at inLine
      show ((tty.storeKey (line.length - 1) keyNull).keyBuffer).read i = _
      rw [storeKey_keyBuffer, TracedMemory.store_read, if_neg (by omega),
        List.getElem_dropLast]
      exact holds.characters i (by omega)
    · intro c member
      exact holds.nonNull c (List.dropLast_subset line member)
    · show TracedMemory.StoresOnly _ tty.keyBuffer
        (tty.storeKey (line.length - 1) keyNull).keyBuffer
      rw [storeKey_keyBuffer]
      exact TracedMemory.store_storesOnly _ _ (Or.inl (by omega))
  · have none : line = [] := List.eq_nil_of_length_eq_zero (by omega)
    subst none
    rw [if_neg empty]
    exact ⟨⟨holds.mode, holds.ctrlReleased, holds.index, capacity, holds.characters,
      holds.nonNull⟩, TracedMemory.StoresOnly.refl _ _⟩

/-- Ctrl+L begins a new line. -/
theorem HoldsLine.press_ctrlL (holds : HoldsLine mode line tty) :
    HoldsLine mode (editLine mode line .ctrlL) (tty.press .ctrlL) ∧
      TracedMemory.StoresOnly (storeRegion line .ctrlL) tty.keyBuffer
        (tty.press .ctrlL).keyBuffer := by
  have letter : scancodeArray mode 0x26 = 0x6C ∨ scancodeArray mode 0x26 = 0x4C := by
    cases mode <;> decide
  have notHalt : ¬(scancodeArray mode 0x26 = 0x63 ∨ scancodeArray mode 0x26 = 0x43) := by
    cases mode <;> decide
  have notNull : scancodeArray mode 0x26 ≠ keyNull := by
    cases mode <;> decide
  have held := holds.mode
  have pressed : tty.press .ctrlL =
      (((tty.setCtrlFlag ctrlDown).pressOtherKey 0x26).1).setCtrlFlag ChapOS.ctrlUp := rfl
  have cleared : ((tty.setCtrlFlag ctrlDown).pressOtherKey 0x26).1 =
      (tty.setCtrlFlag ctrlDown).clearScreen := by
    have inMap : ¬numActualMapKeys ≤ 0x26 := by decide
    have down : (tty.setCtrlFlag ctrlDown).keyboard.ctrlFlag = true := rfl
    have modeEq : (tty.setCtrlFlag ctrlDown).keyboard.keyboardMode = mode := held
    simp only [pressOtherKey, if_neg inMap, modeEq, if_neg notNull, down,
      if_pos letter, if_neg notHalt, Bool.true_eq_false, if_false]
  rw [pressed, cleared]
  refine ⟨⟨held, rfl, rfl, by simp [editLine], ?_, ?_⟩, TracedMemory.StoresOnly.refl _ _⟩
  · intro i inLine
    simp [editLine] at inLine
  · intro c member
    simp [editLine] at member

/-- Enter ends the line with a NUL and begins a new one. -/
theorem HoldsLine.press_enter (holds : HoldsLine mode line tty) :
    HoldsLine mode (editLine mode line .enter) (tty.press .enter) ∧
      (tty.press .enter).keyBuffer = tty.keyBuffer.store line.length keyNull := by
  have pressed : (tty.press .enter).keyBuffer =
      (tty.storeKey tty.keyboard.bufferIndex keyNull).keyBuffer := rfl
  rw [pressed, holds.index, storeKey_keyBuffer]
  refine ⟨⟨holds.mode, holds.ctrlReleased, rfl, by simp [editLine], ?_, ?_⟩, rfl⟩
  · intro i inLine
    simp [editLine] at inLine
  · intro c member
    simp [editLine] at member

/-- One key event edits the line that is held. -/
theorem HoldsLine.press (holds : HoldsLine mode line tty) (key : LineKey)
    (printable : ∀ scancode, key = .printable scancode → IsPrintable mode scancode) :
    HoldsLine mode (editLine mode line key) (tty.press key) ∧
      TracedMemory.StoresOnly (storeRegion line key) tty.keyBuffer
        (tty.press key).keyBuffer := by
  cases key with
  | printable scancode => exact holds.press_printable (printable scancode rfl)
  | backspace => exact holds.press_backspace
  | ctrlL => exact holds.press_ctrlL
  | enter =>
      obtain ⟨held, buffer⟩ := holds.press_enter
      refine ⟨held, ?_⟩
      rw [buffer]
      exact TracedMemory.store_storesOnly _ _ (Or.inr ⟨rfl, rfl⟩)

/-- A sequence of key events replays on the line that is held. -/
theorem HoldsLine.pressAll (holds : HoldsLine mode line tty) {keys : List LineKey}
    (printable : ∀ scancode, .printable scancode ∈ keys → IsPrintable mode scancode) :
    HoldsLine mode (replay mode line keys) (tty.pressAll keys) ∧
      TracedMemory.StoresOnly Set.univ tty.keyBuffer (tty.pressAll keys).keyBuffer := by
  induction keys generalizing line tty with
  | nil => exact ⟨holds, TracedMemory.StoresOnly.refl _ _⟩
  | cons key keys ih =>
      obtain ⟨held, footprint⟩ := holds.press key (by
        rintro scancode rfl
        exact printable scancode List.mem_cons_self)
      obtain ⟨replayed, rest⟩ := ih held fun scancode member =>
        printable scancode (List.mem_cons_of_mem _ member)
      exact ⟨replayed, (footprint.mono (Set.subset_univ _)).trans rest⟩

/-- The stores of a sequence of key events stay inside the key buffer exactly
when every Enter fits. -/
theorem HoldsLine.stores_inside_iff (holds : HoldsLine mode line tty)
    {keys : List LineKey}
    (printable : ∀ scancode, .printable scancode ∈ keys → IsPrintable mode scancode)
    (inside : ∀ index ∈ tty.keyBuffer.stores, index < 128) :
    (∀ index ∈ (tty.pressAll keys).keyBuffer.stores, index < 128) ↔
      EntersFit mode line keys := by
  induction keys generalizing line tty with
  | nil =>
      exact iff_of_true inside (entersFit_nil mode line)
  | cons key keys ih =>
      have headPrintable : ∀ scancode, key = .printable scancode →
          IsPrintable mode scancode := by
        rintro scancode rfl
        exact printable scancode List.mem_cons_self
      have tailPrintable : ∀ scancode, .printable scancode ∈ keys →
          IsPrintable mode scancode := fun scancode member =>
        printable scancode (List.mem_cons_of_mem _ member)
      obtain ⟨held, ⟨fresh, stores, freshInside⟩, -⟩ := holds.press key headPrintable
      have capacity := holds.capacity
      rw [entersFit_cons]
      by_cases overflows : key = .enter ∧ line.length = 128
      · -- The NUL of this Enter is stored behind the buffer, for good.
        obtain ⟨rfl, full⟩ := overflows
        refine iff_of_false ?_ fun fits => by have := fits.1 rfl; omega
        intro allInside
        have stored : 128 ∈ (tty.press .enter).keyBuffer.stores := by
          rw [holds.press_enter.2, full]
          exact List.mem_cons_self
        have kept := (held.pressAll tailPrintable).2.mem_stores stored
        exact absurd (allInside 128 kept) (by decide)
      · have nextInside : ∀ index ∈ (tty.press key).keyBuffer.stores, index < 128 := by
          intro index member
          rw [stores] at member
          rcases List.mem_append.mp member with isFresh | isOld
          · rcases freshInside index isFresh with below | ⟨isEnter, atLength⟩
            · exact below
            · have notFull : line.length ≠ 128 := fun full => overflows ⟨isEnter, full⟩
              omega
          · exact inside index isOld
        rw [and_iff_right]
        · exact ih held tailPrintable nextInside
        · intro isEnter
          have notFull : line.length ≠ 128 := fun full => overflows ⟨isEnter, full⟩
          omega

end Tty

/-- The copy loop hands out the characters up to the NUL, or as many as are
asked for. -/
theorem copyLine_of_line {keys : Nat → UInt8} {typed : List UInt8} (nbytes : Int)
    (characters : ∀ i (inLine : i < typed.length), keys i = typed[i])
    (nonNull : ∀ c ∈ typed, c ≠ keyNull) (ends : keys typed.length = keyNull)
    {remaining i : Nat} (inLine : i ≤ typed.length) (asked : (i : Int) ≤ max nbytes 0)
    (room : typed.length < i + remaining) (buf : UserBuffer) :
    (copyLine keys nbytes remaining i buf).1 = min (typed.length : Int) (max nbytes 0) ∧
      ∀ index, (copyLine keys nbytes remaining i buf).2.read index =
        if i ≤ index ∧ index ≤ typed.length ∧ (index : Int) < nbytes then keys index
        else buf.read index := by
  induction remaining generalizing i buf with
  | zero => omega
  | succ remaining ih =>
      rw [copyLine]
      by_cases full : nbytes ≤ (i : Int)
      · rw [if_pos full]
        refine ⟨by omega, fun index => ?_⟩
        rw [if_neg (by omega)]
      · rw [if_neg full]
        by_cases atEnd : i = typed.length
        · subst atEnd
          rw [if_pos ends]
          refine ⟨by omega, fun index => ?_⟩
          rw [TracedMemory.store_read]
          by_cases here : index = typed.length
          · subst here
            rw [if_pos rfl, if_pos (by omega)]
          · rw [if_neg here, if_neg (by omega)]
        · have inside : i < typed.length := by omega
          have notNull : keys i ≠ keyNull := by
            rw [characters i inside]
            exact nonNull _ (List.getElem_mem inside)
          rw [if_neg notNull]
          obtain ⟨count, copied⟩ :=
            ih (i := i + 1) (by omega) (by push_cast; omega) (by omega)
              (buf.store i (keys i))
          refine ⟨count, fun index => ?_⟩
          rw [copied index, TracedMemory.store_read]
          by_cases here : index = i
          · subst here
            rw [if_neg (by omega), if_pos rfl, if_pos (by omega)]
          · rw [if_neg here]
            have sameSide : i + 1 ≤ index ↔ i ≤ index := by omega
            simp only [sameSide]

/-- `keyboard_read` hands out what was typed: its length or the count asked for,
whichever is less, and that many of its characters; and no handler has stored
outside the key buffer. -/
structure DeliversLine (typed : List UInt8) (nbytes : Int) (content : Nat → UInt8)
    (tty : Tty) : Prop where
  count : (keyboardRead tty (freshBuffer content) nbytes).1 =
    min (typed.length : Int) (max nbytes 0)
  characters : ∀ i (inLine : i < typed.length), (i : Int) < nbytes →
    (keyboardRead tty (freshBuffer content) nbytes).2.read i = typed[i]
  stores : ∀ index ∈ tty.keyBuffer.stores, index < 128

/-- After any key events that end in Enter, `keyboard_read` delivers the line
they leave exactly when every line so ended has less than 128 characters. -/
theorem keyboard_delivers_line_iff (tty : Tty) (history : List LineKey)
    (nbytes : Int) (content : Nat → UInt8) (newLine : tty.keyboard.bufferIndex = 0)
    (ctrlReleased : tty.keyboard.ctrlFlag = false)
    (untraced : tty.keyBuffer.stores = [])
    (printable : ∀ scancode, .printable scancode ∈ history →
      IsPrintable tty.keyboard.keyboardMode scancode) :
    DeliversLine (replay tty.keyboard.keyboardMode [] history) nbytes content
        (tty.pressAll (history ++ [.enter])) ↔
      EntersFit tty.keyboard.keyboardMode [] (history ++ [.enter]) := by
  have holds : Tty.HoldsLine tty.keyboard.keyboardMode [] tty :=
    ⟨rfl, ctrlReleased, newLine, by simp, by simp, by simp⟩
  have allPrintable : ∀ scancode, .printable scancode ∈ history ++ [LineKey.enter] →
      IsPrintable tty.keyboard.keyboardMode scancode := by
    intro scancode member
    exact printable scancode (by simpa using member)
  have stores := holds.stores_inside_iff allPrintable (by simp [untraced])
  constructor
  · intro delivers
    exact stores.mp delivers.stores
  · intro fits
    have room := fits history [] rfl
    have held := (holds.pressAll printable).1
    have last : tty.pressAll (history ++ [.enter]) =
        (tty.pressAll history).press .enter := by
      simp [Tty.pressAll]
    have buffer := held.press_enter.2
    have lineEq : ∀ index, ((tty.pressAll history).press .enter).line index =
        if index = (replay tty.keyboard.keyboardMode [] history).length then keyNull
        else (tty.pressAll history).line index := by
      intro index
      rw [Tty.line, buffer, TracedMemory.store_read]
      rfl
    have characters : ∀ i (inLine : i <
        (replay tty.keyboard.keyboardMode [] history).length),
        ((tty.pressAll history).press .enter).line i =
          (replay tty.keyboard.keyboardMode [] history)[i] := by
      intro i inLine
      rw [lineEq, if_neg (by omega)]
      exact held.characters i inLine
    obtain ⟨count, copied⟩ := copyLine_of_line nbytes characters
      held.nonNull (by rw [lineEq, if_pos rfl]) (Nat.zero_le _) (by omega)
      (show _ < 0 + keyboardNumKeys by simpa using room) (freshBuffer content)
    refine ⟨?_, ?_, ?_⟩
    · rw [last]
      exact count
    · intro i inLine asked
      rw [last, keyboardRead, copied i, if_pos ⟨Nat.zero_le i, by omega, asked⟩]
      exact characters i inLine
    · exact stores.mpr fits

/-- Typing a, b and Backspace and asking for ten bytes delivers the a. -/
theorem keyboard_delivers_line_edited :
    DeliversLine [0x61] 10 (fun _ => 0)
      (Kernel.loaded.tty.pressAll
        ([.printable 0x1E, .printable 0x30, .backspace] ++ [.enter])) :=
  (keyboard_delivers_line_iff Kernel.loaded.tty
    [.printable 0x1E, .printable 0x30, .backspace] 10 (fun _ => 0) rfl rfl rfl
    (by
      intro scancode member
      simp only [List.mem_cons, List.not_mem_nil, or_false, LineKey.printable.injEq,
        reduceCtorEq] at member
      rcases member with rfl | rfl <;> decide)).mpr
    (by simp [entersFit_cons, entersFit_nil, editLine])

/-- A line of 128 characters is read as no characters at all. -/
theorem keyboard_loses_full_line :
    ¬DeliversLine
      (replay .pressNothing [] (List.replicate 128 (.printable 0x1E))) 128
      (fun _ => 0)
      (Kernel.loaded.tty.pressAll
        (List.replicate 128 (.printable 0x1E) ++ [.enter])) := by
  intro delivers
  have count := delivers.count
  revert count
  decide +kernel

end ChapOS
