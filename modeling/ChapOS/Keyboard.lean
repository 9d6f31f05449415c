import ChapOS.Console

/-!
# The keyboard driver of `keyboard.c`

The handlers of single scancodes, the line they edit in the key buffer of the
displayed terminal, and the copy loops of `keyboard_read` and
`keyboard_write`.  Leaving the handler through `halt` or through a terminal
request is reported to the caller as a `KeyAction`.
-/

namespace ChapOS

open CountedLoops

/-- `KEYBOARD_NUM_KEYS`. -/
@[simp] abbrev keyboardNumKeys : Nat := 128

/-- `NUM_ACTUAL_MAP_KEYS`. -/
@[simp] abbrev numActualMapKeys : Nat := 87

/-- `KEY_NULL`. -/
@[simp] abbrev keyNull : UInt8 := 0

@[simp] abbrev capsDown : Nat := 0x3A
@[simp] abbrev enter : Nat := 0x1C
@[simp] abbrev leftShiftDown : Nat := 0x2A
@[simp] abbrev leftShiftUp : Nat := 0xAA
@[simp] abbrev rightShiftDown : Nat := 0x36
@[simp] abbrev rightShiftUp : Nat := 0xB6
@[simp] abbrev bksp : Nat := 0x0E
@[simp] abbrev ctrlDown : Nat := 0x1D
@[simp] abbrev ctrlUp : Nat := 0x9D
@[simp] abbrev f1Down : Nat := 0x3B
@[simp] abbrev f2Down : Nat := 0x3C
@[simp] abbrev f3Down : Nat := 0x3D
@[simp] abbrev altDown : Nat := 0x38
@[simp] abbrev altUp : Nat := 0xB8

/-- The values `PRESS_NOTHING` to `PRESS_SHIFT_CAP` of `keyboard_mode`. -/
inductive KeyboardMode where
  | pressNothing
  | pressShiftOnly
  | pressCapOnly
  | pressShiftCap
  deriving DecidableEq, Repr

/-- The rows of `scancode_array` up to the last key that is mapped. -/
def scancodeRow : KeyboardMode → List Char
  | .pressNothing =>
    ['\x00', '\x00', '1', '2', '3', '4', '5', '6', '7', '8', '9', '0', '-', '=',
      '\x00', '\x00', 'q', 'w', 'e', 'r', 't', 'y', 'u', 'i', 'o', 'p', '[', ']',
      '\x00', '\x00', 'a', 's', 'd', 'f', 'g', 'h', 'j', 'k', 'l', ';', '\x27',
      '\x60', '\x00', '\x5c', 'z', 'x', 'c', 'v', 'b', 'n', 'm', ',', '.', '/', '0',
      '*', '\x00', ' ', '\x00', '\x00', '\x00', '\x00', '\x00', '\x00', '\x00',
      '\x00', '\x00', '\x00', '\x00', '\x00', '\x00', '\x00', '\x00', '\x00', '-',
      '\x00', '\x00', '\x00', '+', '\x00', '\x00', '\x00', '\x00', '\x00', '/',
      '\x00', '\x00']
  | .pressShiftOnly =>
    ['\x00', '\x00', '!', '@', '#', '$', '%', '^', '&', '*', '(', ')', '_', '+',
      '\x00', '\x00', 'Q', 'W', 'E', 'R', 'T', 'Y', 'U', 'I', 'O', 'P', '\x7b',
      '\x7d', '\x00', '\x00', 'A', 'S', 'D', 'F', 'G', 'H', 'J', 'K', 'L', ':',
      '\x22', '~', '\x00', '|', 'Z', 'X', 'C', 'V', 'B', 'N', 'M', '<', '>', '?',
      '0', '*', '\x00', ' ', '\x00', '\x00', '\x00', '\x00', '\x00', '\x00', '\x00',
      '\x00', '\x00', '\x00', '\x00', '\x00', '\x00', '\x00', '\x00', '\x00', '-',
      '\x00', '\x00', '\x00', '+', '\x00', '\x00', '\x00', '\x00', '\x00', '/',
      '\x00', '\x00']
  | .pressCapOnly =>
    ['\x00', '\x00', '1', '2', '3', '4', '5', '6', '7', '8', '9', '0', '-', '=',
      '\x00', '\x00', 'Q', 'W', 'E', 'R', 'T', 'Y', 'U', 'I', 'O', 'P', '[', ']',
      '\x00', '\x00', 'A', 'S', 'D', 'F', 'G', 'H', 'J', 'K', 'L', ';', '\x27',
      '\x60', '\x00', '\x5c', 'Z', 'X', 'C', 'V', 'B', 'N', 'M', ',', '.', '/', '0',
      '*', '\x00', ' ', '\x00', '\x00', '\x00', '\x00', '\x00', '\x00', '\x00',
      '\x00', '\x00', '\x00', '\x00', '\x00', '\x00', '\x00', '\x00', '\x00', '-',
      '\x00', '\x00', '\x00', '+', '\x00', '\x00', '\x00', '\x00', '\x00', '/',
      '\x00', '\x00']
  | .pressShiftCap =>
    ['\x00', '\x00', '!', '@', '#', '$', '%', '^', '&', '*', '(', ')', '_', '+',
      '\x00', '\x00', 'q', 'w', 'e', 'r', 't', 'y', 'u', 'i', 'o', 'p', '\x7b',
      '\x7d', '\x00', '\x00', 'a', 's', 'd', 'f', 'g', 'h', 'j', 'k', 'l', ':',
      '\x22', '~', '\x00', '|', 'z', 'x', 'c', 'v', 'b', 'n', 'm', '<', '>', '?',
      '0', '*', '\x00', ' ', '\x00', '\x00', '\x00', '\x00', '\x00', '\x00', '\x00',
      '\x00', '\x00', '\x00', '\x00', '\x00', '\x00', '\x00', '\x00', '\x00', '-',
      '\x00', '\x00', '\x00', '+', '\x00', '\x00', '\x00', '\x00', '\x00', '/',
      '\x00', '\x00']

/-- `scancode_array[mode][key]`; the entries the initialiser leaves out are
zero. -/
def scancodeArray (mode : KeyboardMode) (key : Nat) : UInt8 :=
  UInt8.ofNat ((scancodeRow mode).getD key '\x00').toNat

/-- The memory a caller hands to a read, indexed from `buf`. -/
abbrev UserBuffer := TracedMemory Nat UInt8

/-- A buffer of the caller with the given bytes, not stored to yet. -/
def freshBuffer (content : Nat → UInt8) : UserBuffer :=
  ⟨content, []⟩

/-- The statics of `keyboard.c`.  `ctrlFlag` and `altFlag` say whether the flag
holds `PRESS_CTRL` and `PRESS_ALT`; `bufferKey` is `buffKeyPtr`, one array for
each terminal. -/
structure Keyboard where
  keyboardMode : KeyboardMode
  ctrlFlag : Bool
  altFlag : Bool
  bufferKey : Nat → TracedMemory Nat UInt8
  bufferIndex : Nat
  returnFlag : Bool
  curTermId : Nat

/-- What the key handlers work on. -/
structure Tty where
  keyboard : Keyboard
  console : Console

/-- How a key handler is left. -/
inductive KeyAction where
  | done
  | halt
  | terminalLoS (id : Nat)
  deriving DecidableEq, Repr

namespace Tty

/-- `buffKeyPtr[cur_term_id][index] = key`. -/
def storeKey (tty : Tty) (index : Nat) (key : UInt8) : Tty :=
  { tty with
    keyboard :=
      { tty.keyboard with
        bufferKey := Function.update tty.keyboard.bufferKey
          tty.keyboard.curTermId
          ((tty.keyboard.bufferKey tty.keyboard.curTermId).store index key) } }

/-- Assign `buffer_index`, a `uint8_t`. -/
def setBufferIndex (tty : Tty) (index : Nat) : Tty :=
  { tty with keyboard := { tty.keyboard with bufferIndex := index % 256 } }

/-- `initialize_clear_buffer`. -/
def initializeClearBuffer (tty : Tty) : Tty :=
  tty.setBufferIndex 0

/-- `putc` on the terminal's console. -/
def putc (tty : Tty) (c : UInt8) : Tty :=
  { tty with console := tty.console.putc c }

/-- `press_caps`. -/
def pressCaps (tty : Tty) : Tty :=
  let mode := match tty.keyboard.keyboardMode with
    | .pressCapOnly => .pressNothing
    | .pressShiftOnly => .pressShiftCap
    | .pressShiftCap => .pressShiftOnly
    | .pressNothing => .pressCapOnly
  { tty with keyboard := { tty.keyboard with keyboardMode := mode } }

/-- `press_enter`. -/
def pressEnter (tty : Tty) : Tty :=
  let line := (tty.storeKey tty.keyboard.bufferIndex keyNull).initializeClearBuffer
  let printed := line.putc newLine
  { printed with keyboard := { printed.keyboard with returnFlag := true } }

/-- `press_shift`. -/
def pressShift (tty : Tty) : Tty :=
  let mode := match tty.keyboard.keyboardMode with
    | .pressCapOnly => KeyboardMode.pressShiftCap
    | _ => .pressShiftOnly
  { tty with keyboard := { tty.keyboard with keyboardMode := mode } }

/-- `unpress_shift`. -/
def unpressShift (tty : Tty) : Tty :=
  let mode := match tty.keyboard.keyboardMode with
    | .pressShiftCap => KeyboardMode.pressCapOnly
    | _ => .pressNothing
  { tty with keyboard := { tty.keyboard with keyboardMode := mode } }

/-- The part of `press_bskp` that works on the screen. -/
def eraseOnScreen (console : Console) : Console :=
  let x := console.screenX
  let y := console.screenY
  let erased : Console :=
    if y > 1 ∨ x > 0 then
      { console with mem := Console.storeCell console.mem y (x - 1) space }
    else console
  if x ≠ 0 then { erased with screenX := x - 1 }
  else
    { erased with
      screenY := if y > 0 then y - 1 else y
      screenX := (numCols : Int) - 1 }

/-- `press_bskp`. -/
def pressBskp (tty : Tty) : Tty :=
  let edited :=
    if tty.keyboard.bufferIndex > 0 then
      let dropped := (tty.storeKey (tty.keyboard.bufferIndex - 1) keyNull).setBufferIndex
        (tty.keyboard.bufferIndex - 1)
      { dropped with console := eraseOnScreen dropped.console }
    else tty
  { edited with console := edited.console.moveCurser }

/-- The Ctrl+L branch of `press_other_key`. -/
def clearScreen (tty : Tty) : Tty :=
  let cleared := initializeClearBuffer { tty with console := tty.console.clear }
  { cleared with
    console := { cleared.console with screenY := 0, screenX := 0 }.moveCurser }

/-- `press_other_key`. -/
def pressOtherKey (tty : Tty) (key : Nat) : Tty × KeyAction :=
  if numActualMapKeys ≤ key then (tty, .done)
  else
    let actualKey := scancodeArray tty.keyboard.keyboardMode key
    if actualKey = keyNull then (tty, .done)
    else if tty.keyboard.ctrlFlag = false then
      if tty.keyboard.bufferIndex ≠ keyboardNumKeys then
        let stored := (tty.storeKey tty.keyboard.bufferIndex actualKey).setBufferIndex
          (tty.keyboard.bufferIndex + 1)
        (stored.putc actualKey, .done)
      else (tty, .done)
    else
      -- 'l' and 'L' clear the screen, 'c' and 'C' end the running process.
      let cleared :=
        if actualKey = 0x6C ∨ actualKey = 0x4C then tty.clearScreen else tty
      if actualKey = 0x63 ∨ actualKey = 0x43 then (cleared, .halt)
      else (cleared, .done)

/-- `set_ctrl_flag`. -/
def setCtrlFlag (tty : Tty) (key : Nat) : Tty :=
  let flag :=
    if key = ctrlUp then false
    else if key = ctrlDown then true
    else tty.keyboard.ctrlFlag
  { tty with keyboard := { tty.keyboard with ctrlFlag := flag } }

/-- `set_alt_flag`. -/
def setAltFlag (tty : Tty) (key : Nat) : Tty :=
  let flag :=
    if key = altUp then false
    else if key = altDown then true
    else tty.keyboard.altFlag
  { tty with keyboard := { tty.keyboard with altFlag := flag } }

/-- The cases `F1_DOWN` to `F3_DOWN`. -/
def pressFunctionKey (tty : Tty) (id : Nat) : Tty × KeyAction :=
  (tty, if tty.keyboard.altFlag then .terminalLoS id else .done)

/-- The switch of `keyboard_int_handler`. -/
def handleKey (tty : Tty) (key : Nat) : Tty × KeyAction :=
  if key = capsDown then (tty.pressCaps, .done)
  else if key = enter then (tty.pressEnter, .done)
  else if key = leftShiftDown then (tty.pressShift, .done)
  else if key = leftShiftUp then (tty.unpressShift, .done)
  else if key = rightShiftDown then (tty.pressShift, .done)
  else if key = rightShiftUp then (tty.unpressShift, .done)
  else if key = bksp then (tty.pressBskp, .done)
  else if key = ctrlDown then (tty.setCtrlFlag ctrlDown, .done)
  else if key = ctrlUp then (tty.setCtrlFlag ctrlUp, .done)
  else if key = altDown then (tty.setAltFlag altDown, .done)
  else if key = altUp then (tty.setAltFlag altUp, .done)
  else if key = f1Down then tty.pressFunctionKey 0
  else if key = f2Down then tty.pressFunctionKey 1
  else if key = f3Down then tty.pressFunctionKey 2
  else tty.pressOtherKey key

/-- `buffKeyPtr[cur_term_id]`. -/
def keyBuffer (tty : Tty) : TracedMemory Nat UInt8 :=
  tty.keyboard.bufferKey tty.keyboard.curTermId

/-- The key buffer of the displayed terminal, as the reader scans it. -/
def line (tty : Tty) (index : Nat) : UInt8 :=
  tty.keyBuffer.read index

end Tty

/-- The copy loop of `keyboard_read`, with `remaining` entries left before
`KEYBOARD_NUM_KEYS` is reached. -/
def copyLine (keys : Nat → UInt8) (nbytes : Int) :
    Nat → Nat → UserBuffer → Int × UserBuffer
  | 0, _, buf => (0, buf)
  | remaining + 1, i, buf =>
      if nbytes ≤ (i : Int) then (i, buf)
      else if keys i = keyNull then (i, buf.store i (keys i))
      else copyLine keys nbytes remaining (i + 1) (buf.store i (keys i))

/-- `keyboard_read` once `return_flag` has ended its wait. -/
def keyboardRead (tty : Tty) (buf : UserBuffer) (nbytes : Int) :
    Int × UserBuffer :=
  copyLine tty.line nbytes keyboardNumKeys 0 buf

/-- `keyboard_write`. -/
def keyboardWrite (console : Console) (buff : Nat → UInt8) (nbytes : Int) :
    Console × Int :=
  (forUpTo nbytes.toNat
    (fun i current => if buff i = 0 then current else current.putc (buff i))
    console, nbytes.toNat)

end ChapOS
