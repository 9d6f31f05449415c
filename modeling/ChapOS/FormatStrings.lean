import ChapOS.Console
import ChapOS.Numerals

/-!
# Format strings

`printf` scans its format with one byte a turn: the `switch` of the `while` loop and
the one behind the label `format_char_switch` share the advance of `buf`.  What it
prints is compared with the pieces of the format.  Both agree as long as the format
does not end inside a conversion; there the shared advance steps over the NUL.
-/

namespace ChapOS

open WhileLoops

/-- The character `'%'`. -/
def percentSign : UInt8 := 0x25

/-- The character `'#'`. -/
def numberSign : UInt8 := 0x23

/-- The character `'0'`. -/
def zeroDigit : UInt8 := 0x30

/-- The character `'-'`. -/
def minusSign : UInt8 := 0x2D

/-- The cases of the inner `switch` that end a conversion. -/
inductive Conversion where
  | percent
  | hexadecimal
  | unsigned
  | signed
  | character
  | string
  | unknown
  deriving DecidableEq, Repr

/-- The case of a character. -/
def Conversion.of (c : UInt8) : Conversion :=
  if c = percentSign then .percent
  else if c = 0x78 then .hexadecimal
  else if c = 0x75 then .unsigned
  else if c = 0x64 then .signed
  else if c = 0x63 then .character
  else if c = 0x73 then .string
  else .unknown

section Printing

variable {Screen : Type*}

/-- The locals of `puts`, and what it prints on. -/
structure PutsState (Screen : Type*) where
  screen : Screen
  index : Nat

/-- The loop of `puts`. -/
def putsTurn (putc : Screen → UInt8 → Screen) (s : CString) :
    PutsState Screen → Turn (PutsState Screen) (PutsState Screen) :=
  whileTurn (fun state => decide (s state.index ≠ 0))
    fun state => ⟨putc state.screen (s state.index), state.index + 1⟩

/-- `puts`. -/
def puts (putc : Screen → UInt8 → Screen) (turns : Nat) (screen : Screen) (s : CString) :
    Option Screen :=
  (runFor (putsTurn putc s) turns ⟨screen, 0⟩).map PutsState.screen

/-- The words that `printf` was called with behind its format, the strings they may
point to, and what is on the stack where a `conv_buf` will be. -/
structure PrintfCall where
  arguments : Nat → BitVec 32
  strings : BitVec 32 → CString
  stale : CString

/-- The case `'x'`. -/
def printHexadecimal (putc : Screen → UInt8 → Screen) (turns : Nat) (stale : CString)
    (alternate : Bool) (argument : BitVec 32) (screen : Screen) : Option Screen :=
  if alternate = false then
    (itoa turns ⟨stale, []⟩ argument 0 16).bind fun convBuf =>
      puts putc turns screen (stringAt convBuf 0)
  else
    (itoa turns ⟨stale, []⟩ argument 8 16).bind fun convBuf =>
      let startingIndex := strlen (stringAt convBuf 8)
      let padded := convBuf.storeSequence (fun i => startingIndex + i)
        (fun _ => zeroDigit) (8 - startingIndex)
      puts putc turns screen (stringAt padded startingIndex)

/-- The case `'u'`. -/
def printUnsigned (putc : Screen → UInt8 → Screen) (turns : Nat) (stale : CString)
    (argument : BitVec 32) (screen : Screen) : Option Screen :=
  (itoa turns ⟨stale, []⟩ argument 0 10).bind fun convBuf =>
    puts putc turns screen (stringAt convBuf 0)

/-- The case `'d'`; the negation wraps. -/
def printSigned (putc : Screen → UInt8 → Screen) (turns : Nat) (stale : CString)
    (value : BitVec 32) (screen : Screen) : Option Screen :=
  (if value.toInt < 0 then
      itoa turns (TracedMemory.store ⟨stale, []⟩ 0 minusSign) (-value) 1 10
    else itoa turns ⟨stale, []⟩ value 0 10).bind fun convBuf =>
    puts putc turns screen (stringAt convBuf 0)

/-- The cases of the inner `switch`, with the word at `esp`; `true` for `esp++`. -/
def convert (putc : Screen → UInt8 → Screen) (turns : Nat) (call : PrintfCall)
    (alternate : Bool) (argument : BitVec 32) (screen : Screen) :
    Conversion → Option (Screen × Bool)
  | .percent => some (putc screen percentSign, false)
  | .hexadecimal =>
      (printHexadecimal putc turns call.stale alternate argument screen).map fun printed =>
        (printed, true)
  | .unsigned =>
      (printUnsigned putc turns call.stale argument screen).map fun printed =>
        (printed, true)
  | .signed =>
      (printSigned putc turns call.stale argument screen).map fun printed =>
        (printed, true)
  | .character => some (putc screen (UInt8.ofNat argument.toNat), true)
  | .string =>
      (puts putc turns screen (call.strings argument)).map fun printed => (printed, true)
  | .unknown => some (screen, false)

/-- Where `printf` is about to read `*buf`: in the test of its loop, or behind
`format_char_switch`. -/
inductive Scan where
  | ordinary
  | conversion (alternate : Bool)
  deriving DecidableEq, Repr

/-- The locals of `printf`, what it prints on, and the indices of the format that it
has read, latest first. -/
structure PrintfState (Screen : Type*) where
  scan : Scan
  buf : Nat
  esp : Nat
  screen : Screen
  formatReads : List Nat

/-- One byte of the format. -/
def printfTurn (putc : Screen → UInt8 → Screen) (turns : Nat) (call : PrintfCall)
    (format : CString) (state : PrintfState Screen) :
    Turn (PrintfState Screen) (PrintfState Screen) :=
  let c := format state.buf
  let read := { state with formatReads := state.buf :: state.formatReads }
  let advanced := { read with buf := state.buf + 1 }
  match state.scan with
  | .ordinary =>
      if c = 0 then .exit read
      else if c = percentSign then .next { advanced with scan := .conversion false }
      else .next { advanced with screen := putc state.screen c }
  | .conversion alternate =>
      if c = numberSign then .next { advanced with scan := .conversion true }
      else
        .after (convert putc turns call alternate (call.arguments state.esp) state.screen
          (.of c)) fun converted =>
          -- The advance behind the outer `switch`, also when `c` was the NUL.
          .next { advanced with
            scan := .ordinary
            screen := converted.1
            esp := if converted.2 then state.esp + 1 else state.esp }

/-- `printf`; every loop of it is given the same number of turns. -/
def printf (putc : Screen → UInt8 → Screen) (turns : Nat) (call : PrintfCall)
    (format : CString) (screen : Screen) : Option (PrintfState Screen) :=
  runFor (printfTurn putc turns call format) turns ⟨.ordinary, 0, 0, screen, []⟩

end Printing

/-- A byte printed as it is, or a conversion, perhaps with a `#`. -/
inductive Piece where
  | plain (c : UInt8)
  | conversion (alternate : Bool) (kind : Conversion)
  deriving DecidableEq, Repr

/-- The pieces of a format. -/
def pieces : Scan → List UInt8 → List Piece
  | _, [] => []
  | .ordinary, c :: rest =>
      if c = percentSign then pieces (.conversion false) rest
      else .plain c :: pieces .ordinary rest
  | .conversion alternate, c :: rest =>
      if c = numberSign then pieces (.conversion true) rest
      else .conversion alternate (.of c) :: pieces .ordinary rest

/-- Whether the byte after this one is inside a conversion. -/
def Scan.next : Scan → UInt8 → Scan
  | .ordinary, c => if c = percentSign then .conversion false else .ordinary
  | .conversion _, c => if c = numberSign then .conversion true else .ordinary

/-- The format does not end inside a conversion. -/
def Complete (word : List UInt8) : Prop :=
  word.foldl Scan.next .ordinary = .ordinary

instance (word : List UInt8) : Decidable (Complete word) :=
  inferInstanceAs (Decidable (word.foldl Scan.next .ordinary = .ordinary))

/-- Whether a conversion takes an argument. -/
def Conversion.takesArgument : Conversion → Bool
  | .percent | .unknown => false
  | .hexadecimal | .unsigned | .signed | .character | .string => true

/-- The number of arguments of a piece. -/
def Piece.consumed : Piece → Nat
  | .plain _ => 0
  | .conversion _ kind => if kind.takesArgument then 1 else 0

/-- The decimal numeral of a signed number. -/
def signedNumeral (value : Int) : List UInt8 :=
  if value < 0 then minusSign :: numeral 10 value.natAbs else numeral 10 value.natAbs

/-- The hexadecimal numeral of a number, filled up to eight digits. -/
def paddedHexadecimal (value : Nat) : List UInt8 :=
  List.replicate (8 - (numeral 16 value).length) zeroDigit ++ numeral 16 value

/-- What a piece stands for; `text` gives the string at a pointer. -/
def Piece.render (text : BitVec 32 → List UInt8) (argument : BitVec 32) :
    Piece → List UInt8
  | .plain c => [c]
  | .conversion _ .percent => [percentSign]
  | .conversion false .hexadecimal => numeral 16 argument.toNat
  | .conversion true .hexadecimal => paddedHexadecimal argument.toNat
  | .conversion _ .unsigned => numeral 10 argument.toNat
  | .conversion _ .signed => signedNumeral argument.toInt
  | .conversion _ .character => [UInt8.ofNat argument.toNat]
  | .conversion _ .string => text argument
  | .conversion _ .unknown => []

/-- The pieces with the arguments from number `next` on. -/
def render (text : BitVec 32 → List UInt8) (arguments : Nat → BitVec 32) :
    Nat → List Piece → List UInt8
  | _, [] => []
  | next, piece :: rest =>
      piece.render text (arguments next) ++
        render text arguments (next + piece.consumed) rest

/-- The number of arguments of a list of pieces. -/
def argumentCount (list : List Piece) : Nat :=
  (list.map Piece.consumed).sum

/-- Every `%s` is given a pointer to the string that `text` says. -/
def StringsSpelled (call : PrintfCall) (text : BitVec 32 → List UInt8) :
    Nat → List Piece → Prop
  | _, [] => True
  | next, piece :: rest =>
      ((∃ alternate, piece = .conversion alternate .string) →
        Spells (call.strings (call.arguments next)) (text (call.arguments next))) ∧
      StringsSpelled call text (next + piece.consumed) rest

section Digits

theorem numeral_hexadecimal_length_le {value : Nat} (small : value < 2 ^ 32) :
    (numeral 16 value).length ≤ 8 := by
  rw [numeral]
  split
  · simp
  · rw [List.length_reverse, List.length_map, Nat.digits_length_le_iff (by omega) value]
    exact small

/-- `%#x` always prints eight digits. -/
theorem paddedHexadecimal_length {value : Nat} (small : value < 2 ^ 32) :
    (paddedHexadecimal value).length = 8 := by
  have atMost := numeral_hexadecimal_length_le small
  rw [paddedHexadecimal, List.length_append, List.length_replicate]
  omega

end Digits

section Printed

variable {Screen : Type*} {putc : Screen → UInt8 → Screen} {turns : Nat}

theorem putsLoop_ends {s : CString} {word : List UInt8} {index : Nat}
    (spells : SpellsFrom s index word) (enough : word.length < turns) (screen : Screen) :
    runFor (putsTurn putc s) turns ⟨screen, index⟩ =
      some ⟨word.foldl putc screen, index + word.length⟩ := by
  induction word generalizing index turns screen with
  | nil =>
      obtain ⟨turns, rfl⟩ : ∃ rest, turns = rest + 1 := ⟨turns - 1, by
        rw [List.length_nil] at enough
        omega⟩
      apply runFor_exit
      have isEnd : s index = 0 := spells
      simp [putsTurn, whileTurn, isEnd]
  | cons c rest ih =>
      rw [List.length_cons] at enough
      obtain ⟨turns, rfl⟩ : ∃ later, turns = later + 1 := ⟨turns - 1, by omega⟩
      obtain ⟨reads, notNul, tail⟩ := spells
      have goesOn : putsTurn putc s ⟨screen, index⟩ = .next ⟨putc screen c, index + 1⟩ := by
        simp [putsTurn, whileTurn, reads, notNul]
      rw [runFor_next goesOn, ih tail (by omega), List.length_cons, List.foldl_cons,
        Nat.add_right_comm, Nat.add_assoc]

/-- `puts` prints the string. -/
theorem puts_of_spells {s : CString} {word : List UInt8} (spells : Spells s word)
    (enough : word.length < turns) (screen : Screen) :
    puts putc turns screen s = some (word.foldl putc screen) := by
  rw [puts, putsLoop_ends spells enough, Option.map_some]

theorem printUnsigned_eq (stale : CString) (argument : BitVec 32) (screen : Screen)
    (enough : 32 < turns) :
    printUnsigned putc turns stale argument screen =
      some ((numeral 10 argument.toNat).foldl putc screen) := by
  obtain ⟨convBuf, ends, spells, -⟩ := @itoa_spells 10 turns (by decide) (by decide)
    ⟨stale, []⟩ argument 0 enough
  have short := @numeral_length_le 10 argument.toNat (by decide) argument.isLt
  rw [printUnsigned, ends, Option.bind_some]
  exact puts_of_spells spells (Nat.lt_of_le_of_lt short enough) screen

/-- The sign is stored in front of the digits of the negation. -/
theorem printSigned_eq (stale : CString) (value : BitVec 32) (screen : Screen)
    (enough : 33 < turns) :
    printSigned putc turns stale value screen =
      some ((signedNumeral value.toInt).foldl putc screen) := by
  by_cases negative : value.toInt < 0
  · have wraps : (-value).toNat = value.toInt.natAbs := by
      rw [BitVec.toInt_eq_toNat_cond] at negative ⊢
      rw [BitVec.toNat_neg]
      have below := value.isLt
      split at negative <;> omega
    obtain ⟨convBuf, ends, spells, stores⟩ := @itoa_spells 10 turns (by decide)
      (by decide) (TracedMemory.store ⟨stale, []⟩ 0 minusSign) (-value) 1 (by omega)
    have short := @numeral_length_le 10 (-value).toNat (by decide) (-value).isLt
    have sign : convBuf.read 0 = minusSign := by
      rw [stores.read_eq fun inside => absurd inside.1 (by decide)]
      exact TracedMemory.store_read_self _ _ _
    have signed : Spells (stringAt convBuf 0) (minusSign :: numeral 10 (-value).toNat) :=
      ⟨sign, by decide, @spellsFrom_stringAt _ 0 1 0 _ spells⟩
    rw [printSigned, if_pos negative, ends, Option.bind_some, signedNumeral,
      if_pos negative, ← wraps]
    apply puts_of_spells signed
    rw [List.length_cons]
    omega
  · have same : value.toNat = value.toInt.natAbs := by
      rw [BitVec.toInt_eq_toNat_cond] at negative ⊢
      have below := value.isLt
      split at negative <;> omega
    rw [printSigned, if_neg negative, signedNumeral, if_neg negative, ← same]
    exact printUnsigned_eq stale value screen (by omega)

/-- The zeros are stored between the index where they begin and the digits. -/
theorem printHexadecimal_alternate (stale : CString) (argument : BitVec 32)
    (screen : Screen) (enough : 32 < turns) :
    printHexadecimal putc turns stale true argument screen =
      some ((paddedHexadecimal argument.toNat).foldl putc screen) := by
  obtain ⟨convBuf, ends, spells, -⟩ := @itoa_spells 16 turns (by decide) (by decide)
    ⟨stale, []⟩ argument 8 enough
  have short := numeral_hexadecimal_length_le argument.isLt
  have length : strlen (stringAt convBuf 8) = (numeral 16 argument.toNat).length :=
    strlen_of_spells spells (by omega)
  rw [printHexadecimal, if_neg (by decide), ends, Option.bind_some, length]
  apply puts_of_spells
  · apply spellsFrom_replicate (by decide)
    · intro k kLt
      rw [Nat.zero_add, stringAt]
      exact convBuf.storeSequence_read (fun _ => zeroDigit)
        (fun first _ second _ same => Nat.add_left_cancel same) kLt
    · rw [← Nat.add_sub_of_le short] at spells
      rw [Nat.add_comm]
      apply (spellsFrom_stringAt spells).congr
      intro k low _
      rw [stringAt, stringAt]
      apply (convBuf.storeSequence_storesOnly _ _ _).read_eq
      rintro ⟨index, indexLt, same⟩
      omega
  · rw [paddedHexadecimal_length argument.isLt]
    omega

/-- Every conversion prints what it stands for. -/
theorem convert_eq {call : PrintfCall} {text : BitVec 32 → List UInt8}
    {alternate : Bool} {argument : BitVec 32} {kind : Conversion}
    (spelled : kind = .string → Spells (call.strings argument) (text argument))
    (enough : 33 < turns)
    (enoughPrinted :
      ((Piece.conversion alternate kind).render text argument).length < turns)
    (screen : Screen) :
    convert putc turns call alternate argument screen kind =
      some (((Piece.conversion alternate kind).render text argument).foldl putc screen,
        kind.takesArgument) := by
  cases kind with
  | percent => rfl
  | hexadecimal =>
      rw [convert]
      cases alternate with
      | false =>
          obtain ⟨convBuf, ends, spells, -⟩ := @itoa_spells 16 turns (by decide)
            (by decide) ⟨call.stale, []⟩ argument 0 (by omega)
          rw [printHexadecimal, if_pos rfl, ends, Option.bind_some,
            puts_of_spells spells enoughPrinted]
          rfl
      | true =>
          rw [printHexadecimal_alternate call.stale argument screen (by omega)]
          rfl
  | unsigned =>
      rw [convert, printUnsigned_eq call.stale argument screen (by omega)]
      rfl
  | signed =>
      rw [convert, printSigned_eq call.stale argument screen enough]
      rfl
  | character => rfl
  | string =>
      rw [convert, puts_of_spells (spelled rfl) enoughPrinted]
      rfl
  | unknown => rfl

end Printed

section Scanning

variable {Screen : Type*} {putc : Screen → UInt8 → Screen} {turns : Nat}
  {call : PrintfCall} {text : BitVec 32 → List UInt8} {format : CString}

theorem pieces_append (scan : Scan) (first second : List UInt8) :
    pieces scan (first ++ second) =
      pieces scan first ++ pieces (first.foldl Scan.next scan) second := by
  induction first generalizing scan with
  | nil => cases scan <;> rfl
  | cons c rest ih =>
      cases scan with
      | ordinary =>
          by_cases isPercent : c = percentSign
          · simp [pieces, Scan.next, isPercent, ih]
          · simp [pieces, Scan.next, isPercent, ih]
      | conversion alternate =>
          by_cases isSign : c = numberSign
          · simp [pieces, Scan.next, isSign, ih]
          · simp [pieces, Scan.next, isSign, ih]

theorem argumentCount_append (first second : List Piece) :
    argumentCount (first ++ second) = argumentCount first + argumentCount second := by
  rw [argumentCount, List.map_append, List.sum_append]
  rfl

theorem argumentCount_cons (piece : Piece) (rest : List Piece) :
    argumentCount (piece :: rest) = piece.consumed + argumentCount rest :=
  List.sum_cons

theorem render_append (arguments : Nat → BitVec 32) (next : Nat)
    (first second : List Piece) :
    render text arguments next (first ++ second) =
      render text arguments next first ++
        render text arguments (next + argumentCount first) second := by
  induction first generalizing next with
  | nil => rfl
  | cons piece rest ih =>
      rw [List.cons_append, render, render, ih, List.append_assoc, argumentCount_cons,
        Nat.add_assoc]

theorem stringsSpelled_append {next : Nat} {first second : List Piece} :
    StringsSpelled call text next (first ++ second) ↔
      StringsSpelled call text next first ∧
        StringsSpelled call text (next + argumentCount first) second := by
  induction first generalizing next with
  | nil => exact (and_iff_right trivial).symm
  | cons piece rest ih =>
      rw [List.cons_append, StringsSpelled, StringsSpelled, ih, argumentCount_cons,
        Nat.add_assoc, and_assoc]

/-- `printf` behind a part of its format. -/
def PrintfState.past (putc : Screen → UInt8 → Screen) (text : BitVec 32 → List UInt8)
    (arguments : Nat → BitVec 32) (word : List UInt8) (state : PrintfState Screen) :
    PrintfState Screen where
  scan := word.foldl Scan.next state.scan
  buf := state.buf + word.length
  esp := state.esp + argumentCount (pieces state.scan word)
  screen := (render text arguments state.esp (pieces state.scan word)).foldl putc
    state.screen
  formatReads := (List.range' state.buf word.length).reverse ++ state.formatReads

theorem PrintfState.past_cons (arguments : Nat → BitVec 32) (c : UInt8)
    (rest : List UInt8) (state : PrintfState Screen) :
    state.past putc text arguments (c :: rest) =
      (state.past putc text arguments [c]).past putc text arguments rest := by
  have same := pieces_append state.scan [c] rest
  rw [List.singleton_append] at same
  simp [PrintfState.past, same, argumentCount_append, render_append, List.range'_succ,
    Nat.add_assoc, Nat.add_comm 1]

/-- Every byte of the format takes one turn. -/
theorem printfTurn_eq {c : UInt8} {state : PrintfState Screen}
    (isChar : format state.buf = c) (notNul : c ≠ 0)
    (spelled : StringsSpelled call text state.esp (pieces state.scan [c]))
    (enough : 33 < turns)
    (enoughPrinted :
      (render text call.arguments state.esp (pieces state.scan [c])).length < turns) :
    printfTurn putc turns call format state =
      .next (state.past putc text call.arguments [c]) := by
  obtain ⟨scan, buf, esp, screen, formatReads⟩ := state
  dsimp only at isChar spelled enoughPrinted
  cases scan with
  | ordinary =>
      by_cases isPercent : c = percentSign
      · simp [printfTurn, PrintfState.past, pieces, Scan.next, isChar, isPercent, render,
          argumentCount]
        decide
      · simp [printfTurn, PrintfState.past, pieces, Scan.next, isChar, notNul, isPercent,
          render, argumentCount, Piece.render, Piece.consumed]
  | conversion alternate =>
      by_cases isSign : c = numberSign
      · simp [printfTurn, PrintfState.past, pieces, Scan.next, isChar, isSign, render,
          argumentCount]
      · have single : pieces (.conversion alternate) [c] = [.conversion alternate (.of c)] :=
          if_neg isSign
        rw [single] at spelled enoughPrinted
        rw [render, render, List.append_nil] at enoughPrinted
        have converts := @convert_eq _ putc _ _ _ _ _ _
          (fun isString => spelled.1 ⟨alternate, by rw [isString]⟩) enough enoughPrinted screen
        simp only [printfTurn, isChar, if_neg isSign, converts, Turn.after,
          PrintfState.past, single, render, List.append_nil]
        simp [Scan.next, isSign, argumentCount, Piece.consumed]
        split <;> rfl

/-- The turns of a part of the format print its pieces. -/
theorem printf_leads {word : List UInt8} {state : PrintfState Screen}
    (spells : SpellsFrom format state.buf word)
    (spelled : StringsSpelled call text state.esp (pieces state.scan word))
    (enough : 33 < turns)
    (enoughPrinted :
      (render text call.arguments state.esp (pieces state.scan word)).length < turns) :
    Leads (printfTurn putc turns call format) word.length state
      (state.past putc text call.arguments word) := by
  induction word generalizing state with
  | nil =>
      obtain ⟨scan, buf, esp, screen, formatReads⟩ := state
      cases scan <;> exact .refl _
  | cons c rest ih =>
      obtain ⟨isChar, notNul, tail⟩ := spells
      have same := pieces_append state.scan [c] rest
      rw [List.singleton_append] at same
      rw [same, stringsSpelled_append] at spelled
      rw [same, render_append, List.length_append] at enoughPrinted
      rw [PrintfState.past_cons]
      apply Leads.next
      · exact printfTurn_eq isChar notNul spelled.1 enough (by omega)
      · apply ih tail spelled.2
        exact Nat.lt_of_le_of_lt (Nat.le_add_left _ _) enoughPrinted

/-- A turn reads the byte at `buf`. -/
theorem printfTurn_reads {state : PrintfState Screen} :
    (∀ after, printfTurn putc turns call format state = .next after →
      after.formatReads = state.buf :: state.formatReads) ∧
    ∀ final, printfTurn putc turns call format state = .exit final →
      final.formatReads = state.buf :: state.formatReads := by
  obtain ⟨scan, buf, esp, screen, formatReads⟩ := state
  cases scan with
  | ordinary =>
      unfold printfTurn
      dsimp only
      split
      · simp +contextual
      · split <;> simp +contextual
  | conversion alternate =>
      unfold printfTurn
      dsimp only
      split
      · simp +contextual
      · cases convert putc turns call alternate (call.arguments esp) screen
          (.of (format buf)) with
        | none => simp [Turn.after]
        | some converted => simp +contextual [Turn.after]

/-- The NUL is an unknown conversion, and `buf` goes past it. -/
theorem printfTurn_nul {alternate : Bool} {state : PrintfState Screen}
    (inside : state.scan = .conversion alternate) (isNul : format state.buf = 0) :
    printfTurn putc turns call format state =
      .next { state with
        scan := .ordinary
        buf := state.buf + 1
        formatReads := state.buf :: state.formatReads } := by
  have unknown : convert putc turns call alternate (call.arguments state.esp) state.screen
      (.of 0) = some (state.screen, false) := rfl
  rw [printfTurn, inside, isNul]
  dsimp only
  rw [if_neg (by decide), unknown]
  rfl

/-- What has been read stays read. -/
theorem printfRun_reads {more : Nat} {state final : PrintfState Screen}
    (ends : runFor (printfTurn putc turns call format) more state = some final) :
    state.buf ∈ final.formatReads ∧
      ∀ index ∈ state.formatReads, index ∈ final.formatReads := by
  induction more generalizing state with
  | zero => cases ends
  | succ more ih =>
      have reads := @printfTurn_reads _ putc turns call format state
      rw [runFor] at ends
      cases step : printfTurn putc turns call format state with
      | next after =>
          rw [step] at ends
          have kept := (ih ends).2
          rw [reads.1 after step] at kept
          exact ⟨kept _ List.mem_cons_self, fun index mem =>
            kept index (List.mem_cons_of_mem _ mem)⟩
      | exit last =>
          rw [step] at ends
          obtain rfl := Option.some.inj ends
          rw [reads.2 last step]
          exact ⟨List.mem_cons_self, fun index mem => List.mem_cons_of_mem _ mem⟩
      | stuck =>
          rw [step] at ends
          cases ends

end Scanning

section Rendering

variable {Screen : Type*} {putc : Screen → UInt8 → Screen} {call : PrintfCall}
  {text : BitVec 32 → List UInt8} {format : CString} {word : List UInt8}

/-- With enough turns `printf` ends at the NUL of its format without having read a byte
behind it, has taken one argument for each conversion that takes one, and has printed
what the pieces of the format stand for. -/
def Renders (putc : Screen → UInt8 → Screen) (call : PrintfCall)
    (text : BitVec 32 → List UInt8) (format : CString) (word : List UInt8)
    (screen : Screen) : Prop :=
  ∃ enough final,
    (∀ turns, enough ≤ turns → printf putc turns call format screen = some final) ∧
    (∀ index ∈ final.formatReads, index ≤ word.length) ∧
    final.buf = word.length ∧
    final.esp = argumentCount (pieces .ordinary word) ∧
    final.screen =
      (render text call.arguments 0 (pieces .ordinary word)).foldl putc screen

theorem renders_of_complete (spells : Spells format word)
    (spelled : StringsSpelled call text 0 (pieces .ordinary word))
    (complete : Complete word) (screen : Screen) :
    Renders putc call text format word screen := by
  let printed := render text call.arguments 0 (pieces .ordinary word)
  refine ⟨word.length + printed.length + 34,
    ⟨.ordinary, word.length, argumentCount (pieces .ordinary word),
      printed.foldl putc screen, word.length :: (List.range' 0 word.length).reverse⟩,
    ?_, ?_, rfl, rfl, rfl⟩
  · intro turns enough
    have leads := @printf_leads _ putc turns call text format word
      ⟨.ordinary, 0, 0, screen, []⟩ spells spelled (by omega)
      (show printed.length < turns by omega)
    obtain ⟨more, isMore⟩ : ∃ more, turns = word.length + (more + 1) :=
      ⟨turns - word.length - 1, by omega⟩
    have isEnd := spells.read (Nat.le_refl word.length)
    rw [cString_length] at isEnd
    have exits : printfTurn putc turns call format
        (PrintfState.past putc text call.arguments word ⟨.ordinary, 0, 0, screen, []⟩) =
        .exit ⟨.ordinary, word.length, argumentCount (pieces .ordinary word),
          printed.foldl putc screen,
          word.length :: (List.range' 0 word.length).reverse⟩ := by
      have scan : word.foldl Scan.next .ordinary = .ordinary := complete
      simp [printfTurn, PrintfState.past, scan, isEnd, printed]
    rw [printf]
    conv => lhs; arg 2; rw [isMore]
    rw [leads.runFor_add, runFor_exit exits]
  · intro index isRead
    rcases List.mem_cons.mp isRead with rfl | isEarlier
    · exact Nat.le_refl _
    · have inside := List.mem_range'_1.mp (List.mem_reverse.mp isEarlier)
      omega

/-- At the NUL inside a conversion, the shared advance leads on to the byte behind. -/
theorem not_renders_of_incomplete (spells : Spells format word)
    (spelled : StringsSpelled call text 0 (pieces .ordinary word))
    (incomplete : ¬Complete word) (screen : Screen) :
    ¬Renders putc call text format word screen := by
  rintro ⟨enough, final, ends, within, -⟩
  have isEnd := spells.read (Nat.le_refl word.length)
  rw [cString_length] at isEnd
  obtain ⟨alternate, inside⟩ :
      ∃ alternate, word.foldl Scan.next .ordinary = .conversion alternate := by
    cases scan : word.foldl Scan.next .ordinary with
    | ordinary => exact absurd scan incomplete
    | conversion alternate => exact ⟨alternate, rfl⟩
  obtain ⟨more, isMore⟩ : ∃ more, more = enough +
      (render text call.arguments 0 (pieces .ordinary word)).length + 34 := ⟨_, rfl⟩
  have leads := @printf_leads _ putc (word.length + (more + 1)) call text format word
    ⟨.ordinary, 0, 0, screen, []⟩ spells spelled (by omega) (by dsimp only; omega)
  have past := @printfTurn_nul _ putc (word.length + (more + 1)) call format alternate
    (PrintfState.past putc text call.arguments word ⟨.ordinary, 0, 0, screen, []⟩)
    inside (by simpa [PrintfState.past] using isEnd)
  have ended := ends (word.length + (more + 1)) (by omega)
  rw [printf, leads.runFor_add, runFor_next past] at ended
  have isRead := (printfRun_reads ended).1
  have reached := within _ isRead
  simp only [PrintfState.past] at reached
  omega

/-- For every terminated format, `printf` prints what it stands for and stops at its end
exactly when the format does not end inside a conversion. -/
theorem printf_renders_iff (spells : Spells format word)
    (spelled : StringsSpelled call text 0 (pieces .ordinary word)) (screen : Screen) :
    Renders putc call text format word screen ↔ Complete word := by
  constructor
  · intro renders
    by_contra incomplete
    exact not_renders_of_incomplete spells spelled incomplete screen renders
  · intro complete
    exact renders_of_complete spells spelled complete screen

/-- `"%s: %d%%"` with `"x"` and the least number. -/
theorem printf_renders_string :
    Renders (fun printed c => printed ++ [c])
      ⟨fun i => if i = 0 then 0x1000 else 0x80000000, fun _ => cString [0x78],
        fun _ => 0xAA⟩
      (fun _ => [0x78]) (cString [0x25, 0x73, 0x3A, 0x20, 0x25, 0x64, 0x25, 0x25])
      [0x25, 0x73, 0x3A, 0x20, 0x25, 0x64, 0x25, 0x25] [] := by
  apply (printf_renders_iff _ _ _).mpr
  · decide
  · exact spells_cString (by simp)
  · have spelled : Spells (cString [0x78]) [0x78] := spells_cString (by simp)
    exact ⟨fun _ => spelled, fun _ => spelled, fun _ => spelled, fun _ => spelled,
      fun _ => spelled, trivial⟩

/-- The format `"%"`: `printf` reads on behind the NUL and prints what it finds there. -/
theorem printf_percent :
    Spells (cString [0x25, 0, 0x41]) [0x25] ∧
      ¬Renders (fun printed c => printed ++ [c]) ⟨fun _ => 0, fun _ => cString [], fun _ => 0⟩
        (fun _ => []) (cString [0x25, 0, 0x41]) [0x25] [] ∧
      printf (fun printed c => printed ++ [c]) 4
        ⟨fun _ => 0, fun _ => cString [], fun _ => 0⟩ (cString [0x25, 0, 0x41]) [] =
        some ⟨.ordinary, 3, 0, [0x41], [3, 2, 1, 0]⟩ := by
  have spells : Spells (cString [0x25, 0, 0x41]) [0x25] := ⟨rfl, by decide, rfl⟩
  refine ⟨spells, ?_, rfl⟩
  exact not_renders_of_incomplete spells trivial (by decide) []

theorem pieces_plain (plain : ∀ c ∈ word, c ≠ percentSign) :
    pieces .ordinary word = word.map Piece.plain ∧ Complete word := by
  induction word with
  | nil => exact ⟨rfl, rfl⟩
  | cons c rest ih =>
      obtain ⟨same, complete⟩ := ih fun c mem => plain c (List.mem_cons_of_mem _ mem)
      have notPercent := plain c List.mem_cons_self
      rw [pieces, if_neg notPercent, same, Complete, List.foldl_cons, Scan.next,
        if_neg notPercent]
      exact ⟨rfl, complete⟩

theorem render_plain (arguments : Nat → BitVec 32) (next : Nat) (word : List UInt8) :
    render text arguments next (word.map Piece.plain) = word := by
  induction word generalizing next with
  | nil => rfl
  | cons c rest ih =>
      rw [List.map_cons, render, ih]
      rfl

theorem stringsSpelled_plain (next : Nat) (word : List UInt8) :
    StringsSpelled call text next (word.map Piece.plain) := by
  induction word generalizing next with
  | nil => trivial
  | cons c rest ih => exact ⟨by simp, ih _⟩

/-- On the console, a format without conversions is printed as it is. -/
theorem printf_plain {format : String} {bytes : List UInt8}
    (isFormat : bytes = format.toList.map fun c => UInt8.ofNat c.toNat)
    (noNul : ∀ c ∈ bytes, c ≠ 0) (plain : ∀ c ∈ bytes, c ≠ percentSign)
    (console : Console) :
    ∃ enough final,
      (∀ turns, enough ≤ turns →
        printf Console.putc turns call (cString bytes) console = some final) ∧
      final.screen = console.printfPlain format := by
  obtain ⟨same, complete⟩ := pieces_plain plain
  have spelled : StringsSpelled call (fun _ => []) 0 (pieces .ordinary bytes) := by
    rw [same]
    exact stringsSpelled_plain 0 bytes
  obtain ⟨enough, final, ends, -, -, -, screen⟩ :=
    @renders_of_complete _ Console.putc call _ _ bytes (spells_cString noNul) spelled
      complete console
  refine ⟨enough, final, ends, ?_⟩
  rw [screen, same, render_plain, isFormat]
  rfl

/-- The formats that the kernel prints without arguments. -/
def kernelMessages : List String :=
  ["Too many processes\n", " \n", "See arg Space\n", "launch fail", "Enabling Interrupts\n"]

/-- What the kernel does for its messages is what `printf` does with them. -/
theorem printf_message {message : String} (isMessage : message ∈ kernelMessages)
    (console : Console) :
    ∃ enough final,
      (∀ turns, enough ≤ turns →
        printf Console.putc turns call
          (cString (message.toList.map fun c => UInt8.ofNat c.toNat)) console = some final) ∧
      final.screen = console.printfPlain message := by
  have unbroken : ∀ message ∈ kernelMessages,
      (∀ c ∈ message.toList.map fun c => UInt8.ofNat c.toNat, c ≠ 0) ∧
        ∀ c ∈ message.toList.map fun c => UInt8.ofNat c.toNat, c ≠ percentSign := by
    decide +kernel
  obtain ⟨noNul, plain⟩ := unbroken message isMessage
  exact printf_plain rfl noNul plain console

end Rendering

end ChapOS
