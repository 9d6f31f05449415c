import ChapOS.CStrings
import ChapOS.TracedMemory
import ChapOS.WhileLoops
import Mathlib.Data.Nat.Digits.Lemmas

/-!
# Numerals

`itoa` stores the digits of a number from the lowest to the highest and has
`strrev` exchange them in place.  The string it leaves is the numeral of the number
in the given radix.
-/

namespace ChapOS

open WhileLoops

/-- The characters of the `lookup` string of `itoa`. -/
def numeralSymbols : List UInt8 :=
  "0123456789ABCDEFGHIJKLMNOPQRSTUVWXYZ".toList.map fun c => UInt8.ofNat c.toNat

/-- `lookup`. -/
def lookup : CString :=
  cString numeralSymbols

/-- The string at a pointer. -/
def stringAt (memory : TracedMemory Nat UInt8) (s : Nat) : CString :=
  fun i => memory.read (s + i)

/-- The locals of `strrev`; `last` is its `end`. -/
structure StrrevState where
  memory : TracedMemory Nat UInt8
  beg : Int
  last : Int

/-- The body of the loop of `strrev`. -/
def strrevBody (s : Nat) (state : StrrevState) : StrrevState :=
  let tmp := state.memory.read (s + state.last).toNat
  let moved := state.memory.store (s + state.last).toNat
    (state.memory.read (s + state.beg).toNat)
  { memory := moved.store (s + state.beg).toNat tmp
    beg := state.beg + 1
    last := state.last - 1 }

/-- The loop of `strrev`. -/
def strrevTurn (s : Nat) : StrrevState → Turn StrrevState StrrevState :=
  whileTurn (fun state => decide (state.beg < state.last)) (strrevBody s)

/-- `strrev`. -/
def strrev (turns : Nat) (memory : TracedMemory Nat UInt8) (s : Nat) :
    Option (TracedMemory Nat UInt8) :=
  (runFor (strrevTurn s) turns
    { memory := memory
      beg := 0
      last := (BitVec.ofNat 32 (strlen (stringAt memory s)) - 1).toInt }).map
    StrrevState.memory

/-- The locals of `itoa`. -/
structure ItoaState where
  memory : TracedMemory Nat UInt8
  newbuf : Nat
  newval : BitVec 32

/-- The body of the loop of `itoa`. -/
def itoaBody (radix : BitVec 32) (state : ItoaState) : ItoaState :=
  let i := (state.newval % radix).toNat
  { memory := state.memory.store state.newbuf (lookup i)
    newbuf := state.newbuf + 1
    newval := state.newval / radix }

/-- The loop of `itoa`. -/
def itoaTurn (radix : BitVec 32) : ItoaState → Turn ItoaState ItoaState :=
  whileTurn (fun state => decide (0 < state.newval)) (itoaBody radix)

/-- `itoa`; `none` for a radix of 0 is the exception of the division. -/
def itoa (turns : Nat) (memory : TracedMemory Nat UInt8) (value : BitVec 32)
    (buf : Nat) (radix : BitVec 32) : Option (TracedMemory Nat UInt8) :=
  if value = 0 then some ((memory.store buf 0x30).store (buf + 1) 0)
  else if radix = 0 then none
  else
    (runFor (itoaTurn radix) turns ⟨memory, buf, value⟩).bind fun done =>
      strrev turns (done.memory.store done.newbuf 0) buf

/-- The digits of a number, the highest first, and a single 0 for 0. -/
def numeral (radix value : Nat) : List UInt8 :=
  if value = 0 then [lookup 0]
  else ((Nat.digits radix value).map lookup).reverse

/-- The number that a string of digits stands for. -/
def positionalValue (radix : Nat) (text : List UInt8) : Nat :=
  text.foldl (fun value c => value * radix + numeralSymbols.idxOf c) 0

/-- A string of digits of the radix, without a leading zero unless it stands for 0. -/
structure IsNumeral (radix value : Nat) (text : List UInt8) : Prop where
  nonempty : text ≠ []
  symbols : ∀ c ∈ text, c ∈ numeralSymbols.take radix
  noLeadingZero : value ≠ 0 → text.head? ≠ some (lookup 0)
  value : positionalValue radix text = value

section Numeral

theorem numeralSymbols_nodup : numeralSymbols.Nodup := by decide

theorem numeralSymbols_length : numeralSymbols.length = 36 := rfl

theorem numeralSymbols_noNul : 0 ∉ numeralSymbols := by decide

theorem lookup_eq {digit : Nat} (digitLt : digit < 36) :
    lookup digit = numeralSymbols.get ⟨digit, digitLt⟩ := by
  show numeralSymbols.getD digit 0 = _
  rw [List.getD_eq_getElem?_getD, List.getElem?_eq_getElem digitLt, Option.getD_some]
  rfl

theorem idxOf_lookup {digit : Nat} (digitLt : digit < 36) :
    numeralSymbols.idxOf (lookup digit) = digit := by
  rw [lookup_eq digitLt]
  exact numeralSymbols_nodup.idxOf_getElem digit digitLt

theorem lookup_mem_take {digit radix : Nat} (digitLt : digit < radix)
    (high : radix ≤ 36) : lookup digit ∈ numeralSymbols.take radix := by
  rw [lookup_eq (show digit < 36 by omega)]
  apply List.mem_take_iff_getElem.mpr
  refine ⟨digit, ?_, rfl⟩
  rw [numeralSymbols_length]
  omega

theorem positionalValue_reverse {radix : Nat} (high : radix ≤ 36) {digits : List Nat}
    (digitsLt : ∀ digit ∈ digits, digit < radix) :
    positionalValue radix (digits.map lookup).reverse = Nat.ofDigits radix digits := by
  rw [positionalValue, List.foldl_reverse]
  induction digits with
  | nil => rfl
  | cons digit digits ih =>
      have digitLt := digitsLt digit List.mem_cons_self
      rw [List.map_cons, List.foldr_cons, Nat.ofDigits_cons,
        ih fun other mem => digitsLt other (List.mem_cons_of_mem _ mem),
        idxOf_lookup (by omega)]
      rw [Nat.mul_comm, Nat.add_comm]

/-- The digits of a number make a numeral of it. -/
theorem isNumeral_numeral {radix : Nat} (low : 2 ≤ radix) (high : radix ≤ 36)
    (value : Nat) : IsNumeral radix value (numeral radix value) := by
  have digitsLt (digit : Nat) (mem : digit ∈ Nat.digits radix value) : digit < radix :=
    Nat.digits_lt_base (by omega) mem
  by_cases isZero : value = 0
  · rw [numeral, if_pos isZero]
    refine ⟨by simp, ?_, fun positive => absurd isZero positive, ?_⟩
    · intro c mem
      rw [List.mem_singleton.mp mem]
      exact lookup_mem_take (by omega) high
    · rw [isZero, positionalValue, List.foldl_cons, List.foldl_nil,
        idxOf_lookup (by omega)]
      omega
  · rw [numeral, if_neg isZero]
    refine ⟨?_, ?_, fun _ => ?_, ?_⟩
    · simpa [Nat.digits_eq_nil_iff_eq_zero] using isZero
    · intro c mem
      obtain ⟨digit, digitMem, rfl⟩ := List.mem_map.mp (List.mem_reverse.mp mem)
      exact lookup_mem_take (digitsLt digit digitMem) high
    · have notNil : Nat.digits radix value ≠ [] := Nat.digits_ne_nil_iff_ne_zero.mpr isZero
      have top := Nat.getLast_digit_ne_zero radix isZero
      have topLt := digitsLt _ (List.getLast_mem notNil)
      rw [List.head?_reverse, List.getLast?_map, List.getLast?_eq_some_getLast notNil,
        Option.map_some]
      intro same
      apply top
      rw [← idxOf_lookup (show (Nat.digits radix value).getLast notNil < 36 by omega),
        Option.some.inj same, idxOf_lookup (by omega)]
    · rw [positionalValue_reverse high digitsLt, Nat.ofDigits_digits]

/-- The string alone tells the number. -/
theorem IsNumeral.value_unique {radix first second : Nat} {text : List UInt8}
    (isFirst : IsNumeral radix first text) (isSecond : IsNumeral radix second text) :
    first = second :=
  isFirst.value.symm.trans isSecond.value

theorem numeral_noNul {radix : Nat} (low : 2 ≤ radix) (high : radix ≤ 36)
    (value : Nat) : ∀ c ∈ numeral radix value, c ≠ 0 := by
  rintro c mem rfl
  have symbol := (isNumeral_numeral low high value).symbols 0 mem
  exact numeralSymbols_noNul (List.mem_of_mem_take symbol)

/-- A 32-bit number has at most 32 digits. -/
theorem numeral_length_le {radix value : Nat} (low : 2 ≤ radix)
    (small : value < 2 ^ 32) : (numeral radix value).length ≤ 32 := by
  rw [numeral]
  split
  · simp
  · rw [List.length_reverse, List.length_map,
      Nat.digits_length_le_iff (by omega) value]
    calc value < 2 ^ 32 := small
      _ ≤ radix ^ 32 := Nat.pow_le_pow_left low 32

end Numeral

/-- A word that is read behind a pointer is a word of the memory further on. -/
theorem spellsFrom_stringAt {memory : TracedMemory Nat UInt8} {s offset i : Nat}
    {word : List UInt8} (spells : SpellsFrom (stringAt memory (s + offset)) i word) :
    SpellsFrom (stringAt memory s) (offset + i) word := by
  induction word generalizing i with
  | nil =>
      show memory.read (s + (offset + i)) = 0
      rw [← Nat.add_assoc]
      exact spells
  | cons character rest ih =>
      obtain ⟨reads, notNul, tail⟩ := spells
      refine ⟨?_, notNul, ih tail⟩
      rw [stringAt, ← Nat.add_assoc]
      exact reads

section Reversal

/-- The addresses of a string of a given length. -/
def stringRegion (s length : Nat) : Set Nat :=
  { address | s ≤ address ∧ address < s + length }

/-- The characters outside `beg..last` have been exchanged, and those inside are as
they were. -/
structure Exchanged (before : TracedMemory Nat UInt8) (s length : Nat)
    (state : StrrevState) : Prop where
  low : 0 ≤ state.beg
  mirrored : state.beg + state.last = (length : Int) - 1
  met : state.beg ≤ state.last + 2
  stores : TracedMemory.StoresOnly (stringRegion s length) before state.memory
  reads : ∀ i < length, state.memory.read (s + i) =
    if (i : Int) < state.beg ∨ state.last < i then before.read (s + (length - 1 - i))
    else before.read (s + i)

/-- One turn of the loop exchanges two characters. -/
theorem Exchanged.body {before : TracedMemory Nat UInt8} {s length : Nat}
    {state : StrrevState} (exchanged : Exchanged before s length state)
    (apart : state.beg < state.last) :
    Exchanged before s length (strrevBody s state) := by
  obtain ⟨memory, beg, last⟩ := state
  obtain ⟨low, mirrored, -, stores, reads⟩ := exchanged
  dsimp only at low mirrored stores reads apart
  lift beg to Nat using low
  lift last to Nat using (by omega)
  have atBeg := reads beg (by omega)
  have atLast := reads last (by omega)
  rw [if_neg (by omega)] at atBeg atLast
  have first : ((s : Int) + beg).toNat = s + beg := by omega
  have second : ((s : Int) + last).toNat = s + last := by omega
  simp only [strrevBody, first, second]
  refine ⟨by dsimp only; omega, by dsimp only; omega, by dsimp only; omega, ?_, ?_⟩
  · refine (stores.andStore _ ?_).andStore _ ?_
    · exact ⟨by omega, by omega⟩
    · exact ⟨by omega, by omega⟩
  · intro i iLt
    dsimp only
    rw [TracedMemory.store_read, TracedMemory.store_read, atBeg, atLast]
    by_cases isBeg : i = beg
    · subst isBeg
      rw [if_pos rfl, if_pos (by omega), show length - 1 - i = last by omega]
    · rw [if_neg (by omega)]
      by_cases isLast : i = last
      · subst isLast
        rw [if_pos rfl, if_pos (by omega), show length - 1 - i = beg by omega]
      · rw [if_neg (by omega), reads i iLt]
        have sameSide : ((i : Int) < beg + 1 ∨ (last : Int) - 1 < i) ↔
            ((i : Int) < beg ∨ (last : Int) < i) := by omega
        simp only [sameSide]

/-- `strrev` reverses a string in place. -/
theorem strrev_of_spells {memory : TracedMemory Nat UInt8} {s : Nat}
    {word : List UInt8} (spells : Spells (stringAt memory s) word)
    (short : word.length < 2 ^ 31) {turns : Nat} (enough : word.length < turns) :
    ∃ after, strrev turns memory s = some after ∧
      Spells (stringAt after s) word.reverse ∧
      TracedMemory.StoresOnly (stringRegion s word.length) memory after := by
  have start : (BitVec.ofNat 32 (strlen (stringAt memory s)) - 1).toInt =
      (word.length : Int) - 1 := by
    have length : (BitVec.ofNat 32 word.length).toInt = word.length := by
      rw [BitVec.toInt_ofNat', Int.bmod_eq_of_le (by omega) (by omega)]
    have one : BitVec.toInt (1 : BitVec 32) = 1 := rfl
    rw [strlen_of_spells spells (by omega), BitVec.toInt_sub, length, one]
    exact Int.bmod_eq_of_le (by omega) (by omega)
  have ended : ∃ done, runFor (strrevTurn s) turns ⟨memory, 0, (word.length : Int) - 1⟩ =
      some done ∧ Exchanged memory s word.length done ∧
        decide (done.beg < done.last) = false := by
    apply while_of_variant (Exchanged memory s word.length)
      fun state => (state.last - state.beg).toNat
    · intro state exchanged apart
      have low := exchanged.low
      rw [decide_eq_true_iff] at apart
      refine ⟨exchanged.body apart, ?_⟩
      simp only [strrevBody]
      omega
    · refine ⟨Int.le_refl 0, by dsimp only; omega, by dsimp only; omega, .refl _ _, ?_⟩
      intro i iLt
      rw [if_neg (by dsimp only; omega)]
    · dsimp only
      omega
  obtain ⟨done, ends, exchanged, stopped⟩ := ended
  rw [decide_eq_false_iff_not] at stopped
  refine ⟨done.memory, ?_, ?_, exchanged.stores⟩
  · rw [strrev, start, ends]
    rfl
  · apply spells_of_read
    · intro c mem
      exact spells.noNul c (List.mem_reverse.mp mem)
    · intro k inside
      rw [List.length_reverse] at inside
      by_cases atEnd : k = word.length
      · have kept : done.memory.read (s + k) = memory.read (s + k) := by
          apply exchanged.stores.read_eq
          rintro ⟨-, high⟩
          omega
        have reversedEnd := cString_length word.reverse
        rw [List.length_reverse, ← atEnd] at reversedEnd
        rw [reversedEnd, stringAt, kept, ← cString_length word, ← atEnd]
        exact spells.read inside
      · have mirrored := exchanged.mirrored
        have low := exchanged.low
        rw [cString_reverse (by omega), ← spells.read (by omega), stringAt,
          exchanged.reads k (by omega)]
        split
        · rfl
        · rw [show word.length - 1 - k = k by omega]
          rfl

end Reversal

section Itoa

variable {radix value : BitVec 32} {turns : Nat}

theorem itoaTurn_exit {state : ItoaState}
    (isDigits : Nat.digits radix.toNat state.newval.toNat = []) :
    itoaTurn radix state = .exit state := by
  have isZero : ¬0 < state.newval := by
    rw [Nat.digits_eq_nil_iff_eq_zero] at isDigits
    rw [BitVec.lt_def, isDigits]
    exact Nat.lt_irrefl 0
  rw [itoaTurn, whileTurn, decide_eq_false isZero]
  rfl

/-- A turn takes the lowest digit off `newval` and stores it. -/
theorem itoaTurn_digit (low : 2 ≤ radix.toNat) {state : ItoaState} {digit : Nat}
    {rest : List Nat}
    (isDigits : Nat.digits radix.toNat state.newval.toNat = digit :: rest) :
    ∃ after, itoaTurn radix state = .next after ∧
      Nat.digits radix.toNat after.newval.toNat = rest ∧
      after.newbuf = state.newbuf + 1 ∧
      after.memory = state.memory.store state.newbuf (lookup digit) := by
  have positive : 0 < state.newval.toNat := by
    apply Nat.pos_of_ne_zero
    intro isZero
    rw [isZero, Nat.digits_zero] at isDigits
    exact nomatch isDigits
  rw [Nat.digits_def' (by omega) positive] at isDigits
  obtain ⟨isDigit, isRest⟩ := List.cons.inj isDigits
  refine ⟨itoaBody radix state, ?_, ?_, rfl, ?_⟩
  · have tested : 0 < state.newval := BitVec.lt_def.mpr positive
    rw [itoaTurn, whileTurn, decide_eq_true tested]
    rfl
  · have divided : (itoaBody radix state).newval.toNat =
        state.newval.toNat / radix.toNat := BitVec.toNat_udiv
    rw [divided, isRest]
  · rw [← isDigit]
    rfl

/-- The loop stores the digits of `newval`, the lowest first. -/
theorem itoaLoop_ends (low : 2 ≤ radix.toNat) (state : ItoaState)
    (enough : (Nat.digits radix.toNat state.newval.toNat).length < turns) :
    ∃ done, runFor (itoaTurn radix) turns state = some done ∧
      done.newbuf = state.newbuf + (Nat.digits radix.toNat state.newval.toNat).length ∧
      (∀ i < (Nat.digits radix.toNat state.newval.toNat).length,
        done.memory.read (state.newbuf + i) =
          cString ((Nat.digits radix.toNat state.newval.toNat).map lookup) i) ∧
      TracedMemory.StoresOnly
        (stringRegion state.newbuf (Nat.digits radix.toNat state.newval.toNat).length)
        state.memory done.memory := by
  induction isDigits : Nat.digits radix.toNat state.newval.toNat
    generalizing state turns with
  | nil =>
      obtain ⟨turns, rfl⟩ : ∃ rest, turns = rest + 1 := ⟨turns - 1, by omega⟩
      exact ⟨state, runFor_exit (itoaTurn_exit isDigits) turns, rfl,
        fun i iLt => absurd iLt (Nat.not_lt_zero i), .refl _ _⟩
  | cons digit rest ih =>
      rw [isDigits, List.length_cons] at enough
      obtain ⟨turns, rfl⟩ : ∃ later, turns = later + 1 := ⟨turns - 1, by omega⟩
      obtain ⟨after, goesOn, isRest, nextBuf, stored⟩ := itoaTurn_digit low isDigits
      obtain ⟨done, ends, newbuf, reads, stores⟩ :=
        @ih turns after (by rw [isRest]; omega) isRest
      rw [nextBuf] at newbuf reads stores
      rw [stored] at stores
      refine ⟨done, (runFor_next goesOn turns).trans ends, ?_, ?_, ?_⟩
      · rw [newbuf, List.length_cons]
        omega
      · intro i iLt
        cases i with
        | zero =>
            rw [Nat.add_zero, stores.read_eq (by rintro ⟨low, -⟩; omega),
              TracedMemory.store_read_self]
            rfl
        | succ i =>
            rw [List.length_cons] at iLt
            rw [show state.newbuf + (i + 1) = state.newbuf + 1 + i by omega,
              reads i (by omega)]
            rfl
      · rw [List.length_cons]
        have first : state.newbuf ∈ stringRegion state.newbuf (rest.length + 1) :=
          ⟨Nat.le_refl _, by omega⟩
        refine (TracedMemory.store_storesOnly state.memory (lookup digit) first).trans
          (stores.mono ?_)
        rintro address ⟨above, below⟩
        exact ⟨by omega, by omega⟩

theorem itoa_zero_spells (memory : TracedMemory Nat UInt8) (buf : Nat) :
    ∃ after, itoa turns memory 0 buf radix = some after ∧
      Spells (stringAt after buf) [lookup 0] ∧
      TracedMemory.StoresOnly (stringRegion buf 2) memory after := by
  refine ⟨(memory.store buf 0x30).store (buf + 1) 0, by rw [itoa, if_pos rfl], ?_, ?_⟩
  · refine ⟨?_, by decide, ?_⟩
    · show ((memory.store buf 0x30).store (buf + 1) 0).read buf = lookup 0
      rw [TracedMemory.store_read_of_ne _ _ (by omega), TracedMemory.store_read_self]
      rfl
    · exact TracedMemory.store_read_self _ _ _
  · apply (TracedMemory.store_storesOnly memory _ _).andStore _ _
    · exact ⟨Nat.le_refl _, by omega⟩
    · exact ⟨by omega, by omega⟩

/-- `itoa` leaves the numeral of the value, and stores no byte behind its NUL. -/
theorem itoa_spells (low : 2 ≤ radix.toNat) (high : radix.toNat ≤ 36)
    (memory : TracedMemory Nat UInt8) (value : BitVec 32) (buf : Nat)
    (enough : 32 < turns) :
    ∃ after, itoa turns memory value buf radix = some after ∧
      Spells (stringAt after buf) (numeral radix.toNat value.toNat) ∧
      TracedMemory.StoresOnly
        (stringRegion buf ((numeral radix.toNat value.toNat).length + 1)) memory after := by
  have noNul := numeral_noNul low high value.toNat
  have atMost := numeral_length_le low value.isLt
  by_cases isZero : value = 0
  · subst isZero
    exact itoa_zero_spells memory buf
  · have positive : value.toNat ≠ 0 := fun none =>
      isZero (BitVec.eq_of_toNat_eq none)
    have radixNonzero : radix ≠ 0 := by
      rintro rfl
      exact absurd low (by decide)
    have text : numeral radix.toNat value.toNat =
        ((Nat.digits radix.toNat value.toNat).map lookup).reverse := by
      rw [numeral, if_neg positive]
    rw [text] at noNul atMost ⊢
    rw [List.length_reverse, List.length_map] at atMost ⊢
    obtain ⟨done, ends, newbuf, reads, stores⟩ :=
      itoaLoop_ends low ⟨memory, buf, value⟩
        (show (Nat.digits radix.toNat value.toNat).length < turns by omega)
    dsimp only at newbuf reads stores
    have spells : Spells (stringAt (done.memory.store done.newbuf 0) buf)
        ((Nat.digits radix.toNat value.toNat).map lookup) := by
      apply spells_of_read
      · intro c mem
        exact noNul c (List.mem_reverse.mpr mem)
      · intro k inside
        rw [List.length_map] at inside
        rw [stringAt, newbuf, TracedMemory.store_read]
        by_cases atEnd : k = (Nat.digits radix.toNat value.toNat).length
        · have ends := cString_length ((Nat.digits radix.toNat value.toNat).map lookup)
          rw [List.length_map] at ends
          rw [if_pos (by omega), atEnd, ends]
        · rw [if_neg (by omega), reads k (by omega)]
    obtain ⟨after, reverses, isReversed, exchanges⟩ :=
      strrev_of_spells spells (by rw [List.length_map]; omega)
        (show _ < turns by rw [List.length_map]; omega)
    rw [List.length_map] at exchanges
    refine ⟨after, ?_, isReversed, ?_⟩
    · rw [itoa, if_neg isZero, if_neg radixNonzero, ends]
      exact reverses
    · refine ((stores.mono ?_).andStore 0 ?_).trans (exchanges.mono ?_)
      · rintro address ⟨above, below⟩
        exact ⟨by omega, by omega⟩
      · rw [newbuf]
        exact ⟨by omega, by omega⟩
      · rintro address ⟨above, below⟩
        exact ⟨by omega, by omega⟩

/-- For every value and every radix from 2 to 36 `itoa` ends, stores at most 33 bytes,
and leaves the numeral of the value; other values give other strings. -/
theorem itoa_encodes (low : 2 ≤ radix.toNat) (high : radix.toNat ≤ 36)
    (memory : TracedMemory Nat UInt8) (value : BitVec 32) (buf : Nat)
    (enough : 32 < turns) :
    ∃ after text,
      itoa turns memory value buf radix = some after ∧
      Spells (stringAt after buf) text ∧
      IsNumeral radix.toNat value.toNat text ∧
      text.length + 1 ≤ 33 ∧
      TracedMemory.StoresOnly (stringRegion buf (text.length + 1)) memory after ∧
      ∀ (other : BitVec 32) (otherMemory otherAfter : TracedMemory Nat UInt8)
        (otherBuf : Nat), other ≠ value →
        itoa turns otherMemory other otherBuf radix = some otherAfter →
        ¬Spells (stringAt otherAfter otherBuf) text := by
  have numeral_of (value : BitVec 32) := isNumeral_numeral low high value.toNat
  obtain ⟨after, ends, spells, stores⟩ := itoa_spells low high memory value buf enough
  refine ⟨after, numeral radix.toNat value.toNat, ends, spells, numeral_of value,
    Nat.succ_le_succ (numeral_length_le low value.isLt), stores, ?_⟩
  intro other otherMemory otherAfter otherBuf different otherEnds same
  obtain ⟨reached, otherReaches, otherSpells, -⟩ :=
    itoa_spells low high otherMemory other otherBuf enough
  obtain rfl := Option.some.inj (otherEnds.symm.trans otherReaches)
  apply different
  apply BitVec.eq_of_toNat_eq
  apply (numeral_of other).value_unique
  rw [← same.unique otherSpells]
  exact numeral_of value

/-- The byte 255 in hexadecimal. -/
theorem itoa_encodes_ff :
    ∃ after text, itoa 33 ⟨fun _ => 0, []⟩ 255 0x1000 16 = some after ∧
      Spells (stringAt after 0x1000) text ∧ IsNumeral 16 255 text := by
  obtain ⟨after, text, ends, spells, isNumeral, -⟩ :=
    @itoa_encodes 16 33 (by decide) (by decide) ⟨fun _ => 0, []⟩ 255 0x1000 (by decide)
  exact ⟨after, text, ends, spells, isNumeral⟩

end Itoa

end ChapOS
