import ChapOS.CountedLoops

/-!
# The string functions of `lib.c`

A pointer to characters is the sequence of bytes from that pointer on.
-/

namespace ChapOS

open CountedLoops

/-- The bytes from a pointer on. -/
abbrev CString := Nat → UInt8

/-- The bytes of a string literal or of an array filled up with NULs. -/
def cString (bytes : List UInt8) : CString :=
  fun i => bytes.getD i 0

/-- `s1[i] - s2[i]` for `int8_t` characters. -/
def characterDifference (s1 s2 : CString) (i : Nat) : Int :=
  (s1 i).toInt8.toInt - (s2 i).toInt8.toInt

/-- The loop of `strncmp` from index `i`, with `remaining` bytes to go. -/
def strncmpFrom (s1 s2 : CString) : Nat → Nat → Int
  | 0, _ => 0
  | remaining + 1, i =>
      if s1 i ≠ s2 i ∨ s1 i = 0 then characterDifference s1 s2 i
      else strncmpFrom s1 s2 remaining (i + 1)

/-- `strncmp`. -/
def strncmp (s1 s2 : CString) (n : Nat) : Int :=
  strncmpFrom s1 s2 n 0

/-- The loops of `strncpy` from index `i`, with `remaining` bytes to go. -/
def strncpyFrom (src : CString) : Nat → Nat → CString → CString
  | 0, _, dest => dest
  | remaining + 1, i, dest =>
      if src i = 0 then
        forUpTo (remaining + 1)
          (fun offset filled => Function.update filled (i + offset) 0) dest
      else
        strncpyFrom src remaining (i + 1) (Function.update dest i (src i))

/-- `strncpy`. -/
def strncpy (dest src : CString) (n : Nat) : CString :=
  strncpyFrom src n 0 dest

/-- The loop of `strlen` from index `len`, with `remaining` bytes of the address
space to go. -/
def strlenFrom (s : CString) : Nat → Nat → Nat
  | 0, len => len
  | remaining + 1, len =>
      if s len = 0 then len else strlenFrom s remaining (len + 1)

/-- `strlen`. -/
def strlen (s : CString) : Nat :=
  strlenFrom s (2 ^ 32) 0

/-- The characters of a string from index `i` up to its NUL, at most `remaining`. -/
def charactersFrom (s : CString) : Nat → Nat → List UInt8
  | 0, _ => []
  | remaining + 1, i =>
      if s i = 0 then [] else s i :: charactersFrom s remaining (i + 1)

/-- The characters of a string up to its NUL, at most `n`. -/
def characters (s : CString) (n : Nat) : List UInt8 :=
  charactersFrom s n 0

/-- From index `i` on, the pointer reads the characters of a word and a NUL. -/
def SpellsFrom (s : CString) : Nat → List UInt8 → Prop
  | i, [] => s i = 0
  | i, character :: rest =>
      s i = character ∧ character ≠ 0 ∧ SpellsFrom s (i + 1) rest

/-- The string is a word of any length, terminated by a NUL. -/
def Spells (s : CString) (word : List UInt8) : Prop :=
  SpellsFrom s 0 word

theorem charactersFrom_length_le (s : CString) (remaining i : Nat) :
    (charactersFrom s remaining i).length ≤ remaining := by
  induction remaining generalizing i with
  | zero => exact Nat.le_refl 0
  | succ remaining ih =>
      rw [charactersFrom]
      split
      · exact Nat.zero_le _
      · rw [List.length_cons]
        exact Nat.succ_le_succ (ih (i + 1))

theorem characters_length_le (s : CString) (n : Nat) : (characters s n).length ≤ n :=
  charactersFrom_length_le s n 0

theorem characters_eq_nil (s : CString) {n : Nat} (positive : 0 < n) :
    characters s n = [] ↔ s 0 = 0 := by
  obtain ⟨rest, rfl⟩ : ∃ rest, n = rest + 1 := ⟨n - 1, by omega⟩
  rw [characters, charactersFrom]
  by_cases isEmpty : s 0 = 0
  · simp [isEmpty]
  · simp [isEmpty]

theorem characters_of_spellsFrom {s : CString} {word : List UInt8} {i : Nat}
    (spells : SpellsFrom s i word) (remaining : Nat) :
    charactersFrom s remaining i = word.take remaining := by
  induction word generalizing i remaining with
  | nil =>
      have isEnd : s i = 0 := spells
      cases remaining with
      | zero => rfl
      | succ remaining => rw [charactersFrom, if_pos isEnd, List.take_nil]
  | cons character rest ih =>
      obtain ⟨reads, notNul, tail⟩ := spells
      cases remaining with
      | zero => rfl
      | succ remaining =>
          rw [charactersFrom, reads, if_neg notNul, List.take_succ_cons,
            ih tail remaining]

/-- The first characters of a terminated word. -/
theorem characters_of_spells {s : CString} {word : List UInt8} (spells : Spells s word)
    (n : Nat) : characters s n = word.take n :=
  characters_of_spellsFrom spells n

theorem spellsFrom_reads {s : CString} {word : List UInt8} {i : Nat}
    (spells : SpellsFrom s i word) :
    (∀ character ∈ word, character ≠ 0) ∧
      (∀ k, i ≤ k → k < i + word.length → s k ≠ 0) ∧ s (i + word.length) = 0 := by
  induction word generalizing i with
  | nil => exact ⟨by simp, fun k low high => absurd high (by simpa using low), spells⟩
  | cons character rest ih =>
      obtain ⟨reads, notNul, tail⟩ := spells
      obtain ⟨noNul, inside, ends⟩ := ih tail
      rw [List.length_cons]
      refine ⟨?_, fun k low high => ?_, ?_⟩
      · rintro other (_ | ⟨_, mem⟩)
        · exact notNul
        · exact noNul other mem
      · by_cases here : k = i
        · rw [here, reads]
          exact notNul
        · exact inside k (by omega) (by omega)
      · rw [Nat.add_comm rest.length, ← Nat.add_assoc]
        exact ends

theorem Spells.noNul {s : CString} {word : List UInt8} (spells : Spells s word) :
    ∀ character ∈ word, character ≠ 0 :=
  (spellsFrom_reads spells).1

/-- The bytes of a word, and its NUL. -/
theorem spellsFrom_read {s : CString} {word : List UInt8} {i : Nat}
    (spells : SpellsFrom s i word) {k : Nat} (inside : k ≤ word.length) :
    s (i + k) = cString word k := by
  induction word generalizing i k with
  | nil =>
      obtain rfl : k = 0 := Nat.le_zero.mp inside
      exact spells
  | cons character rest ih =>
      obtain ⟨reads, -, tail⟩ := spells
      cases k with
      | zero => exact reads
      | succ k =>
          have later := ih tail (Nat.le_of_succ_le_succ inside)
          rwa [Nat.add_right_comm] at later

theorem Spells.read {s : CString} {word : List UInt8} (spells : Spells s word) {k : Nat}
    (inside : k ≤ word.length) : s k = cString word k := by
  have reads := spellsFrom_read spells inside
  rwa [Nat.zero_add] at reads

/-- Another string with the same bytes and NUL spells the same word. -/
theorem SpellsFrom.congr {s other : CString} {word : List UInt8} {i : Nat}
    (spells : SpellsFrom s i word)
    (same : ∀ k, i ≤ k → k ≤ i + word.length → other k = s k) :
    SpellsFrom other i word := by
  induction word generalizing i with
  | nil => exact (same i (Nat.le_refl _) (Nat.le_refl _)).trans spells
  | cons character rest ih =>
      obtain ⟨reads, notNul, tail⟩ := spells
      rw [List.length_cons] at same
      refine ⟨(same i (Nat.le_refl _) (by omega)).trans reads, notNul, ih tail ?_⟩
      intro k low high
      exact same k (by omega) (by omega)

/-- A repeated character in front of a word. -/
theorem spellsFrom_replicate {s : CString} {c : UInt8} {word : List UInt8} {count i : Nat}
    (notNul : c ≠ 0) (reads : ∀ k < count, s (i + k) = c)
    (spells : SpellsFrom s (i + count) word) :
    SpellsFrom s i (List.replicate count c ++ word) := by
  induction count generalizing i with
  | zero => exact spells
  | succ count ih =>
      refine ⟨reads 0 (Nat.succ_pos count), notNul, ih ?_ ?_⟩
      · intro k kLt
        rw [Nat.add_right_comm, Nat.add_assoc]
        exact reads (k + 1) (by omega)
      · rwa [Nat.add_right_comm, Nat.add_assoc]

theorem spellsFrom_unique {s : CString} {first second : List UInt8} {i : Nat}
    (spellsFirst : SpellsFrom s i first) (spellsSecond : SpellsFrom s i second) :
    first = second := by
  induction first generalizing second i with
  | nil =>
      cases second with
      | nil => rfl
      | cons character rest =>
          obtain ⟨reads, notNul, -⟩ := spellsSecond
          exact absurd (reads.symm.trans spellsFirst) notNul
  | cons character rest ih =>
      obtain ⟨reads, notNul, tail⟩ := spellsFirst
      cases second with
      | nil => exact absurd (reads.symm.trans spellsSecond) notNul
      | cons other others =>
          obtain ⟨otherReads, -, otherTail⟩ := spellsSecond
          rw [reads.symm.trans otherReads, ih tail otherTail]

/-- A string spells one word. -/
theorem Spells.unique {s : CString} {first second : List UInt8}
    (spellsFirst : Spells s first) (spellsSecond : Spells s second) : first = second :=
  spellsFrom_unique spellsFirst spellsSecond

/-- A word ends within `n` bytes exactly when it has fewer than `n` characters. -/
theorem Spells.nul_iff {s : CString} {word : List UInt8} (spells : Spells s word)
    (n : Nat) : (∃ index < n, s index = 0) ↔ word.length < n := by
  obtain ⟨-, inside, ends⟩ := spellsFrom_reads spells
  rw [Nat.zero_add] at inside ends
  constructor
  · rintro ⟨index, indexLt, isNul⟩
    by_contra long
    exact inside index (Nat.zero_le _) (by omega) isNul
  · intro short
    exact ⟨word.length, short, ends⟩

theorem strlenFrom_of_spellsFrom {s : CString} {word : List UInt8} {i remaining : Nat}
    (spells : SpellsFrom s i word) (short : word.length < remaining) :
    strlenFrom s remaining i = i + word.length := by
  induction word generalizing i remaining with
  | nil =>
      have isEnd : s i = 0 := spells
      cases remaining with
      | zero => exact absurd short (Nat.not_lt_zero _)
      | succ remaining => rw [strlenFrom, if_pos isEnd, List.length_nil, Nat.add_zero]
  | cons character rest ih =>
      obtain ⟨reads, notNul, tail⟩ := spells
      rw [List.length_cons] at short ⊢
      cases remaining with
      | zero => exact absurd short (Nat.not_lt_zero _)
      | succ remaining =>
          rw [strlenFrom, reads, if_neg notNul, ih tail (by omega)]
          omega

/-- The length of a terminated word. -/
theorem strlen_of_spells {s : CString} {word : List UInt8} (spells : Spells s word)
    (short : word.length < 2 ^ 32) : strlen s = word.length := by
  rw [strlen, strlenFrom_of_spellsFrom spells short, Nat.zero_add]

theorem characterDifference_eq_zero (s1 s2 : CString) (i : Nat) :
    characterDifference s1 s2 i = 0 ↔ s1 i = s2 i := by
  rw [characterDifference, Int.sub_eq_zero, Int8.toInt_inj]
  constructor
  · intro same
    have bytes := congrArg Int8.toUInt8 same
    rwa [UInt8.toUInt8_toInt8, UInt8.toUInt8_toInt8] at bytes
  · exact congrArg UInt8.toInt8

theorem strncmpFrom_eq_zero_iff (s1 s2 : CString) (remaining i : Nat) :
    strncmpFrom s1 s2 remaining i = 0 ↔
      charactersFrom s1 remaining i = charactersFrom s2 remaining i := by
  induction remaining generalizing i with
  | zero => simp [strncmpFrom, charactersFrom]
  | succ remaining ih =>
      rw [strncmpFrom, charactersFrom, charactersFrom]
      by_cases same : s1 i = s2 i
      · by_cases isEnd : s1 i = 0
        · rw [if_pos (Or.inr isEnd), characterDifference_eq_zero, if_pos isEnd,
            if_pos (same ▸ isEnd)]
          exact ⟨fun _ => rfl, fun _ => same⟩
        · rw [if_neg (not_or.mpr ⟨not_not.mpr same, isEnd⟩), ih, if_neg isEnd,
            if_neg (same ▸ isEnd), same]
          simp
      · rw [if_pos (Or.inl same), characterDifference_eq_zero]
        by_cases firstEnds : s1 i = 0
        · have secondGoesOn : s2 i ≠ 0 := fun ends => same (firstEnds.trans ends.symm)
          simp [firstEnds, secondGoesOn, secondGoesOn.symm]
        · by_cases secondEnds : s2 i = 0
          · simp [firstEnds, secondEnds]
          · simp [same, firstEnds, secondEnds]

/-- `strncmp` compares the characters up to the NULs, at most `n`. -/
theorem strncmp_eq_zero_iff (s1 s2 : CString) (n : Nat) :
    strncmp s1 s2 n = 0 ↔ characters s1 n = characters s2 n :=
  strncmpFrom_eq_zero_iff s1 s2 n 0

/-- The second loop of `strncpy` writes NULs. -/
theorem fillWithNuls_apply (dest : CString) (count i k : Nat) :
    forUpTo count (fun offset filled => Function.update filled (i + offset) 0) dest k =
      if i ≤ k ∧ k < i + count then 0 else dest k := by
  induction count with
  | zero =>
      rw [forUpTo_zero, if_neg (by omega)]
  | succ count ih =>
      rw [forUpTo_succ, Function.update_apply, ih]
      by_cases last : k = i + count
      · rw [if_pos last, if_pos (by omega)]
      · rw [if_neg last]
        have sameSide : k < i + (count + 1) ↔ k < i + count := by omega
        simp only [sameSide]

theorem strncpyFrom_apply (dest src : CString) (remaining i k : Nat) :
    strncpyFrom src remaining i dest k =
      if k < i then dest k
      else if k < i + (charactersFrom src remaining i).length then src k
      else if k < i + remaining then 0
      else dest k := by
  induction remaining generalizing i dest with
  | zero =>
      by_cases below : k < i
      · rw [if_pos below, strncpyFrom]
      · rw [if_neg below, if_neg (by simpa [charactersFrom] using below),
          if_neg (by omega), strncpyFrom]
  | succ remaining ih =>
      rw [strncpyFrom, charactersFrom]
      by_cases isEnd : src i = 0
      · rw [if_pos isEnd, if_pos isEnd, fillWithNuls_apply, List.length_nil]
        by_cases below : k < i
        · rw [if_neg (by omega), if_pos below]
        · rw [if_neg below, if_neg (show ¬k < i + 0 from below)]
          simp only [Nat.le_of_not_lt below, true_and]
      · rw [if_neg isEnd, if_neg isEnd, ih, List.length_cons]
        by_cases here : k = i
        · subst here
          simp
        · rw [Function.update_of_ne here]
          have shifted : k < i + 1 ↔ k < i := by omega
          simp only [shifted, Nat.add_assoc, Nat.add_comm 1]

/-- `strncpy` copies the characters of the source and fills up with NULs. -/
theorem strncpy_apply (dest src : CString) (n k : Nat) :
    strncpy dest src n k =
      if k < (characters src n).length then src k
      else if k < n then 0
      else dest k := by
  rw [strncpy, strncpyFrom_apply, if_neg (Nat.not_lt_zero k), Nat.zero_add,
    Nat.zero_add, characters]

/-- A string that reads the characters of another one and then NULs, as far as
`remaining` bytes go, has the same characters. -/
theorem charactersFrom_of_padded {s padded : CString} (remaining i : Nat)
    (pads : ∀ k, i ≤ k → k < i + remaining →
      padded k = if k < i + (charactersFrom s remaining i).length then s k else 0) :
    charactersFrom padded remaining i = charactersFrom s remaining i := by
  induction remaining generalizing i with
  | zero => rfl
  | succ remaining ih =>
      have here := pads i (Nat.le_refl i) (by omega)
      rw [charactersFrom] at pads here ⊢
      by_cases isEnd : s i = 0
      · rw [if_pos isEnd, List.length_nil, if_neg (by omega)] at here
        rw [charactersFrom, if_pos here, if_pos isEnd]
      · rw [if_neg isEnd, List.length_cons, if_pos (by omega)] at here
        rw [if_neg isEnd, List.length_cons] at pads
        rw [charactersFrom, if_neg isEnd, here, if_neg isEnd, ih (i + 1)]
        intro k low high
        rw [pads k (by omega) (by omega), Nat.add_assoc, Nat.add_comm 1]

/-- The first `n` bytes at a pointer, followed by a NUL. -/
def terminated (s : CString) (n : Nat) : CString :=
  fun k => if k < n then s k else 0

/-- A copy made by `strncpy`, terminated, has the characters of its source. -/
theorem characters_terminated_strncpy (dest src : CString) (n : Nat) :
    characters (terminated (strncpy dest src n) n) n = characters src n := by
  apply charactersFrom_of_padded
  intro k _ high
  have below : k < n := by omega
  rw [terminated, if_pos below, strncpy_apply, if_pos below, Nat.zero_add]
  rfl

theorem spellsFrom_cString (start word : List UInt8)
    (noNul : ∀ character ∈ word, character ≠ 0) :
    SpellsFrom (cString (start ++ word)) start.length word := by
  induction word generalizing start with
  | nil => simp [SpellsFrom, cString]
  | cons character rest ih =>
      refine ⟨by simp [cString], noNul character List.mem_cons_self, ?_⟩
      have later := ih (start ++ [character]) fun other mem =>
        noNul other (List.mem_cons_of_mem _ mem)
      simpa using later

/-- Bytes without NUL spell themselves. -/
theorem spells_cString {word : List UInt8} (noNul : ∀ character ∈ word, character ≠ 0) :
    Spells (cString word) word :=
  spellsFrom_cString [] word noNul

/-- A string that reads the bytes of a word and its NUL spells it. -/
theorem spells_of_read {s : CString} {word : List UInt8}
    (noNul : ∀ character ∈ word, character ≠ 0)
    (reads : ∀ k ≤ word.length, s k = cString word k) : Spells s word := by
  apply SpellsFrom.congr (spells_cString noNul)
  intro k _ inside
  exact reads k (by omega)

theorem cString_of_lt {word : List UInt8} {k : Nat} (inside : k < word.length) :
    cString word k = word[k] := by
  rw [cString, List.getD_eq_getElem?_getD, List.getElem?_eq_getElem inside,
    Option.getD_some]

theorem cString_length (word : List UInt8) : cString word word.length = 0 := by
  simp [cString]

/-- Reversing mirrors the indices. -/
theorem cString_reverse {word : List UInt8} {k : Nat} (inside : k < word.length) :
    cString word.reverse k = cString word (word.length - 1 - k) := by
  rw [cString_of_lt (by rwa [List.length_reverse]), cString_of_lt (by omega),
    List.getElem_reverse]

end ChapOS
