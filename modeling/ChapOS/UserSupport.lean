import ChapOS.Arguments
import ChapOS.ReadLaw

/-!
# The support library of the user programs

The functions of `ece391support.c`, and the system calls as a program sees them.
The string functions walk over the bytes from a pointer on; where they compare, their
result is zero exactly for equal words.
-/

namespace ChapOS

/-- `ece391_strlen` -/
abbrev ece391Strlen (s : CString) : Nat :=
  strlen s

/-- The loop of `ece391_strcpy` from index `i`, with `remaining` bytes of the address
space to go.  The pointers may lead into one array: a byte is read from it after the
bytes before it have been stored. -/
def ece391StrcpyFrom (dst src : Nat) : Nat → Nat → CString → CString
  | 0, _, memory => memory
  | remaining + 1, i, memory =>
      let copied := Function.update memory (dst + i) (memory (src + i))
      if memory (src + i) = 0 then copied
      else ece391StrcpyFrom dst src remaining (i + 1) copied

/-- `ece391_strcpy` inside one array. -/
def ece391Strcpy (memory : CString) (dst src : Nat) : CString :=
  ece391StrcpyFrom dst src (2 ^ 32) 0 memory

/-- `(int32_t)*s1 - (int32_t)*s2`, for bytes without a sign. -/
def byteDifference (s1 s2 : CString) (i : Nat) : Int :=
  (s1 i).toNat - (s2 i).toNat

/-- The loop of `ece391_strcmp` from index `i`, with `remaining` bytes of the address
space to go. -/
def ece391StrcmpFrom (s1 s2 : CString) : Nat → Nat → Int
  | 0, _ => 0
  | remaining + 1, i =>
      if s1 i = s2 i then
        if s1 i = 0 then 0 else ece391StrcmpFrom s1 s2 remaining (i + 1)
      else byteDifference s1 s2 i

/-- `ece391_strcmp` -/
def ece391Strcmp (s1 s2 : CString) : Int :=
  ece391StrcmpFrom s1 s2 (2 ^ 32) 0

/-- The loop of `ece391_strncmp` from index `i`, with `n` counted down to the
number given. -/
def ece391StrncmpFrom (s1 s2 : CString) : Nat → Nat → Int
  | 0, _ => 0
  | n + 1, i =>
      if s1 i = s2 i then
        if s1 i = 0 then 0 else ece391StrncmpFrom s1 s2 n (i + 1)
      else byteDifference s1 s2 i

/-- `ece391_strncmp` -/
def ece391Strncmp (s1 s2 : CString) (n : Nat) : Int :=
  if n = 0 then 0 else ece391StrncmpFrom s1 s2 n 0

/-- What answers the system calls of a program.  A buffer goes in with what it holds
and comes out with what the call has left in it. -/
structure SystemCalls (World : Type) where
  getargs : World → CString → Int → World × Int × CString
  openFile : World → CString → World × Int
  read : World → Int → CString → Int → World × Int × CString
  write : World → Int → CString → Int → World × Int
  close : World → Int → World × Int

/-- `ece391_fdputs`: nobody looks at the result of the write. -/
def SystemCalls.ece391Fdputs {World : Type} (calls : SystemCalls World) (world : World)
    (fd : Int) (s : CString) : World :=
  (calls.write world fd s (int32 (ece391Strlen s))).1

/-- Only the empty word begins with a NUL. -/
theorem Spells.head_ne_nul {s : CString} {word : List UInt8} (spells : Spells s word)
    (named : word ≠ []) : s 0 ≠ 0 := by
  cases word with
  | nil => exact absurd rfl named
  | cons character rest =>
      obtain ⟨reads, notNul, -⟩ := spells
      rw [reads]
      exact notNul

section Comparisons

variable {s1 s2 : CString}

theorem byteDifference_eq_zero {i : Nat} : byteDifference s1 s2 i = 0 ↔ s1 i = s2 i := by
  rw [byteDifference, Int.sub_eq_zero, Int.natCast_inj]
  exact UInt8.toNat_inj

/-- The characters are taken with another sign than in the kernel, which does not
matter for equality. -/
theorem ece391StrncmpFrom_eq_zero_iff (n i : Nat) :
    ece391StrncmpFrom s1 s2 n i = 0 ↔ strncmpFrom s1 s2 n i = 0 := by
  induction n generalizing i with
  | zero => rfl
  | succ n ih =>
      rw [ece391StrncmpFrom, strncmpFrom]
      by_cases same : s1 i = s2 i
      · by_cases isEnd : s1 i = 0
        · rw [if_pos same, if_pos isEnd, if_pos (Or.inr isEnd), characterDifference_eq_zero]
          exact ⟨fun _ => same, fun _ => rfl⟩
        · rw [if_pos same, if_neg isEnd, if_neg (not_or.mpr ⟨not_not_intro same, isEnd⟩)]
          exact ih (i + 1)
      · rw [if_neg same, if_pos (Or.inl same), byteDifference_eq_zero,
          characterDifference_eq_zero]

/-- `ece391_strncmp` compares the characters up to the NULs, at most `n`. -/
theorem ece391Strncmp_eq_zero_iff (n : Nat) :
    ece391Strncmp s1 s2 n = 0 ↔ characters s1 n = characters s2 n := by
  rw [ece391Strncmp]
  split
  · rename_i none
    subst none
    exact ⟨fun _ => rfl, fun _ => rfl⟩
  · rw [ece391StrncmpFrom_eq_zero_iff]
    exact strncmpFrom_eq_zero_iff s1 s2 n 0

end Comparisons

section Copies

theorem ece391StrcpyFrom_down {src : Nat} (positive : 0 < src) {word : List UInt8}
    {remaining i : Nat} {memory : CString}
    (spells : SpellsFrom (fun k => memory (src + k)) i word)
    (short : word.length < remaining) (k : Nat) :
    ece391StrcpyFrom 0 src remaining i memory k =
      if i ≤ k ∧ k ≤ i + word.length then memory (src + k) else memory k := by
  induction word generalizing remaining i memory with
  | nil =>
      obtain ⟨remaining, rfl⟩ : ∃ rest, remaining = rest + 1 := ⟨remaining - 1, by omega⟩
      have ends : memory (src + i) = 0 := spells
      rw [ece391StrcpyFrom, if_pos ends, Nat.zero_add, Function.update_apply, List.length_nil, Nat.add_zero]
      by_cases here : k = i
      · rw [if_pos here, if_pos (by omega), here]
      · rw [if_neg here, if_neg (by omega)]
  | cons character rest ih =>
      rw [List.length_cons] at short ⊢
      obtain ⟨remaining, rfl⟩ : ∃ rest, remaining = rest + 1 := ⟨remaining - 1, by omega⟩
      obtain ⟨reads, notNul, tail⟩ := spells
      have goesOn : ¬memory (src + i) = 0 := by
        rw [show memory (src + i) = character from reads]
        exact notNul
      rw [ece391StrcpyFrom, if_neg goesOn, Nat.zero_add, ih _ (by omega)]
      · by_cases here : k = i
        · rw [if_neg (by omega), if_pos (by omega), here, Function.update_self]
        · rw [Function.update_of_ne here]
          by_cases inside : i + 1 ≤ k ∧ k ≤ i + 1 + rest.length
          · rw [if_pos inside, if_pos (by omega), Function.update_of_ne (by omega)]
          · rw [if_neg inside, if_neg (by omega)]
      · apply SpellsFrom.congr tail
        intro j low _
        exact Function.update_of_ne (by omega) _ _

/-- `ece391_strcpy` moves a string down inside its array. -/
theorem ece391Strcpy_down {memory : CString} {src : Nat} (positive : 0 < src)
    {word : List UInt8} (spells : Spells (fun k => memory (src + k)) word)
    (short : word.length < 2 ^ 32) (k : Nat) :
    ece391Strcpy memory 0 src k = if k ≤ word.length then cString word k else memory k := by
  rw [ece391Strcpy, ece391StrcpyFrom_down positive spells short]
  by_cases inside : k ≤ word.length
  · rw [if_pos (by omega), if_pos inside]
    exact spells.read inside
  · rw [if_neg (by omega), if_neg inside]

end Copies

end ChapOS
