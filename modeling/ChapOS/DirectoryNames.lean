import ChapOS.DescriptorTable
import ChapOS.LabelledRuns

/-!
# Names in the directory

Lookup by name, lookup by index and the listing of the directory all see the
same names: the characters of an entry up to its first NUL, at most 32.  Lookup
by name is exact except for the empty name and for names that continue a name of
32 characters.
-/

namespace ChapOS

namespace FileSystem

variable {fs : FileSystem}

/-- `boot_block_ptr->num_dentry`. -/
def numDentry (fs : FileSystem) : Nat :=
  fs.word fs.fileSysStart

/-- The name of a directory entry. -/
def entryCharacters (fs : FileSystem) (index : Nat) : List UInt8 :=
  characters (fs.entryName index) 32

/-- An entry in use has the name. -/
def EntryNamed (fs : FileSystem) (word : List UInt8) (index : Nat) : Prop :=
  index < 63 ∧ index < fs.numDentry ∧ fs.entryCharacters index = word

/-- The entries in use have names, and all others hold zeros. -/
structure DirectoryFilled (fs : FileSystem) : Prop where
  named : ∀ index < 63, index < fs.numDentry → fs.entryName index 0 ≠ 0
  zeroed : ∀ index < 63, fs.numDentry ≤ index →
    ∀ position < 64, fs.mem (fs.dirEntry index + position) = 0

/-- What `read_dentry_by_name` promises for a name: it finds the lowest entry in
use that has it, and fails without one. -/
structure LookupExact (fs : FileSystem) (fname : CString) (word : List UInt8)
    (dentry : Dentry) : Prop where
  returns : (fs.readDentryByName fname dentry).1 = 0 ↔
    ∃ index, fs.EntryNamed word index
  found : ∀ index, fs.EntryNamed word index →
    (∀ lower < index, ¬fs.EntryNamed word lower) →
    (fs.readDentryByName fname dentry).2.fileType = fs.entryType index ∧
      (fs.readDentryByName fname dentry).2.inodeNum = fs.entryInode index
  missing : (∀ index, ¬fs.EntryNamed word index) →
    fs.readDentryByName fname dentry = (-1, dentry)

theorem findEntry_eq_some_iff {fname : CString} {index : Nat} :
    fs.findEntry fname = some index ↔
      index < 63 ∧ fs.entryCharacters index = characters fname 32 ∧
        ∀ lower < index, fs.entryCharacters lower ≠ characters fname 32 := by
  rw [findEntry, List.find?_range'_eq_some]
  simp only [decide_eq_true_eq, strncmp_eq_zero_iff, List.mem_range'_1,
    Bool.not_eq_true', decide_eq_false_iff_not, entryCharacters]
  constructor
  · rintro ⟨same, within, lowest⟩
    exact ⟨by omega, same.symm, fun lower below equal =>
      lowest lower (Nat.zero_le _) below equal.symm⟩
  · rintro ⟨within, same, lowest⟩
    exact ⟨same.symm, by omega, fun lower _ below equal =>
      lowest lower below equal.symm⟩

theorem findEntry_eq_none_iff {fname : CString} :
    fs.findEntry fname = none ↔
      ∀ index < 63, fs.entryCharacters index ≠ characters fname 32 := by
  rw [findEntry, List.find?_eq_none]
  simp only [decide_eq_true_eq, strncmp_eq_zero_iff, List.mem_range'_1, entryCharacters]
  constructor
  · intro noneMatches index indexLt same
    exact noneMatches index ⟨Nat.zero_le _, by omega⟩ same.symm
  · intro noneMatches index within same
    exact noneMatches index (by omega) same.symm

/-- Lookup by name succeeds when some entry, in use or not, matches. -/
theorem readDentryByName_returns (fname : CString) (dentry : Dentry) :
    (fs.readDentryByName fname dentry).1 = 0 ↔
      ∃ index < 63, fs.entryCharacters index = characters fname 32 := by
  cases found : fs.findEntry fname with
  | none =>
      have noneMatches := findEntry_eq_none_iff.mp found
      rw [fs.readDentryByName_of_missing dentry found]
      constructor
      · intro absurdity
        exact absurd absurdity (show ¬(-1 : Int) = 0 by decide)
      · rintro ⟨index, indexLt, same⟩
        exact absurd same (noneMatches index indexLt)
  | some index =>
      obtain ⟨indexLt, same, -⟩ := findEntry_eq_some_iff.mp found
      rw [fs.readDentryByName_of_found dentry found]
      exact ⟨fun _ => ⟨index, indexLt, same⟩, fun _ => rfl⟩

/-- A lookup that finds nothing is exact when no entry in use has the name. -/
theorem LookupExact.of_missing {fname : CString} {word : List UInt8} (dentry : Dentry)
    (missing : fs.findEntry fname = none) (noName : ∀ index, ¬fs.EntryNamed word index) :
    fs.LookupExact fname word dentry := by
  have refused := fs.readDentryByName_of_missing dentry missing
  refine ⟨?_, fun index named => (noName index named).elim, fun _ => refused⟩
  rw [refused]
  exact ⟨fun absurdity => absurd absurdity (show ¬(-1 : Int) = 0 by decide),
    fun ⟨index, named⟩ => (noName index named).elim⟩

section Lookup

variable (filled : fs.DirectoryFilled) {fname : CString} {word : List UInt8}

include filled

/-- Only an entry in use has characters. -/
theorem DirectoryFilled.characters_ne_nil {index : Nat} (indexLt : index < 63) :
    fs.entryCharacters index ≠ [] ↔ index < fs.numDentry := by
  rw [entryCharacters, Ne, characters_eq_nil _ (by decide)]
  constructor
  · intro named
    by_contra unused
    exact named (filled.zeroed index indexLt (by omega) 0 (by decide))
  · exact filled.named index indexLt

/-- For a name of one to 32 characters, the entries that match are those in use
that have the name. -/
theorem DirectoryFilled.matches_iff (spells : Spells fname word) (notEmpty : word ≠ [])
    (index : Nat) :
    (index < 63 ∧ fs.entryCharacters index = characters fname 32) ↔
      fs.EntryNamed (word.take 32) index := by
  rw [characters_of_spells spells, EntryNamed]
  constructor
  · rintro ⟨indexLt, same⟩
    refine ⟨indexLt, (filled.characters_ne_nil indexLt).mp ?_, same⟩
    rw [same]
    cases word with
    | nil => exact (notEmpty rfl).elim
    | cons character rest => exact List.cons_ne_nil _ _
  · rintro ⟨indexLt, -, same⟩
    exact ⟨indexLt, same⟩

/-- No entry in use has the empty name, nor a name of more than 32 characters. -/
theorem DirectoryFilled.length_of_named {index : Nat} (named : fs.EntryNamed word index) :
    word ≠ [] ∧ word.length ≤ 32 := by
  obtain ⟨indexLt, inUse, rfl⟩ := named
  exact ⟨(filled.characters_ne_nil indexLt).mpr inUse, characters_length_le _ _⟩

/-- Lookup by name is exact exactly for names that are not empty, unless the
directory is full, and that do not continue a name of 32 characters. -/
theorem readDentryByName_exact_iff (spells : Spells fname word) (dentry : Dentry) :
    fs.LookupExact fname word dentry ↔
      (word = [] → 63 ≤ fs.numDentry) ∧
        (32 < word.length → ∀ index, ¬fs.EntryNamed (word.take 32) index) := by
  by_cases isEmpty : word = []
  · subst isEmpty
    have noName (index : Nat) : ¬fs.EntryNamed [] index := fun named =>
      (filled.length_of_named named).1 rfl
    have noChars : characters fname 32 = [] := by
      rw [characters_of_spells spells, List.take_nil]
    constructor
    · intro law
      refine ⟨fun _ => ?_, fun long => absurd long (by decide)⟩
      by_contra notFull
      have indexLt : fs.numDentry < 63 := by omega
      have unused : fs.entryCharacters fs.numDentry = [] := by
        by_contra named
        exact absurd ((filled.characters_ne_nil indexLt).mp named) (Nat.lt_irrefl _)
      have returned : (fs.readDentryByName fname dentry).1 = 0 :=
        (readDentryByName_returns fname dentry).mpr
          ⟨fs.numDentry, indexLt, unused.trans noChars.symm⟩
      obtain ⟨index, named⟩ := law.returns.mp returned
      exact noName index named
    · rintro ⟨full, -⟩
      refine .of_missing dentry (findEntry_eq_none_iff.mpr ?_) noName
      intro index indexLt same
      have := full rfl
      exact (filled.characters_ne_nil indexLt).mpr (by omega) (same.trans noChars)
  · have matching := filled.matches_iff spells isEmpty
    by_cases long : 32 < word.length
    · have noName (index : Nat) : ¬fs.EntryNamed word index := fun named => by
        have := (filled.length_of_named named).2
        omega
      constructor
      · intro law
        refine ⟨fun absurdity => (isEmpty absurdity).elim, fun _ index named => ?_⟩
        obtain ⟨indexLt, same⟩ := (matching index).mpr named
        obtain ⟨other, otherNamed⟩ := law.returns.mp
          ((readDentryByName_returns fname dentry).mpr ⟨index, indexLt, same⟩)
        exact noName other otherNamed
      · rintro ⟨-, noneContinued⟩
        refine .of_missing dentry (findEntry_eq_none_iff.mpr ?_) noName
        exact fun index indexLt same =>
          noneContinued long index ((matching index).mp ⟨indexLt, same⟩)
    · rw [List.take_of_length_le (by omega)] at matching
      refine ⟨fun _ => ⟨fun absurdity => (isEmpty absurdity).elim,
        fun absurdity => (long absurdity).elim⟩, fun _ => ?_⟩
      refine ⟨?_, fun index named lowest => ?_, fun noneNamed => ?_⟩
      · rw [readDentryByName_returns]
        exact exists_congr matching
      · obtain ⟨indexLt, same⟩ := (matching index).mpr named
        have found : fs.findEntry fname = some index :=
          findEntry_eq_some_iff.mpr ⟨indexLt, same, fun lower below equal =>
            lowest lower below ((matching lower).mp ⟨by omega, equal⟩)⟩
        rw [fs.readDentryByName_of_found dentry found]
        exact ⟨rfl, rfl⟩
      · apply fs.readDentryByName_of_missing
        exact findEntry_eq_none_iff.mpr fun index indexLt same =>
          noneNamed index ((matching index).mp ⟨indexLt, same⟩)

end Lookup

section LongName

/-- An image with one file, whose name fills its 32 bytes. -/
def longNameImage : FileSystem :=
  .ofFiles 0x500000 [⟨List.replicate 32 0x61, 2, 3⟩] []

theorem longNameImage_filled : longNameImage.DirectoryFilled where
  named := by decide +kernel
  zeroed := by decide +kernel

theorem longName_spells (n : Nat) :
    Spells (cString (List.replicate n 0x61)) (List.replicate n 0x61) := by
  apply spells_cString
  intro character mem
  rw [List.eq_of_mem_replicate mem]
  decide

/-- A name of 32 characters is looked up exactly. -/
theorem readDentryByName_exact_longName :
    longNameImage.LookupExact (cString (List.replicate 32 0x61))
      (List.replicate 32 0x61) ⟨fun _ => 0, 0, 0⟩ :=
  (readDentryByName_exact_iff longNameImage_filled (longName_spells 32) _).mpr
    ⟨fun isEmpty => absurd isEmpty (by decide), fun long => absurd long (by decide)⟩

/-- A name that continues it is found as well, and so is the empty name. -/
theorem readDentryByName_finds_other_names :
    longNameImage.DirectoryFilled ∧
      ¬longNameImage.LookupExact (cString (List.replicate 33 0x61))
        (List.replicate 33 0x61) ⟨fun _ => 0, 0, 0⟩ ∧
      ¬longNameImage.LookupExact (cString []) [] ⟨fun _ => 0, 0, 0⟩ := by
  refine ⟨longNameImage_filled, fun law => ?_, fun law => ?_⟩
  · obtain ⟨index, -, -, named⟩ := law.returns.mp (by decide +kernel)
    have short := characters_length_le (longNameImage.entryName index) 32
    rw [show characters (longNameImage.entryName index) 32 = _ from named] at short
    exact absurd short (by decide)
  · obtain ⟨index, indexLt, inUse, named⟩ := law.returns.mp (by decide +kernel)
    exact (longNameImage_filled.characters_ne_nil indexLt).mpr inUse named

end LongName

/-- No two entries have the same name, names of no character aside. -/
def DistinctNames (fs : FileSystem) : Prop :=
  ∀ first < 63, ∀ second < 63, fs.entryName first 0 ≠ 0 → fs.entryName second 0 ≠ 0 →
    fs.entryCharacters first = fs.entryCharacters second → first = second

/-- What lookup by index succeeds on. -/
theorem readDentryByIndex_returns {index : Nat} {dentry : Dentry}
    (success : (fs.readDentryByIndex index dentry).1 = 0) :
    index < 63 ∧ fs.entryName index 0 ≠ 0 := by
  by_contra noEntry
  rw [fs.readDentryByIndex_of_noEntry dentry noEntry] at success
  exact absurd success (show ¬(-1 : Int) = 0 by decide)

/-- The name that lookup by index reports leads lookup by name to the same entry. -/
theorem readDentryByName_of_listed (distinct : fs.DistinctNames) {index : Nat}
    {listed : Dentry} (named : Dentry)
    (success : (fs.readDentryByIndex index listed).1 = 0) :
    let entry := (fs.readDentryByIndex index listed).2
    let found := fs.readDentryByName (terminated entry.fileName 32) named
    found.1 = 0 ∧ (∀ k < 32, found.2.fileName k = entry.fileName k) ∧
      found.2.fileType = entry.fileType ∧ found.2.inodeNum = entry.inodeNum := by
  obtain ⟨indexLt, isNamed⟩ := readDentryByIndex_returns success
  rw [fs.readDentryByIndex_of_entry listed indexLt isNamed]
  have sameName := characters_terminated_strncpy listed.fileName (fs.entryName index) 32
  have isFirst : fs.findEntry
      (terminated (strncpy listed.fileName (fs.entryName index) 32) 32) =
        some index := by
    rw [findEntry_eq_some_iff]
    refine ⟨indexLt, sameName.symm, fun lower below equal => ?_⟩
    have same : fs.entryCharacters lower = fs.entryCharacters index :=
      equal.trans sameName
    have lowerNamed : fs.entryName lower 0 ≠ 0 := by
      rw [Ne, ← characters_eq_nil _ (show 0 < 32 by decide)]
      rw [show characters (fs.entryName lower) 32 = _ from same]
      exact fun isEmpty => isNamed ((characters_eq_nil _ (by decide)).mp isEmpty)
    have := distinct lower (by omega) index indexLt lowerNamed isNamed same
    omega
  intro entry found
  have result : found = _ := fs.readDentryByName_of_found named isFirst
  rw [result]
  refine ⟨rfl, fun k kLt => ?_, rfl, rfl⟩
  show strncpy named.fileName
    (terminated (strncpy listed.fileName (fs.entryName index) 32) 32) 32 k =
      strncpy listed.fileName (fs.entryName index) 32 k
  rw [strncpy_apply, sameName, if_pos kLt, terminated, if_pos kLt]
  rw [strncpy_apply, if_pos kLt]
  split_ifs <;> rfl

/-- Listed and looked up in an image with two names. -/
theorem readDentryByName_of_listed_second :
    let fs := FileSystem.ofFiles 0x500000 [⟨[0x61], 2, 3⟩, ⟨[0x61, 0x62], 2, 4⟩] []
    let entry := (fs.readDentryByIndex 1 ⟨fun _ => 0, 0, 0⟩).2
    let found := fs.readDentryByName (terminated entry.fileName 32) ⟨fun _ => 0, 0, 0⟩
    found.1 = 0 ∧ (∀ k < 32, found.2.fileName k = entry.fileName k) ∧
      found.2.fileType = entry.fileType ∧ found.2.inodeNum = entry.inodeNum := by
  intro fs
  refine readDentryByName_of_listed ?_ ⟨fun _ => 0, 0, 0⟩ (by decide +kernel)
  have names : ∀ index < 63, fs.entryName index 0 ≠ 0 → index < 2 := by decide +kernel
  intro first firstLt second secondLt firstNamed secondNamed
  have different : fs.entryCharacters 0 ≠ fs.entryCharacters 1 := by decide +kernel
  obtain rfl | rfl : first = 0 ∨ first = 1 := by
    have := names first firstLt firstNamed
    omega
  all_goals
    obtain rfl | rfl : second = 0 ∨ second = 1 := by
      have := names second secondLt secondNamed
      omega
    all_goals simp [different, different.symm]

end FileSystem

end ChapOS
