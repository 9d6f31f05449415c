import ChapOS.CommandLine

/-!
# The words of a command line

What the parsing loop of `execute` computes: the first two runs of characters that
are not spaces, each followed by a NUL.  It takes at most two iterations for each
character, and stays inside its arrays exactly when both words are short enough.
-/

namespace ChapOS

open CountedLoops

/-- The first run of characters that are not spaces. -/
def firstRun (line : List UInt8) : List UInt8 :=
  (line.dropWhile (· == 0x20)).takeWhile (· != 0x20)

/-- What follows the first run. -/
def afterFirstRun (line : List UInt8) : List UInt8 :=
  (line.dropWhile (· == 0x20)).dropWhile (· != 0x20)

/-- The second run of characters that are not spaces. -/
def secondRun (line : List UInt8) : List UInt8 :=
  firstRun (afterFirstRun line)

/-- The first two words fit `file_name_command` and `arg_command`, each with its NUL. -/
def WordsFit (line : List UInt8) : Prop :=
  (firstRun line).length < maxNameSize ∧ (secondRun line).length < maxArgSize

instance (line : List UInt8) : Decidable (WordsFit line) :=
  inferInstanceAs (Decidable (_ ∧ _))

/-- Store the characters of a line from index `i` on, up to a space, which is stored
as a NUL. -/
def storeWord (array : TracedMemory Nat UInt8) : Nat → List UInt8 →
    TracedMemory Nat UInt8
  | _, [] => array
  | i, character :: rest =>
      if character = 0x20 then array.store i 0
      else storeWord (array.store i character) (i + 1) rest

/-- The loop has been left at the NUL or by its `break`, with the given arrays. -/
structure LeavesArrays (command : CString) (done : ParseState × ParseExit)
    (fileName argument : TracedMemory Nat UInt8) : Prop where
  fileNameCommand : done.1.fileNameCommand = fileName
  argCommand : done.1.argCommand = argument
  exit : (done.2 = .endOfCommand ∧ command done.1.i = 0) ∨ done.2 = .argSpace

section Loop

variable {command : CString} {state : ParseState} {rest : List UInt8} {fuel : Nat}

theorem parseLoop_of_end (fuel : Nat) (atEnd : command state.i = 0) :
    LeavesArrays command (parseLoop command fuel state) state.fileNameCommand
      state.argCommand := by
  cases fuel with
  | zero => exact ⟨rfl, rfl, Or.inl ⟨rfl, atEnd⟩⟩
  | succ fuel =>
      rw [parseLoop, if_pos atEnd]
      exact ⟨rfl, rfl, Or.inl ⟨rfl, atEnd⟩⟩

/-- One iteration that does not leave the loop. -/
theorem parseLoop_of_step {character : UInt8} {next : ParseState}
    (reads : command state.i = character) (notNul : character ≠ 0)
    (steps : state.step character = (next, none)) :
    parseLoop command (fuel + 1) state = parseLoop command fuel next := by
  rw [parseLoop, reads, if_neg notNul, steps]

/-- The argument is copied. -/
theorem parseLoop_argument {nameStart nameEnd start m : Nat}
    (name : state.nameStartingPoint = some nameStart)
    (named : state.nameEndingPoint = some nameEnd)
    (starts : state.argStartingPoint = some start)
    (ends : state.argEndingPoint = none) (position : state.i = start + m)
    (spells : SpellsFrom command state.i rest) (enough : rest.length ≤ fuel) :
    LeavesArrays command (parseLoop command fuel state) state.fileNameCommand
      (storeWord state.argCommand m rest) := by
  induction rest generalizing state fuel m with
  | nil => exact parseLoop_of_end fuel spells
  | cons character rest ih =>
      obtain ⟨reads, notNul, later⟩ := spells
      rw [List.length_cons] at enough
      obtain ⟨fuel, rfl⟩ : ∃ less, fuel = less + 1 := ⟨fuel - 1, by omega⟩
      have index : state.i - start = m := by omega
      rw [storeWord]
      by_cases isSpace : character = 0x20
      · rw [if_pos isSpace, parseLoop, reads, if_neg notNul]
        simp only [ParseState.step, name, named, starts, ends, isSpace, index]
        exact ⟨rfl, rfl, Or.inr rfl⟩
      · have steps : state.step character =
            ({ state with
                argCommand := state.argCommand.store m character
                i := state.i + 1 }, none) := by
          simp [ParseState.step, name, named, starts, ends, isSpace, index]
        rw [if_neg isSpace, parseLoop_of_step reads notNul steps]
        exact ih name named starts ends (show state.i + 1 = start + (m + 1) by omega)
          later (by omega)

/-- The spaces in front of the argument are skipped. -/
theorem parseLoop_beforeArgument {nameStart nameEnd : Nat}
    (name : state.nameStartingPoint = some nameStart)
    (named : state.nameEndingPoint = some nameEnd)
    (starts : state.argStartingPoint = none)
    (ends : state.argEndingPoint = none)
    (spells : SpellsFrom command state.i rest) (enough : 2 * rest.length ≤ fuel) :
    LeavesArrays command (parseLoop command fuel state) state.fileNameCommand
      (storeWord state.argCommand 0 (rest.dropWhile (· == 0x20))) := by
  induction rest generalizing state fuel with
  | nil => exact parseLoop_of_end fuel spells
  | cons character rest ih =>
      obtain ⟨reads, notNul, later⟩ := spells
      rw [List.length_cons] at enough
      obtain ⟨fuel, rfl⟩ : ∃ less, fuel = less + 2 := ⟨fuel - 2, by omega⟩
      by_cases isSpace : character = 0x20
      · have steps : state.step character = ({ state with i := state.i + 1 }, none) := by
          simp [ParseState.step, name, named, starts, isSpace]
        rw [parseLoop_of_step reads notNul steps,
          List.dropWhile_cons_of_pos (by simp [isSpace])]
        exact ih name named starts ends later (by omega)
      · -- The first iteration sets `arg_starting_point` and stays.
        have steps : state.step character =
            ({ state with argStartingPoint := some state.i }, none) := by
          simp [ParseState.step, name, named, starts, isSpace]
        rw [parseLoop_of_step reads notNul steps,
          List.dropWhile_cons_of_neg (by simp [isSpace])]
        exact parseLoop_argument name named rfl ends (show state.i = state.i + 0 from rfl)
          ⟨reads, notNul, later⟩ (by rw [List.length_cons]; omega)

/-- The program name is copied. -/
theorem parseLoop_name {start m : Nat} (name : state.nameStartingPoint = some start)
    (named : state.nameEndingPoint = none) (starts : state.argStartingPoint = none)
    (ends : state.argEndingPoint = none) (position : state.i = start + m)
    (spells : SpellsFrom command state.i rest) (enough : 2 * rest.length ≤ fuel) :
    LeavesArrays command (parseLoop command fuel state)
      (storeWord state.fileNameCommand m rest)
      (storeWord state.argCommand 0
        ((rest.dropWhile (· != 0x20)).dropWhile (· == 0x20))) := by
  induction rest generalizing state fuel m with
  | nil => exact parseLoop_of_end fuel spells
  | cons character rest ih =>
      obtain ⟨reads, notNul, later⟩ := spells
      rw [List.length_cons] at enough
      obtain ⟨fuel, rfl⟩ : ∃ less, fuel = less + 2 := ⟨fuel - 2, by omega⟩
      have index : state.i - start = m := by omega
      rw [storeWord]
      by_cases isSpace : character = 0x20
      · -- The space ends the name in one iteration and is skipped in the next.
        have endsName : state.step character =
            ({ state with
                nameEndingPoint := some state.i
                fileNameCommand := state.fileNameCommand.store m 0 }, none) := by
          simp [ParseState.step, name, named, isSpace, index]
        have skips : ({ state with
            nameEndingPoint := some state.i
            fileNameCommand := state.fileNameCommand.store m 0 } : ParseState).step
              character =
            ({ state with
                nameEndingPoint := some state.i
                fileNameCommand := state.fileNameCommand.store m 0
                i := state.i + 1 }, none) := by
          simp [ParseState.step, name, starts, isSpace]
        rw [parseLoop_of_step reads notNul endsName,
          parseLoop_of_step (by exact reads) notNul skips, if_pos isSpace,
          List.dropWhile_cons_of_neg (by simp [isSpace]),
          List.dropWhile_cons_of_pos (by simp [isSpace])]
        exact parseLoop_beforeArgument name rfl starts ends later (by omega)
      · have copies : state.step character =
            ({ state with
                fileNameCommand := state.fileNameCommand.store m character
                i := state.i + 1 }, none) := by
          simp [ParseState.step, name, named, isSpace, index]
        rw [parseLoop_of_step reads notNul copies, if_neg isSpace,
          List.dropWhile_cons_of_pos (by simp [isSpace])]
        exact ih name named starts ends (show state.i + 1 = start + (m + 1) by omega)
          later (by omega)

/-- The spaces in front of the program name are skipped. -/
theorem parseLoop_beforeName (name : state.nameStartingPoint = none)
    (named : state.nameEndingPoint = none) (starts : state.argStartingPoint = none)
    (ends : state.argEndingPoint = none)
    (spells : SpellsFrom command state.i rest) (enough : 2 * rest.length ≤ fuel) :
    LeavesArrays command (parseLoop command fuel state)
      (storeWord state.fileNameCommand 0 (rest.dropWhile (· == 0x20)))
      (storeWord state.argCommand 0
        ((afterFirstRun rest).dropWhile (· == 0x20))) := by
  unfold afterFirstRun
  induction rest generalizing state fuel with
  | nil => exact parseLoop_of_end fuel spells
  | cons character rest ih =>
      obtain ⟨reads, notNul, later⟩ := spells
      rw [List.length_cons] at enough
      obtain ⟨fuel, rfl⟩ : ∃ less, fuel = less + 2 := ⟨fuel - 2, by omega⟩
      by_cases isSpace : character = 0x20
      · have steps : state.step character = ({ state with i := state.i + 1 }, none) := by
          simp [ParseState.step, name, isSpace]
        rw [parseLoop_of_step reads notNul steps,
          List.dropWhile_cons_of_pos (by simp [isSpace])]
        exact ih name named starts ends later (by omega)
      · -- The first character takes two iterations.
        have begins : state.step character =
            ({ state with nameStartingPoint := some state.i }, none) := by
          simp [ParseState.step, name, isSpace]
        have copies : ({ state with
            nameStartingPoint := some state.i } : ParseState).step character =
            ({ state with
                nameStartingPoint := some state.i
                fileNameCommand := state.fileNameCommand.store 0 character
                i := state.i + 1 }, none) := by
          simp [ParseState.step, named, isSpace]
        rw [parseLoop_of_step reads notNul begins,
          parseLoop_of_step (by exact reads) notNul copies,
          List.dropWhile_cons_of_neg (by simp [isSpace]),
          List.dropWhile_cons_of_pos (by simp [isSpace]), storeWord, if_neg isSpace]
        exact parseLoop_name rfl named starts ends
          (show state.i + 1 = state.i + (0 + 1) from rfl) later (by omega)

end Loop

/-- The parsing loop leaves its arrays with the two words stored. -/
theorem parseLoop_leaves {command : CString} {line : List UInt8}
    (spells : Spells command line) {fuel : Nat} (enough : 2 * line.length ≤ fuel) :
    LeavesArrays command (parseLoop command fuel .initial)
      (storeWord (clearedArray maxNameSize) 0 (line.dropWhile (· == 0x20)))
      (storeWord (clearedArray maxArgSize) 0
        ((afterFirstRun line).dropWhile (· == 0x20))) :=
  parseLoop_beforeName rfl rfl rfl rfl spells enough

section Words

variable {array : TracedMemory Nat UInt8}

theorem storeWord_read_below (rest : List UInt8) {m k : Nat} (below : k < m) :
    (storeWord array m rest).read k = array.read k := by
  induction rest generalizing array m with
  | nil => rfl
  | cons character rest ih =>
      rw [storeWord]
      split
      · exact array.store_read_of_ne _ (by omega)
      · rw [ih (by omega), array.store_read_of_ne _ (by omega)]

/-- In an array of NULs, a stored word is followed by a NUL. -/
theorem storeWord_spells (rest : List UInt8) {m : Nat}
    (noNul : ∀ character ∈ rest, character ≠ 0)
    (blank : ∀ k, m ≤ k → array.read k = 0) :
    SpellsFrom (storeWord array m rest).read m (rest.takeWhile (· != 0x20)) := by
  induction rest generalizing array m with
  | nil => exact blank m (Nat.le_refl m)
  | cons character rest ih =>
      rw [storeWord]
      by_cases isSpace : character = 0x20
      · rw [if_pos isSpace, List.takeWhile_cons_of_neg (by simp [isSpace])]
        exact array.store_read_self m 0
      · rw [if_neg isSpace, List.takeWhile_cons_of_pos (by simp [isSpace])]
        refine ⟨?_, noNul character List.mem_cons_self, ?_⟩
        · rw [storeWord_read_below rest (Nat.lt_succ_self m), array.store_read_self]
        · apply ih fun other mem => noNul other (List.mem_cons_of_mem _ mem)
          intro k low
          rw [array.store_read_of_ne _ (by omega)]
          exact blank k (by omega)

/-- Where a word is stored: at the indices of its characters, and at the next one
for a space that follows. -/
theorem mem_storeWord_stores (rest : List UInt8) {m index : Nat} :
    index ∈ (storeWord array m rest).stores ↔
      index ∈ array.stores ∨
        (m ≤ index ∧ index < m + (rest.takeWhile (· != 0x20)).length) ∨
        (index = m + (rest.takeWhile (· != 0x20)).length ∧
          (rest.takeWhile (· != 0x20)).length < rest.length) := by
  induction rest generalizing array m with
  | nil =>
      rw [storeWord, List.takeWhile_nil, List.length_nil]
      refine ⟨Or.inl, ?_⟩
      rintro (stored | ⟨low, high⟩ | ⟨-, absurdity⟩)
      · exact stored
      · omega
      · omega
  | cons character rest ih =>
      rw [storeWord]
      by_cases isSpace : character = 0x20
      · rw [if_pos isSpace, List.takeWhile_cons_of_neg (by simp [isSpace]),
          array.store_stores, List.mem_cons, List.length_nil, List.length_cons]
        by_cases stored : index ∈ array.stores
        · simp only [stored, or_true, true_or]
        · simp only [stored, or_false, false_or]
          omega
      · rw [if_neg isSpace, List.takeWhile_cons_of_pos (by simp [isSpace]), ih,
          array.store_stores, List.mem_cons, List.length_cons, List.length_cons]
        by_cases stored : index ∈ array.stores
        · simp only [stored, or_true, true_or]
        · simp only [stored, or_false, false_or]
          omega

end Words

theorem clearedArray_read (size k : Nat) : (clearedArray size).read k = 0 := by
  induction size with
  | zero => rfl
  | succ size ih =>
      rw [clearedArray, forUpTo_succ, TracedMemory.store_read]
      split
      · rfl
      · exact ih

theorem mem_clearedArray_stores {size index : Nat} :
    index ∈ (clearedArray size).stores ↔ index < size := by
  induction size with
  | zero => simp [clearedArray]
  | succ size ih =>
      rw [clearedArray, forUpTo_succ, TracedMemory.store_stores, List.mem_cons]
      rw [show index ∈ (forUpTo size (fun i array => array.store i 0)
        ⟨fun _ => 0, []⟩ : TracedMemory Nat UInt8).stores ↔ index < size from ih]
      omega

/-- A word stored in a cleared array. -/
theorem storeWord_cleared_spells {line : List UInt8} (size : Nat)
    (noNul : ∀ character ∈ line, character ≠ 0) :
    Spells (storeWord (clearedArray size) 0 (line.dropWhile (· == 0x20))).read
      (firstRun line) :=
  storeWord_spells _
    (fun character mem => noNul character (List.dropWhile_subset _ mem))
    fun k _ => clearedArray_read size k

/-- The parsing loop terminates without its `return -1`, and leaves the first two
words of the command in its arrays. -/
theorem parseLoop_words {command : CString} {line : List UInt8}
    (spells : Spells command line) {fuel : Nat} (enough : 2 * line.length ≤ fuel) :
    let done := parseLoop command fuel .initial
    done.2 ≠ .refused ∧ (done.2 = .endOfCommand → command done.1.i = 0) ∧
      Spells done.1.fileNameCommand.read (firstRun line) ∧
      Spells done.1.argCommand.read (secondRun line) := by
  intro done
  have noNul := spells.noNul
  obtain ⟨fileName, argument, exit⟩ := parseLoop_leaves spells enough
  refine ⟨?_, ?_, ?_, ?_⟩
  · rcases exit with ⟨ends, -⟩ | breaks
    · rw [ends]
      decide
    · rw [breaks]
      decide
  · intro ends
    rcases exit with ⟨-, atEnd⟩ | breaks
    · exact atEnd
    · exact absurd (ends.symm.trans breaks) (by decide)
  · rw [fileName]
    exact storeWord_cleared_spells maxNameSize noNul
  · rw [argument]
    apply storeWord_cleared_spells
    exact fun character mem => noNul character
      (List.dropWhile_subset _ (List.dropWhile_subset _ mem))

example :
    let parsed := parseCommand ("  cat  frame0.txt".toList.map fun c => UInt8.ofNat c.toNat)
    parsed.2 = .endOfCommand ∧
      (List.range 4).map parsed.1.fileNameCommand.read = [0x63, 0x61, 0x74, 0] ∧
        parsed.1.argCommand.read 9 = 0x74 := by
  decide +kernel

/-- The bytes of the command "  cat  ab c". -/
def spacedCommand : List UInt8 :=
  [0x20, 0x20, 0x63, 0x61, 0x74, 0x20, 0x20, 0x61, 0x62, 0x20, 0x63]

theorem spacedCommand_noNul : ∀ character ∈ spacedCommand, character ≠ 0 := by
  simp [spacedCommand]

/-- Its words are "cat" and "ab". -/
theorem parseLoop_words_spaced :
    let done := parseCommand spacedCommand
    done.2 ≠ .refused ∧
      (done.2 = .endOfCommand → cString spacedCommand done.1.i = 0) ∧
      Spells done.1.fileNameCommand.read [0x63, 0x61, 0x74] ∧
      Spells done.1.argCommand.read [0x61, 0x62] :=
  parseLoop_words (spells_cString spacedCommand_noNul) (by decide)

/-- The loop stores to the arrays only, and both end up with a NUL. -/
structure InsideBuffers (done : ParseState) : Prop where
  fileName : ∀ index ∈ done.fileNameCommand.stores, index < maxNameSize
  argument : ∀ index ∈ done.argCommand.stores, index < maxArgSize
  fileNameNul : ∃ index < maxNameSize, done.fileNameCommand.read index = 0
  argumentNul : ∃ index < maxArgSize, done.argCommand.read index = 0

/-- A word that is shorter than its array is stored inside. -/
theorem storeWord_cleared_inside {line : List UInt8} {size : Nat}
    (short : (firstRun line).length < size) :
    ∀ index ∈ (storeWord (clearedArray size) 0 (line.dropWhile (· == 0x20))).stores,
      index < size := by
  intro index stored
  rw [mem_storeWord_stores, mem_clearedArray_stores] at stored
  unfold firstRun at short
  omega

/-- Parsing stays inside its buffers exactly when the name has fewer than 10
characters and the argument fewer than 100. -/
theorem parseLoop_inside_iff {command : CString} {line : List UInt8}
    (spells : Spells command line) {fuel : Nat} (enough : 2 * line.length ≤ fuel) :
    InsideBuffers (parseLoop command fuel .initial).1 ↔
      (firstRun line).length < 10 ∧ (secondRun line).length < 100 := by
  obtain ⟨-, -, nameSpells, argSpells⟩ := parseLoop_words spells enough
  obtain ⟨fileName, argument, -⟩ := parseLoop_leaves spells enough
  constructor
  · intro inside
    exact ⟨(nameSpells.nul_iff 10).mp inside.fileNameNul,
      (argSpells.nul_iff 100).mp inside.argumentNul⟩
  · rintro ⟨shortName, shortArg⟩
    refine
      { fileName := ?_
        argument := ?_
        fileNameNul := (nameSpells.nul_iff 10).mpr shortName
        argumentNul := (argSpells.nul_iff 100).mpr shortArg }
    · rw [fileName]
      exact storeWord_cleared_inside shortName
    · rw [argument]
      exact storeWord_cleared_inside shortArg

theorem parseLoop_inside_spaced : InsideBuffers (parseCommand spacedCommand).1 :=
  (parseLoop_inside_iff (spells_cString spacedCommand_noNul)
    (show 2 * spacedCommand.length ≤ _ by decide)).mpr (by decide)

/-- A name of 11 characters is stored behind `file_name_command`, and one of 10
leaves no NUL in it. -/
theorem parseLoop_overruns_name :
    (10 ∈ (parseCommand (List.replicate 11 0x61)).1.fileNameCommand.stores ∧
        ¬InsideBuffers (parseCommand (List.replicate 11 0x61)).1) ∧
      ¬InsideBuffers (parseCommand (List.replicate 10 0x61)).1 := by
  have stored : 10 ∈ (parseCommand (List.replicate 11 0x61)).1.fileNameCommand.stores := by
    decide +kernel
  refine ⟨⟨stored, fun inside => ?_⟩, fun inside => ?_⟩
  · exact absurd (inside.fileName 10 stored) (by decide)
  · have noNul : ¬∃ index < maxNameSize, (parseCommand
        (List.replicate 10 0x61)).1.fileNameCommand.read index = 0 := by
      decide +kernel
    exact noNul inside.fileNameNul

end ChapOS
