import ChapOS.ListProgram

/-!
# The program `grep`

`grep` walks over the directory and looks through every file whose name does not begin
with a dot.  It reads a file into a buffer of 1024 bytes, takes the lines out of it,
moves the line that is cut off by the end of the buffer to the front and fills the
buffer up behind it.
-/

namespace ChapOS

open WhileLoops

/-- The character `':'` -/
def colon : UInt8 := 0x3A

/-- The character `'.'` -/
def dot : UInt8 := 0x2E

section Program

/-- The bytes from `data + start` on. -/
def bytesFrom (data : CString) (start : Nat) : CString :=
  fun k => data (start + k)

/-- The loop that looks for the end of a line, from `lineEnd` on, with `remaining`
bytes left in front of `last`. -/
def lineEndFrom (data : CString) : Nat → Nat → Nat
  | 0, lineEnd => lineEnd
  | remaining + 1, lineEnd =>
      if data lineEnd ≠ newLine then lineEndFrom data remaining (lineEnd + 1) else lineEnd

/-- The loop over `check`, with `remaining` positions left in front of the end of the
line: whether it finds the string.  The first test compares a `char` with a byte, and a
`char` is signed. -/
def foundFrom (s : CString) (sLen : Nat) (data : CString) : Nat → Nat → Bool
  | 0, _ => false
  | remaining + 1, check =>
      if (s 0).toInt8.toInt = (data check).toNat ∧
          ece391Strncmp (bytesFrom data check) s sLen = 0 then true
      else foundFrom s sLen data remaining (check + 1)

variable {World : Type} (calls : SystemCalls World)

/-- What `do_one_file` prints for a line. -/
def printLine (world : World) (fname line : CString) : World :=
  let named := calls.ece391Fdputs world 1 fname
  let separated := calls.ece391Fdputs named 1 (literal ":")
  let printed := calls.ece391Fdputs separated 1 line
  calls.ece391Fdputs printed 1 (literal "\n")

/-- The loop over the lines in the buffer, with `data` and `line_start` beside the
world.  It leaves `data` and the new value of `last`. -/
def grepLineTurn (s fname : CString) (cnt : Int) (last : Nat)
    (state : World × CString × Nat) :
    Turn (World × CString × Nat) (World × CString × Nat) :=
  let (world, data, lineStart) := state
  let lineEnd := lineEndFrom data (last - lineStart) lineStart
  let ended := Function.update data lineEnd 0
  if data lineEnd ≠ newLine ∧ cnt ≠ 0 ∧ lineStart ≠ 0 then
    .exit (world, ece391Strcpy ended 0 lineStart, last - lineStart)
  else
    let searched :=
      if foundFrom s (ece391Strlen s) ended (lineEnd - lineStart) lineStart then
        printLine calls world fname (bytesFrom ended lineStart)
      else world
    if last ≤ lineEnd + 1 then .exit (searched, ended, 0)
    else .next (searched, ended, lineEnd + 1)

/-- The outer loop of `do_one_file`, with `data` and `last` beside the world.
`ece391_read` returns -1 or a count. -/
def grepTurn (turns : Nat) (s fname : CString) (fd : Int) (state : World × CString × Nat) :
    Turn (World × CString × Nat) (World × Int) :=
  let (world, data, last) := state
  let done := calls.read world fd (bytesFrom data last) (1024 - last)
  let cnt := done.2.1
  if cnt = -1 then .exit (calls.ece391Fdputs done.1 1 (literal "file read failed\n"), -1)
  else
    let filled : CString := fun k => if k < last then data k else done.2.2 (k - last)
    let last := last + cnt.toNat
    .after (runFor (grepLineTurn calls s fname cnt last) turns (done.1, filled, 0))
      fun lines =>
        if cnt = 0 then
          let closed := calls.close lines.1 fd
          if closed.2 = -1 then
            .exit (calls.ece391Fdputs closed.1 1 (literal "file close failed\n"), -1)
          else .exit (closed.1, 0)
        else .next lines

/-- `do_one_file` -/
def doOneFile (turns : Nat) (world : World) (data s fname : CString) :
    Option (World × Int) :=
  let opened := calls.openFile world fname
  if opened.2 = -1 then
    some (calls.ece391Fdputs opened.1 1 (literal "file open failed\n"), -1)
  else runFor (grepTurn calls turns s fname opened.2) turns (opened.1, data, 0)

/-- The loop of `main` in `ece391grep.c`.  `stack` is what the array of `do_one_file`
holds when it is called. -/
def grepMainTurn (stack : World → CString) (turns : Nat) (search : CString) (fd : Int)
    (state : World × CString) : Turn (World × CString) (World × Int) :=
  let done := calls.read state.1 fd state.2 (33 - 1)
  let cnt := done.2.1
  if cnt = 0 then .exit (done.1, 0)
  else if cnt = -1 then
    .exit (calls.ece391Fdputs done.1 1 (literal "directory entry read failed\n"), 3)
  else if done.2.2 0 = dot then .next (done.1, done.2.2)
  else
    let fname := Function.update done.2.2 cnt.toNat 0
    .after (doOneFile calls turns done.1 (stack done.1) search fname) fun file =>
      if file.2 ≠ 0 then .exit (file.1, 3) else .next (file.1, fname)

/-- `main` of `ece391grep.c`. -/
def grep (stack : World → CString) (turns : Nat) (world : World) (search buf : CString) :
    Option (World × Int) :=
  let args := calls.getargs world search 1024
  if args.2.1 ≠ 0 then
    some (calls.ece391Fdputs args.1 1 (literal "could not read argument\n"), 3)
  else
    let opened := calls.openFile args.1 (literal ".")
    if opened.2 = -1 then
      some (calls.ece391Fdputs opened.1 1 (literal "directory open failed\n"), 2)
    else runFor (grepMainTurn calls stack turns args.2.2 opened.2) turns (opened.1, buf)

end Program

/-- The lines in which `grep` finds a string: those that contain it, but none if its
first byte has its sign bit set. -/
def GrepFinds (pattern line : List UInt8) : Prop :=
  pattern.headD 0 < 0x80 ∧ pattern <:+: line

instance (pattern line : List UInt8) : Decidable (GrepFinds pattern line) :=
  inferInstanceAs (Decidable (_ ∧ _))

/-- The lines of a text in which a string is found, as `grep` prints them. -/
def matchingLines (pattern name text : List UInt8) : List UInt8 :=
  (text.splitOn newLine).flatMap fun line =>
    if GrepFinds pattern line then name ++ colon :: line ++ [newLine] else []

section Lines

variable {data s : CString} {pattern : List UInt8}

theorem lineEndFrom_spec (data : CString) (remaining start : Nat) :
    let stop := lineEndFrom data remaining start
    start ≤ stop ∧ stop ≤ start + remaining ∧
      (∀ k, start ≤ k → k < stop → data k ≠ newLine) ∧
      (stop < start + remaining → data stop = newLine) := by
  induction remaining generalizing start with
  | zero =>
      refine ⟨Nat.le_refl start, Nat.le_refl start, fun k low high => ?_, fun below => ?_⟩
      · exact absurd high (Nat.not_lt_of_le low)
      · exact absurd below (Nat.lt_irrefl start)
  | succ remaining ih =>
      rw [lineEndFrom]
      by_cases isEnd : data start = newLine
      · rw [if_neg (not_not_intro isEnd)]
        refine ⟨Nat.le_refl start, Nat.le_add_right _ _, fun k low high => ?_, fun _ => isEnd⟩
        exact absurd high (Nat.not_lt_of_le low)
      · rw [if_pos isEnd]
        obtain ⟨low, high, inside, ends⟩ := ih (start + 1)
        refine ⟨by omega, by omega, fun k kLow kHigh => ?_, fun below => ends (by omega)⟩
        by_cases here : k = start
        · exact here ▸ isEnd
        · exact inside k (by omega) kHigh

theorem spellsFrom_bytesFrom {start i : Nat} {word : List UInt8}
    (spells : SpellsFrom (bytesFrom data start) (i + 1) word) :
    SpellsFrom (bytesFrom data (start + 1)) i word := by
  have shifted (k : Nat) : bytesFrom data (start + 1) k = bytesFrom data start (k + 1) := by
    unfold bytesFrom
    rw [Nat.add_assoc, Nat.add_comm 1]
  induction word generalizing i with
  | nil => exact (shifted i).trans spells
  | cons character rest ih =>
      obtain ⟨reads, notNul, tail⟩ := spells
      exact ⟨(shifted i).trans reads, notNul, ih tail⟩

/-- At one position the comparison finds out whether the rest of the line begins with
the string. -/
theorem ece391Strncmp_iff_prefix (spells : Spells s pattern)
    (short : pattern.length < 2 ^ 32) {check : Nat} {line : List UInt8}
    (lineSpells : Spells (bytesFrom data check) line) :
    ece391Strncmp (bytesFrom data check) s (ece391Strlen s) = 0 ↔ pattern <+: line := by
  rw [ece391Strlen, strlen_of_spells spells short, ece391Strncmp_eq_zero_iff,
    characters_of_spells spells, characters_of_spells lineSpells,
    List.take_of_length_le (Nat.le_refl _), List.prefix_iff_eq_take]
  exact eq_comm

/-- A byte is the same as a `char` and as itself below 0x80. -/
theorem toInt8_eq_iff (character : UInt8) :
    character.toInt8.toInt = character.toNat ↔ character < 0x80 := by
  have signed : character.toInt8.toInt = character.toBitVec.toInt := rfl
  have below : character < 0x80 ↔ character.toBitVec.toNat < 128 :=
    UInt8.lt_iff_toNat_lt
  have size := character.toBitVec.isLt
  rw [signed, below, BitVec.toInt_eq_toNat_cond, ← UInt8.toNat_toBitVec]
  split <;> omega

theorem toInt8_ne_zero {character : UInt8} (notNul : character ≠ 0) :
    character.toInt8.toInt ≠ (0 : UInt8).toNat := by
  intro zero
  apply notNul
  have same : character.toInt8 = (0 : UInt8).toInt8 := Int8.toInt_inj.mp zero
  have bytes := congrArg Int8.toUInt8 same
  rwa [UInt8.toUInt8_toInt8, UInt8.toUInt8_toInt8] at bytes

/-- Nothing is found among NULs. -/
theorem foundFrom_of_nul {sLen : Nat} (notNul : s 0 ≠ 0) {remaining check : Nat}
    (padded : ∀ k < remaining, data (check + k) = 0) :
    foundFrom s sLen data remaining check = false := by
  induction remaining generalizing check with
  | zero => rfl
  | succ remaining ih =>
      have here : data check = 0 := padded 0 (Nat.succ_pos remaining)
      rw [foundFrom, here, if_neg fun found => toInt8_ne_zero notNul found.1]
      apply ih
      intro k kLt
      rw [Nat.add_assoc, Nat.add_comm 1]
      exact padded (k + 1) (by omega)

/-- The search finds the string exactly when the line contains it and its first byte is
below 0x80.  Behind the line the buffer holds NULs. -/
theorem foundFrom_iff (spells : Spells s pattern) (notEmpty : pattern ≠ [])
    (short : pattern.length < 2 ^ 32) {line : List UInt8} {check remaining : Nat}
    (lineSpells : Spells (bytesFrom data check) line) (within : line.length ≤ remaining)
    (padded : ∀ k, line.length ≤ k → k < remaining → data (check + k) = 0) :
    foundFrom s (ece391Strlen s) data remaining check = true ↔
      GrepFinds pattern line := by
  induction line generalizing remaining check with
  | nil =>
      rw [foundFrom_of_nul (spells.head_ne_nul notEmpty) fun k kLt =>
        padded k (Nat.zero_le k) kLt]
      simp [GrepFinds, notEmpty]
  | cons character rest ih =>
      rw [List.length_cons] at within padded
      obtain ⟨remaining, rfl⟩ : ∃ more, remaining = more + 1 := ⟨remaining - 1, by omega⟩
      have matched := ece391Strncmp_iff_prefix spells short lineSpells
      obtain ⟨reads, notNul, tail⟩ := lineSpells
      have later := @ih (check + 1) remaining (spellsFrom_bytesFrom tail) (by omega) (by
        intro k low high
        rw [Nat.add_assoc, Nat.add_comm 1]
        exact padded (k + 1) (by omega) (by omega))
      -- Of a string that begins here the first character is seen as a `char`.
      have first : pattern <+: character :: rest →
          ((s 0).toInt8.toInt = (data check).toNat ↔ pattern.headD 0 < 0x80) := by
        intro isPrefix
        cases pattern with
        | nil => exact absurd rfl notEmpty
        | cons letter letters =>
            have head : s 0 = letter := spells.1
            have here : data check = letter :=
              reads.trans (List.cons_prefix_cons.mp isPrefix).1.symm
            rw [head, here, toInt8_eq_iff]
            rfl
      rw [foundFrom]
      unfold GrepFinds at later ⊢
      rw [List.infix_cons_iff, and_or_left, ← later]
      by_cases isPrefix : pattern <+: character :: rest
      · by_cases found : pattern.headD 0 < 0x80
        · rw [if_pos ⟨(first isPrefix).mpr found, matched.mpr isPrefix⟩]
          simp only [found, isPrefix, and_self, true_or]
        · rw [if_neg fun both => found ((first isPrefix).mp both.1)]
          simp only [found, false_and, false_or]
      · rw [if_neg fun both => isPrefix (matched.mp both.2)]
        simp only [isPrefix, and_false, false_or]

theorem cString_append_left {word rest : List UInt8} {k : Nat} (inside : k < word.length) :
    cString (word ++ rest) k = cString word k := by
  rw [cString_of_lt (by rw [List.length_append]; omega), cString_of_lt inside,
    List.getElem_append_left inside]

theorem cString_append_right (word rest : List UInt8) (k : Nat) :
    cString (word ++ rest) (word.length + k) = cString rest k := by
  simp [cString, List.getD_eq_getElem?_getD, List.getElem?_append_right]

theorem cString_of_le {word : List UInt8} {k : Nat} (behind : word.length ≤ k) :
    cString word k = 0 := by
  simp [cString, List.getD_eq_getElem?_getD, List.getElem?_eq_none behind]

/-- The line in front of the first line feed. -/
theorem exists_line {rest : List UInt8} {count : Nat} (isEnd : cString rest count = newLine)
    (inside : ∀ k < count, cString rest k ≠ newLine) :
    ∃ line tail, rest = line ++ newLine :: tail ∧ line.length = count ∧ newLine ∉ line := by
  have countLt : count < rest.length := by
    by_contra behind
    rw [cString_of_le (Nat.le_of_not_lt behind)] at isEnd
    exact absurd isEnd (by decide)
  rw [cString_of_lt countLt] at isEnd
  refine ⟨rest.take count, rest.drop (count + 1), ?_, ?_, ?_⟩
  · rw [← isEnd, List.getElem_cons_drop, List.take_append_drop]
  · rw [List.length_take, Nat.min_eq_left (Nat.le_of_lt countLt)]
  · intro mem
    obtain ⟨k, kLt, reads⟩ := List.mem_iff_getElem.mp mem
    rw [List.length_take] at kLt
    rw [List.getElem_take] at reads
    apply inside k (by omega)
    rw [cString_of_lt (by omega), reads]

/-- A text without a line feed at its beginning has a long first line. -/
theorem exists_long_line {rest : List UInt8} {count : Nat} (within : count ≤ rest.length)
    (inside : ∀ k < count, cString rest k ≠ newLine) :
    ∃ line ∈ rest.splitOn newLine, count ≤ line.length := by
  by_cases broken : newLine ∈ rest
  · obtain ⟨line, tail, rfl, unbroken⟩ := List.eq_append_cons_of_mem broken
    refine ⟨line, ?_, ?_⟩
    · rw [List.splitOn_append_cons_self_of_not_mem unbroken]
      exact List.mem_cons_self
    · by_contra short
      apply inside line.length (by omega)
      rw [← Nat.add_zero line.length, cString_append_right]
      rfl
  · refine ⟨rest, ?_, within⟩
    rw [List.splitOn_eq_singleton broken]
    exact List.mem_singleton_self rest

theorem matchingLines_nil {name : List UInt8} (notEmpty : pattern ≠ []) :
    matchingLines pattern name [] = [] := by
  simp [matchingLines, GrepFinds, notEmpty]

theorem matchingLines_cons (pattern name : List UInt8) {line : List UInt8}
    (unbroken : newLine ∉ line) (tail : List UInt8) :
    matchingLines pattern name (line ++ newLine :: tail) =
      (if GrepFinds pattern line then name ++ colon :: line ++ [newLine] else []) ++
        matchingLines pattern name tail := by
  unfold matchingLines
  rw [List.splitOn_append_cons_self_of_not_mem unbroken, List.flatMap_cons]

theorem matchingLines_last (pattern name : List UInt8) {line : List UInt8}
    (unbroken : newLine ∉ line) :
    matchingLines pattern name line =
      if GrepFinds pattern line then name ++ colon :: line ++ [newLine] else [] := by
  unfold matchingLines
  rw [List.splitOn_eq_singleton unbroken, List.flatMap_cons, List.flatMap_nil,
    List.append_nil]

end Lines

/-- The string that is searched for, and the name of the file. -/
structure GrepArguments (s fname : CString) (pattern name : List UInt8) : Prop where
  s : Spells s pattern
  notEmpty : pattern ≠ []
  short : pattern.length < 2 ^ 31
  fname : Spells fname name
  nameShort : name.length < 2 ^ 31

namespace Session

variable {around : Surroundings} {fs : FileSystem} {session : Session}
  {s fname : CString} {pattern name : List UInt8}

theorem printLine_writes (fs : FileSystem) (args : GrepArguments s fname pattern name)
    (spares : around.SparesProcess) (stdout : session.HasStdout) {line : CString}
    {text : List UInt8} (spells : Spells line text) (short : text.length < 2 ^ 31) :
    Writes around session (name ++ colon :: text ++ [newLine])
      (printLine (systemCalls fs around) session fname line) := by
  have first := fdputs_writes fs spares stdout args.fname args.nameShort
  have second := fdputs_writes fs spares (first.hasStdout stdout)
    (show Spells (literal ":") [colon] from ⟨rfl, by decide, rfl⟩) (by decide)
  have both := first.trans second
  have third := both.trans (fdputs_writes fs spares (both.hasStdout stdout) spells short)
  have last := third.trans (fdputs_writes fs spares (third.hasStdout stdout)
    (show Spells (literal "\n") [newLine] from ⟨rfl, by decide, rfl⟩) (by decide))
  have joined : name ++ colon :: text ++ [newLine] = name ++ [colon] ++ text ++ [newLine] := by
    simp
  rw [joined]
  exact last

/-- A line is searched, and printed if it contains the string. -/
theorem search_writes (fs : FileSystem) (args : GrepArguments s fname pattern name)
    (spares : around.SparesProcess) (stdout : session.HasStdout) {data : CString}
    {start count : Nat} {line : List UInt8}
    (lineSpells : Spells (bytesFrom data start) line) (short : line.length < 2 ^ 31)
    (within : line.length ≤ count)
    (padded : ∀ k, line.length ≤ k → k < count → data (start + k) = 0) :
    Writes around session
      (if GrepFinds pattern line then name ++ colon :: line ++ [newLine] else [])
      (if foundFrom s (ece391Strlen s) data count start then
        printLine (systemCalls fs around) session fname (bytesFrom data start)
      else session) := by
  have found := foundFrom_iff args.s args.notEmpty (Nat.lt_trans args.short (by decide))
    lineSpells within padded
  by_cases contains : GrepFinds pattern line
  · rw [if_pos contains, if_pos (found.mpr contains)]
    exact printLine_writes fs args spares stdout lineSpells short
  · rw [if_neg contains, if_neg (mt found.mp contains)]
    exact .refl around session

/-- What is left in the buffer for the next read: `data` holds the next `last` bytes,
`rest` is all that is still to be searched, and `more` bytes of it have not been read. -/
structure Carries (rest : List UInt8) (more : Nat) (data : CString) (start last : Nat) :
    Prop where
  bytes : ∀ k, start + k < last → data (start + k) = cString rest k
  covers : rest.length ≤ last - start + more
  exact : 0 < more → rest.length = last - start + more
  -- The read at the end of a file takes one byte more.
  padding : last - start ≤ rest.length + 1
  sentinel : data 1024 ≠ newLine
  noNul : ∀ c ∈ rest, c ≠ 0
  lines : ∀ line ∈ rest.splitOn newLine, line.length < 1024

theorem Carries.suffix {rest line tail : List UInt8} {more start last : Nat}
    {data : CString} (carries : Carries rest more data start last)
    (isRest : rest = line ++ newLine :: tail) (unbroken : newLine ∉ line)
    (inBuffer : start + line.length < last) :
    Carries tail more (Function.update data (start + line.length) 0)
      (start + line.length + 1) last := by
  subst isRest
  have covers := carries.covers
  have exact := carries.exact
  have padding := carries.padding
  simp only [List.length_append, List.length_cons] at covers exact padding
  refine ⟨fun k kLt => ?_, by omega, fun positive => ?_, by omega, ?_, ?_, ?_⟩
  · have reads := carries.bytes (line.length + (k + 1)) (by omega)
    rw [cString_append_right] at reads
    rw [Function.update_of_ne (by omega), show start + line.length + 1 + k =
      start + (line.length + (k + 1)) by omega, reads]
    rfl
  · have := exact positive
    omega
  · rw [Function.update_apply]
    split
    · decide
    · exact carries.sentinel
  · intro c mem
    exact carries.noNul c (List.mem_append_right _ (List.mem_cons_of_mem _ mem))
  · intro other mem
    apply carries.lines
    rw [List.splitOn_append_cons_self_of_not_mem unbroken]
    exact List.mem_cons_of_mem _ mem

/-- Nothing is left in the buffer. -/
theorem Carries.consumed {rest : List UInt8} {more start last : Nat} {data : CString}
    (carries : Carries rest more data start last) (atLast : last ≤ start) :
    Carries rest more data 0 0 := by
  have covers := carries.covers
  have exact := carries.exact
  refine ⟨fun k kLt => absurd kLt (Nat.not_lt_zero _), by omega, fun positive => ?_, by omega,
    carries.sentinel, carries.noNul, carries.lines⟩
  have := exact positive
  omega

/-- Nothing is left in the buffer after a read at the end of the file. -/
theorem Carries.done {rest : List UInt8} {more start last : Nat} {data : CString} {cnt : Int}
    (carries : Carries rest more data start last) (atLast : last ≤ start) {size : Nat}
    (full : 0 < more → cnt ≠ 0 ∧ size = 1024) (none : cnt = 0) : rest = [] := by
  have covers := carries.covers
  apply List.eq_nil_of_length_eq_zero
  by_contra positive
  exact (full (by omega)).1 none

/-- A line that is complete in the buffer. -/
theorem Carries.line_spells {rest line tail : List UInt8} {more start last : Nat}
    {data : CString} (carries : Carries rest more data start last)
    (isRest : rest = line ++ tail) (inBuffer : start + line.length ≤ last)
    {stop : Nat} (isStop : start + line.length ≤ stop)
    (ends : start + line.length = stop ∨ tail = [] ∧ start + line.length < last) :
    Spells (bytesFrom (Function.update data stop 0) start) line := by
  subst isRest
  apply spells_of_read
  · intro c mem
    exact carries.noNul c (List.mem_append_left _ mem)
  · intro k inside
    unfold bytesFrom
    by_cases here : start + k = stop
    · obtain rfl : k = line.length := by omega
      rw [here, Function.update_self, cString_length]
    · rw [Function.update_of_ne here]
      by_cases atEnd : k = line.length
      · have nothing : tail = [] := by
          rcases ends with isEnd | ⟨nothing, -⟩
          · omega
          · exact nothing
        rw [carries.bytes k (by omega), nothing, List.append_nil]
      · rw [carries.bytes k (by omega), cString_append_left (by omega)]

/-- The line that is cut off by the end of the buffer is moved to its front. -/
theorem Carries.move {rest : List UInt8} {more start last : Nat} {data : CString}
    (carries : Carries rest more data start last) (within : start ≤ last)
    (behind : 0 < start) (lastLe : last ≤ 1024) :
    Carries rest more (ece391Strcpy (Function.update data last 0) 0 start) 0 (last - start) := by
  have covers := carries.covers
  have padding := carries.padding
  have isRest := (List.take_append_drop (last - start) rest).symm
  have length := List.length_take (i := last - start) (l := rest)
  generalize rest.take (last - start) = word at isRest length
  have spells : Spells (bytesFrom (Function.update data last 0) start) word := by
    apply carries.line_spells isRest (by omega) (by omega)
    by_cases short : rest.length < last - start
    · right
      exact ⟨List.drop_eq_nil_of_le (Nat.le_of_lt short), by omega⟩
    · left
      omega
  have copied := ece391Strcpy_down behind spells (by omega)
  refine ⟨fun k kLt => ?_, by omega, fun positive => ?_, by omega, ?_, carries.noNul,
    carries.lines⟩
  · rw [Nat.zero_add] at kLt ⊢
    rw [copied, if_pos (by omega)]
    by_cases atEnd : k = word.length
    · rw [atEnd, cString_length, cString_of_le (by omega)]
    · rw [isRest, cString_append_left (by omega)]
  · have := carries.exact positive
    omega
  · rw [copied, if_neg (by omega), Function.update_apply]
    split
    · decide
    · exact carries.sentinel

section Turns

variable {World : Type} {calls : SystemCalls World} {cnt : Int} {last start lineEnd : Nat}
  {world : World} {data : CString}

/-- A line that ends in the buffer, or that is not moved. -/
theorem grepLineTurn_search (isEnd : lineEndFrom data (last - start) start = lineEnd)
    (stays : ¬(data lineEnd ≠ newLine ∧ cnt ≠ 0 ∧ start ≠ 0)) :
    grepLineTurn calls s fname cnt last (world, data, start) =
      let ended := Function.update data lineEnd 0
      let searched :=
        if foundFrom s (ece391Strlen s) ended (lineEnd - start) start then
          printLine calls world fname (bytesFrom ended start)
        else world
      if last ≤ lineEnd + 1 then .exit (searched, ended, 0)
      else .next (searched, ended, lineEnd + 1) := by
  unfold grepLineTurn
  simp only [isEnd, if_neg stays]

/-- A line that is moved to the front of the buffer. -/
theorem grepLineTurn_move (isEnd : lineEndFrom data (last - start) start = lineEnd)
    (moves : data lineEnd ≠ newLine ∧ cnt ≠ 0 ∧ start ≠ 0) :
    grepLineTurn calls s fname cnt last (world, data, start) =
      .exit (world, ece391Strcpy (Function.update data lineEnd 0) 0 start, last - start) := by
  unfold grepLineTurn
  simp only [isEnd, if_pos moves]

end Turns

/-- The loop over the lines prints those it finds the string in, and leaves the last one
if it may go on behind the buffer. -/
theorem grep_lines (fs : FileSystem) (args : GrepArguments s fname pattern name)
    (spares : around.SparesProcess) (stdout : session.HasStdout) (cnt : Int) {last : Nat}
    (lastLe : last ≤ 1024) {more : Nat} (full : 0 < more → cnt ≠ 0 ∧ last = 1024)
    {data : CString} {start : Nat} (within : start ≤ last) {rest : List UInt8}
    (carries : Carries rest more data start last) :
    ∃ after kept keptLast remains bytes,
      Ends (grepLineTurn (systemCalls fs around) s fname cnt last) (session, data, start)
          (after, kept, keptLast) ∧
        Writes around session bytes after ∧
        bytes ++ matchingLines pattern name remains = matchingLines pattern name rest ∧
        remains <:+ rest ∧ Carries remains more kept 0 keptLast ∧ keptLast < 1024 ∧
        (cnt = 0 → remains = []) := by
  induction isAhead : last - start using Nat.strong_induction_on
    generalizing session data start rest with
  | _ ahead ih =>
      obtain ⟨low, high, inside, ends⟩ := lineEndFrom_spec data (last - start) start
      generalize isEnd : lineEndFrom data (last - start) start = lineEnd
        at low high inside ends
      by_cases complete : lineEnd < last
      · -- The line ends inside the buffer.
        obtain ⟨count, rfl⟩ : ∃ count, lineEnd = start + count := ⟨lineEnd - start, by omega⟩
        have isNewLine := ends (by omega)
        have readsEnd := (carries.bytes count complete).symm.trans isNewLine
        obtain ⟨line, tail, isRest, isCount, unbroken⟩ := exists_line readsEnd (by
          intro k kLt
          rw [← carries.bytes k (by omega)]
          exact inside (start + k) (by omega) (by omega))
        subst isCount
        have writes := search_writes fs args spares stdout
          (carries.line_spells isRest (by omega) (Nat.le_refl _) (Or.inl rfl)) (by omega)
          (Nat.le_refl line.length) (by omega)
        have turn := @grepLineTurn_search s fname Session (systemCalls fs around) cnt last start
          (start + line.length) session data isEnd (fun moves => moves.1 isNewLine)
        rw [show start + line.length - start = line.length by omega] at turn
        dsimp only at turn
        generalize (if foundFrom s (ece391Strlen s)
            (Function.update data (start + line.length) 0) line.length start then
          printLine (systemCalls fs around) session fname
            (bytesFrom (Function.update data (start + line.length) 0) start)
          else session) = searched at writes turn
        have behind := carries.suffix isRest unbroken complete
        have shorter : tail <:+ rest := isRest ▸
          (List.suffix_cons newLine tail).trans (List.suffix_append line _)
        have output := matchingLines_cons pattern name unbroken tail
        rw [← isRest] at output
        by_cases atLast : last ≤ start + line.length + 1
        · rw [if_pos atLast] at turn
          exact ⟨searched, _, 0, tail, _, .exit turn, writes, output.symm, shorter,
            behind.consumed atLast, by omega, fun none => behind.done atLast full none⟩
        · rw [if_neg atLast] at turn
          obtain ⟨after, kept, keptLast, remains, bytes, ended, moreWrites, sameOutput, suffix,
            keptCarries, keptLt, isDone⟩ := ih (last - (start + line.length + 1)) (by omega)
            (writes.hasStdout stdout) (by omega) behind rfl
          refine ⟨after, kept, keptLast, remains, _, ended.next turn, writes.trans moreWrites,
            ?_, suffix.trans shorter, keptCarries, keptLt, isDone⟩
          rw [List.append_assoc, sameOutput, output]
      · -- The line goes on to the end of the buffer.
        obtain rfl : lineEnd = last := by omega
        have unbroken (k : Nat) (kLt : start + k < lineEnd) : cString rest k ≠ newLine := by
          rw [← carries.bytes k kLt]
          exact inside (start + k) (by omega) kLt
        by_cases moves : data lineEnd ≠ newLine ∧ cnt ≠ 0 ∧ start ≠ 0
        · have turn := @grepLineTurn_move s fname Session (systemCalls fs around) cnt lineEnd
            start lineEnd session data isEnd moves
          exact ⟨session, _, lineEnd - start, rest, [], .exit turn, .refl around session, rfl,
            List.suffix_refl rest, carries.move within (by omega) lastLe, by omega,
            fun none => absurd none moves.2.1⟩
        · have noMore : more = 0 := by
            by_contra positive
            obtain ⟨counted, isFull⟩ := full (by omega)
            subst isFull
            have atFront : start = 0 := by
              by_contra behind
              exact moves ⟨carries.sentinel, counted, behind⟩
            have exact := carries.exact (by omega)
            obtain ⟨line, mem, long⟩ := exists_long_line (show 1024 ≤ rest.length by omega)
              fun k kLt => unbroken k (by omega)
            have := carries.lines line mem
            omega
          have covers := carries.covers
          have padding := carries.padding
          have notBroken : newLine ∉ rest := by
            intro mem
            obtain ⟨k, kLt, reads⟩ := List.mem_iff_getElem.mp mem
            apply unbroken k (by omega)
            rw [cString_of_lt kLt, reads]
          have inBuffer : start + rest.length ≤ lineEnd := by omega
          have spells : Spells (bytesFrom (Function.update data lineEnd 0) start) rest :=
            carries.line_spells (List.append_nil rest).symm inBuffer inBuffer
              ((Nat.eq_or_lt_of_le inBuffer).imp_right fun below => ⟨rfl, below⟩)
          have writes := search_writes fs args spares stdout spells (by omega)
            (show rest.length ≤ lineEnd - start by omega) (by
              intro k kLow kHigh
              have inBuffer : start + k < lineEnd := by omega
              rw [Function.update_of_ne (Nat.ne_of_lt inBuffer), carries.bytes k inBuffer,
                cString_of_le kLow])
          have turn := @grepLineTurn_search s fname Session (systemCalls fs around) cnt lineEnd
            start lineEnd session data isEnd moves
          dsimp only at turn
          rw [if_pos (Nat.le_succ lineEnd)] at turn
          refine ⟨_, _, 0, [], _, .exit turn, writes, ?_, List.nil_suffix, ?_, by omega,
            fun _ => rfl⟩
          · rw [matchingLines_nil args.notEmpty, List.append_nil,
              matchingLines_last pattern name notBroken]
          · refine ⟨fun k kLt => absurd kLt (Nat.not_lt_zero _), Nat.zero_le _, ?_,
              Nat.zero_le _, ?_, ?_, ?_⟩
            · intro positive
              omega
            · rw [Function.update_apply]
              split
              · decide
              · exact carries.sentinel
            · intro c mem
              exact absurd mem List.not_mem_nil
            · intro line mem
              rw [List.splitOn_nil, List.mem_singleton] at mem
              rw [mem]
              exact Nat.succ_pos _

end Session

namespace FileSystem

/-- The bytes of a file. -/
def fileText (fs : FileSystem) (inode : Nat) : List UInt8 :=
  fs.fileSlice inode 0 (fs.inodeLength inode)

/-- A text file: no NUL in it, but one behind it, and no line as long as the buffer. -/
structure TextFile (fs : FileSystem) (inode : Nat) : Prop where
  inRange : inode < fs.numInodes
  wellFormed : fs.WellFormedFile inode
  noNul : ∀ c ∈ fs.fileText inode, c ≠ 0
  padded : fs.mem (fs.byteAddress inode (fs.inodeLength inode)) = 0
  lines : ∀ line ∈ (fs.fileText inode).splitOn newLine, line.length < 1024

variable {fs : FileSystem} {inode : Nat}

theorem fileText_length (fs : FileSystem) (inode : Nat) :
    (fs.fileText inode).length = fs.inodeLength inode :=
  fs.fileSlice_length inode 0 _

/-- What a read takes from a text file. -/
theorem TextFile.byte (text : fs.TextFile inode) {position : Nat}
    (within : position ≤ fs.inodeLength inode) :
    fs.mem (fs.byteAddress inode position) = cString (fs.fileText inode) position := by
  by_cases atEnd : position = fs.inodeLength inode
  · rw [atEnd, text.padded, cString_of_le (Nat.le_of_eq (fs.fileText_length inode))]
  · have inside : position < (fs.fileText inode).length := by
      rw [fs.fileText_length]
      omega
    rw [mem_byteAddress text.wellFormed (by omega), cString_of_lt inside]
    simp [fileText, fileSlice]

end FileSystem

namespace Session

variable {around : Surroundings} {fs : FileSystem} {session : Session}
  {s fname : CString} {pattern name : List UInt8} {fd inode : Nat}

/-- The buffer after a read behind the bytes that were left in it. -/
def filledBuffer (data content : CString) (last : Nat) : CString :=
  fun k => if k < last then data k else content (k - last)

theorem Carries.fill (text : fs.TextFile inode) {rest : List UInt8} {data content : CString}
    {last position count : Nat} (inside : position < fs.inodeLength inode)
    (carries : Carries rest (fs.inodeLength inode - position) data 0 last)
    (lastLt : last < 1024) (suffix : rest <:+ fs.fileText inode)
    (isCount : fs.readCount inode position (1024 - last) = count)
    (reads : ∀ k, content k =
      if k < count then fs.mem (fs.byteAddress inode (position + k))
      else bytesFrom data last k) :
    Carries rest (fs.inodeLength inode - (position + count)) (filledBuffer data content last)
        0 (last + count) ∧
      0 < count ∧ last + count ≤ 1024 ∧ position + count ≤ fs.inodeLength inode + 1 ∧
      (0 < fs.inodeLength inode - (position + count) → last + count = 1024) := by
  have count_eq : count = min (1024 - last) (fs.inodeLength inode + 1 - position) :=
    isCount.symm
  have length := carries.exact (by omega)
  obtain ⟨before, isText⟩ := suffix
  have total := congrArg List.length isText
  rw [List.length_append, fs.fileText_length] at total
  refine ⟨⟨fun k kLt => ?_, by omega, fun positive => by omega, by omega, ?_,
    carries.noNul, carries.lines⟩, by omega, by omega, by omega, by omega⟩
  · unfold filledBuffer
    rw [Nat.zero_add] at kLt ⊢
    by_cases old : k < last
    · rw [if_pos old]
      have kept := carries.bytes k (by omega)
      rwa [Nat.zero_add] at kept
    · rw [if_neg old, reads, if_pos (by omega), text.byte (by omega), ← isText,
        show position + (k - last) = before.length + k by omega, cString_append_right]
  · unfold filledBuffer
    rw [if_neg (by omega), reads, if_neg (by omega)]
    unfold bytesFrom
    rw [show last + (1024 - last) = 1024 by omega]
    exact carries.sentinel

/-- `do_one_file` goes on from here: it has still to search `rest`. -/
structure Searches (fs : FileSystem) (fd inode position : Nat) (rest : List UInt8)
    (data : CString) (last : Nat) (session : Session) : Prop where
  stdout : session.HasStdout
  placed : session.pcb.fDescs fd = ⟨.fileOpsTbl, inode, position, flagActive⟩
  within : position ≤ fs.inodeLength inode + 1
  suffix : rest <:+ fs.fileText inode
  carries : Carries rest (fs.inodeLength inode - position) data 0 last
  lastLt : last < 1024

/-- One read, and the lines it completes. -/
theorem grepTurn_reads (args : GrepArguments s fname pattern name)
    (spares : around.SparesProcess) (fdLow : 2 ≤ fd) (fdLt : fd < 8)
    (text : fs.TextFile inode) {position last : Nat} {rest : List UInt8} {data : CString}
    (searches : Searches fs fd inode position rest data last session)
    (inside : position < fs.inodeLength inode) :
    ∃ enough after count kept keptLast remains bytes,
      (∀ turns, enough ≤ turns →
        grepTurn (systemCalls fs around) turns s fname fd (session, data, last) =
          .next (after, kept, keptLast)) ∧
        Searches fs fd inode (position + count) remains kept keptLast after ∧ 0 < count ∧
        Prints around session bytes after ∧
        (∀ other, other ≠ fd → after.pcb.fDescs other = session.pcb.fDescs other) ∧
        bytes ++ matchingLines pattern name remains = matchingLines pattern name rest := by
  have lengthLe := text.wellFormed.length_le
  have lastLt := searches.lastLt
  obtain ⟨middle, content, answered, descs, silent, reads⟩ := read_inside spares fdLt
    searches.placed text.inRange inside (by omega) (bytesFrom data last)
    (show 1024 - last < 2 ^ 31 by omega)
  generalize isCount : fs.readCount inode position (1024 - last) = count
    at answered descs reads
  obtain ⟨filled, positive, room, within, full⟩ := searches.carries.fill text inside lastLt
    searches.suffix isCount reads
  have others (other : Nat) (different : other ≠ fd) :
      middle.pcb.fDescs other = session.pcb.fDescs other := by
    rw [descs, Function.update_of_ne different]
  have stdout := searches.stdout.congr (others 1 (by omega))
  obtain ⟨after, kept, keptLast, remains, bytes, ended, writes, output, suffix, carries,
    keptLt, -⟩ := grep_lines fs args spares stdout count room
      (fun more => ⟨by omega, full more⟩) (Nat.zero_le _) filled
  obtain ⟨enough, ends⟩ := ended.exists_enough
  refine ⟨enough, after, count, kept, keptLast, remains, bytes, fun turns isEnough => ?_, ?_,
    positive, silent.silent writes.prints, ?_, output⟩
  · have size : (1024 : Int) - (last : Int) = ((1024 - last : Nat) : Int) := by omega
    have noFailure : ¬(count : Int) = -1 := by omega
    have notEnd : ¬(count : Int) = 0 := by omega
    simp only [grepTurn, size, answered, if_neg noFailure, if_neg notEnd, Int.toNat_natCast]
    have lines := ends turns isEnough
    unfold filledBuffer at lines
    rw [lines]
    rfl
  · exact ⟨writes.hasStdout stdout, by rw [writes.pcb, descs, Function.update_self], within,
      suffix.trans searches.suffix, carries, keptLt⟩
  · intro other different
    rw [writes.pcb, others other different]

/-- The read at the end of the file, after which the file is closed. -/
theorem grepTurn_ends (args : GrepArguments s fname pattern name)
    (spares : around.SparesProcess) (fdLow : 2 ≤ fd) (fdLt : fd < 8)
    (text : fs.TextFile inode) {position last : Nat} {rest : List UInt8} {data : CString}
    (searches : Searches fs fd inode position rest data last session)
    (atEnd : fs.inodeLength inode ≤ position) :
    ∃ enough after,
      (∀ turns, enough ≤ turns →
        grepTurn (systemCalls fs around) turns s fname fd (session, data, last) =
          .exit (after, 0)) ∧
        Prints around session (matchingLines pattern name rest) after ∧
        (∀ other, other ≠ fd → after.pcb.fDescs other = session.pcb.fDescs other) ∧
        (after.pcb.fDescs fd).flags = flagInactive := by
  have lengthLe := text.wellFormed.length_le
  have within := searches.within
  obtain ⟨middle, answered, descs, silent⟩ := read_atEnd spares fdLt searches.placed
    text.inRange atEnd (by omega) (bytesFrom data last) (1024 - last)
  have same : filledBuffer data (bytesFrom data last) last = data := by
    funext k
    unfold filledBuffer bytesFrom
    split
    · rfl
    · rw [show last + (k - last) = k by omega]
  have nothing : fs.inodeLength inode - position = 0 := by omega
  have carries := searches.carries
  rw [nothing] at carries
  obtain ⟨searched, kept, keptLast, remains, bytes, ended, writes, output, -, -, -, isDone⟩ :=
    grep_lines fs args spares (searches.stdout.congr (by rw [descs])) 0
      (Nat.le_of_lt searches.lastLt) (fun more => absurd more (Nat.lt_irrefl 0))
      (Nat.zero_le _) carries
  rw [isDone rfl, matchingLines_nil args.notEmpty, List.append_nil] at output
  have placed : searched.pcb.fDescs fd = ⟨.fileOpsTbl, inode, position, flagActive⟩ := by
    rw [writes.pcb, descs, searches.placed]
  obtain ⟨after, closed, closedDescs, closeSilent⟩ := close_open fs spares fdLow fdLt
    (by rw [placed]) (Or.inl (by rw [placed]))
  obtain ⟨enough, ends⟩ := ended.exists_enough
  refine ⟨enough, after, fun turns isEnough => ?_, ?_, ?_, ?_⟩
  · have lines := ends turns isEnough
    rw [← same] at lines
    unfold filledBuffer at lines
    have noFailure : ¬(0 : Int) = -1 := by decide
    simp only [grepTurn, answered, if_neg noFailure, Int.toNat_zero, Nat.add_zero]
    rw [lines]
    simp only [Turn.after, if_true, closed, if_neg noFailure]
  · have printed := (silent.silent writes.prints).trans closeSilent
    rwa [List.append_nil, output] at printed
  · intro other different
    rw [closedDescs, Function.update_of_ne different, writes.pcb, descs]
  · rw [closedDescs, Function.update_self]

/-- The loop of `do_one_file` prints the lines it finds the string in. -/
theorem grep_loop (args : GrepArguments s fname pattern name)
    (spares : around.SparesProcess) (fdLow : 2 ≤ fd) (fdLt : fd < 8)
    (text : fs.TextFile inode) {position last : Nat} {rest : List UInt8} {data : CString}
    (searches : Searches fs fd inode position rest data last session) :
    ∃ enough after,
      (∀ turns, enough ≤ turns → ∀ more, enough ≤ more →
        runFor (grepTurn (systemCalls fs around) turns s fname fd) more
          (session, data, last) = some (after, 0)) ∧
        Prints around session (matchingLines pattern name rest) after ∧
        (∀ other, other ≠ fd → after.pcb.fDescs other = session.pcb.fDescs other) ∧
        (after.pcb.fDescs fd).flags = flagInactive := by
  induction isAhead : fs.inodeLength inode - position using Nat.strong_induction_on
    generalizing session position last rest data with
  | _ ahead ih =>
      by_cases atEnd : fs.inodeLength inode ≤ position
      · obtain ⟨enough, after, exits, prints, others, closed⟩ :=
          grepTurn_ends args spares fdLow fdLt text searches atEnd
        refine ⟨enough + 1, after, fun turns isEnough more isMore => ?_, prints, others, closed⟩
        obtain ⟨more, rfl⟩ : ∃ rest, more = rest + 1 := ⟨more - 1, by omega⟩
        exact runFor_exit (exits turns (by omega)) more
      · obtain ⟨enough, middle, count, kept, keptLast, remains, bytes, goesOn, later, positive,
          first, middleOthers, output⟩ :=
          grepTurn_reads args spares fdLow fdLt text searches (by omega)
        obtain ⟨others, after, ended, prints, afterOthers, closed⟩ :=
          ih (fs.inodeLength inode - (position + count)) (by omega) later rfl
        refine ⟨max enough others + 1, after, fun turns isEnough more isMore => ?_, ?_, ?_,
          closed⟩
        · obtain ⟨more, rfl⟩ : ∃ rest, more = rest + 1 := ⟨more - 1, by omega⟩
          rw [runFor_next (goesOn turns (by omega))]
          exact ended turns (by omega) more (by omega)
        · rw [← output]
          exact first.trans prints
        · intro other different
          rw [afterOthers other different, middleOthers other different]

/-- An entry of the directory that `grep` looks through. -/
structure Searchable (fs : FileSystem) (index : Nat) : Prop where
  found : fs.findEntry (cString (fs.entryCharacters index)) = some index
  isFile : fs.entryType index = fileTypeFile
  text : fs.TextFile (fs.entryInode index)

/-- `do_one_file` -/
theorem doOneFile_prints {index : Nat} (searchable : Searchable fs index)
    (args : GrepArguments s fname pattern (fs.entryCharacters index))
    (named : fs.entryCharacters index ≠ []) (spares : around.SparesProcess)
    (stdout : session.HasStdout) (free : Kernel.freeSlot session.pcb = some fd)
    {data : CString} (sentinel : data 1024 ≠ newLine) :
    ∃ enough after,
      (∀ turns, enough ≤ turns →
        doOneFile (systemCalls fs around) turns session data s fname = some (after, 0)) ∧
        Prints around session
          (matchingLines pattern (fs.entryCharacters index)
            (fs.fileText (fs.entryInode index))) after ∧
        (∀ other, other ≠ fd → after.pcb.fDescs other = session.pcb.fDescs other) ∧
        (after.pcb.fDescs fd).flags = flagInactive := by
  obtain ⟨fdLow, fdLt, -⟩ := Kernel.freeSlot_spec free
  have found := searchable.found
  rw [← fs.findEntry_of_spells args.fname (spells_cString args.fname.noNul)] at found
  obtain ⟨opened, answered, descs, silent⟩ := openFile_found spares
    (args.fname.head_ne_nul named) found free (.regular searchable.isFile)
  have length := fs.fileText_length (fs.entryInode index)
  have searches : Searches fs fd (fs.entryInode index) 0 (fs.fileText (fs.entryInode index))
      data 0 opened := by
    refine ⟨stdout.congr ?_, ?_, Nat.zero_le _, List.suffix_refl _, ?_, by decide⟩
    · rw [descs, Function.update_of_ne (by omega)]
    · rw [descs, Function.update_self]
    · exact ⟨fun k kLt => absurd kLt (Nat.not_lt_zero _), by omega, fun _ => by omega,
        by omega, sentinel, searchable.text.noNul, searchable.text.lines⟩
  obtain ⟨enough, after, ended, prints, others, closed⟩ :=
    grep_loop args spares fdLow fdLt searchable.text searches
  have accepted : ¬(fd : Int) = -1 := by omega
  refine ⟨enough, after, fun turns isEnough => ?_, silent.silent prints, ?_, closed⟩
  · simp only [doOneFile, answered, if_neg accepted]
    exact ended turns isEnough turns isEnough
  · intro other different
    rw [others other different, descs, Function.update_of_ne different]

/-- What `grep` prints for an entry of the directory. -/
def grepEntry (fs : FileSystem) (pattern : List UInt8) (index : Nat) : List UInt8 :=
  if fs.entryName index 0 = dot then []
  else
    matchingLines pattern (fs.entryCharacters index) (fs.fileText (fs.entryInode index))

/-- The name in the buffer of `main`, with the NUL behind it. -/
theorem name_spells {position : Nat} {content : CString}
    (reads : ∀ k < 32, content k = fs.paddedName position k) :
    Spells (Function.update content 32 0) (fs.entryCharacters position) := by
  have length := fs.entryCharacters_length_le position
  apply SpellsFrom.congr (fs.paddedName_spells position)
  intro k _ inside
  by_cases atEnd : k = 32
  · rw [atEnd, Function.update_self]
    exact (if_neg (by omega)).symm
  · rw [Function.update_of_ne atEnd, reads k (by omega)]

/-- The loop of `grep` over the directory, which is open at `dir`. -/
theorem grepMain_loop (spares : around.SparesProcess) {dir : Nat} (dirLow : 2 ≤ dir)
    (dirLt : dir < 8) (spells : Spells s pattern) (notEmpty : pattern ≠ [])
    (short : pattern.length < 2 ^ 31) {stack : Session → CString}
    (sentinel : ∀ session, stack session 1024 ≠ newLine)
    (searchable : ∀ index < fs.listingLength, fs.entryName index 0 ≠ dot →
      Searchable fs index)
    (lists : Lists dir 0 session) (free : Kernel.freeSlot session.pcb = some fd)
    (buf : CString) :
    ∃ enough after,
      (∀ turns, enough ≤ turns →
        runFor (grepMainTurn (systemCalls fs around) stack turns s dir) turns
          (session, buf) = some (after, 0)) ∧
        Prints around session
          ((List.range fs.listingLength).flatMap (grepEntry fs pattern)) after := by
  have notDir : fd ≠ dir := by
    rintro rfl
    exact (Kernel.freeSlot_spec free).2.2 lists.desc.flags
  rw [List.range_eq_range']
  apply ends_of_pieces (fun turns => grepMainTurn (systemCalls fs around) stack turns s dir)
    (fun n session => Lists dir n session ∧ Kernel.freeSlot session.pcb = some fd)
    _ _ _ (Nat.zero_add _) ⟨lists, free⟩
  · rintro position inFront session buf ⟨lists, free⟩
    obtain ⟨middle, content, answered, middleLists, silent, reads, flags⟩ :=
      lists.read spares dirLow dirLt inFront buf (33 - 1)
    have middleFree : Kernel.freeSlot middle.pcb = some fd :=
      (freeSlot_congr fun other => by rw [flags other]).trans free
    have first : content 0 = fs.entryName position 0 := by
      rw [reads 0 (by decide), fs.paddedName_zero]
    have notEnd : ¬(32 : Int) = 0 := by decide
    have noFailure : ¬(32 : Int) = -1 := by decide
    by_cases hidden : fs.entryName position 0 = dot
    · refine ⟨0, middle, content, fun turns _ => ?_, ⟨middleLists, middleFree⟩, ?_⟩
      · simp only [grepMainTurn, answered, if_neg notEnd, if_neg noFailure, first, hidden,
          if_true]
      · rw [grepEntry, if_pos hidden]
        exact silent
    · have named := (fs.entry_iff_of_le (Nat.le_of_lt inFront)).mpr inFront
      have notEmptyName := FileSystem.entryCharacters_ne_nil named.2
      have nameLength := fs.entryCharacters_length_le position
      obtain ⟨enough, after, ended, prints, others, closed⟩ :=
        doOneFile_prints (searchable position inFront hidden)
          ⟨spells, notEmpty, short, name_spells reads, by omega⟩ notEmptyName spares
          middleLists.stdout middleFree (sentinel middle)
      refine ⟨enough, after, Function.update content 32 0, fun turns isEnough => ?_,
        ⟨⟨?_, ?_⟩, ?_⟩, ?_⟩
      · have isFile : ¬content 0 = dot := by
          rw [first]
          exact hidden
        simp only [grepMainTurn, answered, if_neg notEnd, if_neg noFailure, if_neg isFile,
          show (32 : Int).toNat = 32 from rfl, ended turns isEnough]
        rfl
      · have fdLow := (Kernel.freeSlot_spec free).1
        exact middleLists.stdout.congr (others 1 (by omega))
      · rw [others dir (Ne.symm notDir)]
        exact middleLists.desc
      · refine (freeSlot_congr fun other => ?_).trans middleFree
        by_cases same : other = fd
        · rw [same, closed]
          have inactive := (Kernel.freeSlot_spec middleFree).2.2
          exact ⟨fun absurdity => absurd absurdity (by decide),
            fun active => absurd active inactive⟩
        · rw [others other same]
      · rw [grepEntry, if_neg hidden]
        exact silent.silent prints
  · rintro session buf ⟨lists, -⟩
    obtain ⟨after, answered, -, silent⟩ :=
      read_listingEnd spares dirLt lists.desc rfl buf (33 - 1)
    refine ⟨after, fun _ => ?_, silent⟩
    simp only [grepMainTurn, answered, if_true]

end Session

open Session

/-- `grep` prints the lines in which it finds its argument, each behind the name of its
file, file by file in the order of the directory and line by line in the order of the
file. -/
theorem grep_prints_matches {fs : FileSystem} {around : Surroundings} {session : Session}
    {pattern : List UInt8} {index dir fd : Nat} (directory : HasDirectory fs index)
    (spares : around.SparesProcess) (stdout : session.HasStdout)
    (free : Kernel.freeSlot session.pcb = some dir)
    (nextFree : Kernel.freeSlot
      (session.pcb.setDesc dir ⟨.dirOpsTbl, 0, 0, flagActive⟩) = some fd)
    (argument : Spells
      (session.kernel.pcbAt (pcbAddress session.kernel.activeProcNum)).argBuff pattern)
    (short : pattern.length < 100) (notEmpty : pattern ≠ [])
    (searchable : ∀ index < fs.listingLength, fs.entryName index 0 ≠ dot →
      Searchable fs index)
    {stack : Session → CString} (sentinel : ∀ session, stack session 1024 ≠ newLine)
    (search buf : CString) :
    ∃ enough after,
      (∀ turns, enough ≤ turns →
        grep (systemCalls fs around) stack turns session search buf = some (after, 0)) ∧
        Prints around session
          ((List.range fs.listingLength).flatMap (grepEntry fs pattern)) after := by
  obtain ⟨dirLow, dirLt, -⟩ := Kernel.freeSlot_spec free
  obtain ⟨called, content, answered, spells, samePcb, silent⟩ := getargs_argument fs spares
    argument search (show pattern.length ≤ 1024 by omega) (by omega)
  rw [Nat.cast_ofNat] at answered
  obtain ⟨opened, openAnswered, lists, others, openSilent⟩ := openFile_directory directory
    spares (stdout.congr (by rw [samePcb])) (samePcb.symm ▸ free)
  have openFree : Kernel.freeSlot opened.pcb = some fd := by
    refine (freeSlot_congr fun other => ?_).trans nextFree
    by_cases same : other = dir
    · rw [same, lists.desc.flags, Pcb.setDesc_fDescs_self]
    · rw [others other same, samePcb, Pcb.setDesc_fDescs_of_ne _ _ same]
  obtain ⟨enough, after, ended, prints⟩ := grepMain_loop spares dirLow dirLt spells notEmpty
    (by omega) sentinel searchable lists openFree buf
  have accepted : ¬(dir : Int) = -1 := by omega
  refine ⟨enough, after, fun turns isEnough => ?_, (silent.silent openSilent).silent prints⟩
  simp only [grep, answered, ne_eq, not_true_eq_false, if_false, openAnswered,
    if_neg accepted]
  exact ended turns isEnough

/-- A directory with the text file `a`, which holds the lines `xy` and `zz`. -/
def twoLinesImage : FileSystem :=
  .ofFiles 0x500000 [⟨[0x2E], fileTypeDir, 0⟩, ⟨[0x61], fileTypeFile, 5⟩]
    [0x78, 0x79, 0x0A, 0x7A, 0x7A]

theorem twoLinesImage_searchable (index : Nat) (inFront : index < twoLinesImage.listingLength)
    (notHidden : twoLinesImage.entryName index 0 ≠ dot) : Searchable twoLinesImage index := by
  have length : twoLinesImage.listingLength = 2 := by decide +kernel
  have isLast : index = 1 := by
    rcases (show index = 0 ∨ index = 1 by omega) with rfl | isLast
    · exact absurd (show twoLinesImage.entryName 0 0 = dot by decide +kernel) notHidden
    · exact isLast
  subst isLast
  exact ⟨by decide +kernel, by decide +kernel, by decide +kernel,
    ⟨by decide +kernel, by decide +kernel, by decide +kernel⟩, by decide +kernel,
    by decide +kernel, by decide +kernel⟩

/-- `grep y` -/
theorem grep_prints_matches_busy :
    ∃ enough after,
      (∀ turns, enough ≤ turns →
        grep (systemCalls twoLinesImage (busy twoLinesImage)) (fun _ _ => 0xFF) turns
          (started [0x79]) (fun _ => 0xFF) (fun _ => 0xFF) = some (after, 0)) ∧
        after.shown = [0x61, colon, 0x78, 0x79, newLine] := by
  obtain ⟨enough, after, ends, prints⟩ := @grep_prints_matches twoLinesImage
    (busy twoLinesImage) (started [0x79]) [0x79] 0 2 3
    ⟨by decide +kernel, by decide +kernel⟩ (busy_sparesProcess twoLinesImage)
    (started_hasStdout [0x79]) (started_freeSlot [0x79]) (by decide +kernel)
    (started_spells (by simp)) (by decide) (by decide) twoLinesImage_searchable
    (fun _ _ => 0xFF) (fun _ => by decide) (fun _ => 0xFF) (fun _ => 0xFF)
  refine ⟨enough, after, ends, prints.shown.trans ?_⟩
  decide +kernel

end ChapOS
