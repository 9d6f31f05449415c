import ChapOS.CatProgram

/-!
# The program `ls`

`ls` reads the directory name by name and writes each name with a line feed.  `cat`
walks over a directory just the same, but writes the names without a break.
-/

namespace ChapOS

open WhileLoops

section Program

variable {World : Type} (calls : SystemCalls World)

/-- The loop of `main` in `ece391ls.c`; `SBUFSIZE` is 33. -/
def lsTurn (fd : Int) (state : World × CString) : Turn (World × CString) (World × Int) :=
  let done := calls.read state.1 fd state.2 (33 - 1)
  if done.2.1 = 0 then .exit (done.1, 0)
  else if done.2.1 = -1 then
    .exit (calls.ece391Fdputs done.1 1 (literal "directory entry read failed\n"), 3)
  else
    let line := Function.update done.2.2 done.2.1.toNat newLine
    let printed := calls.write done.1 1 line (done.2.1 + 1)
    if printed.2 = -1 then .exit (printed.1, 3)
    else .next (printed.1, line)

/-- `main` of `ece391ls.c`. -/
def ls (turns : Nat) (world : World) (buf : CString) : Option (World × Int) :=
  let opened := calls.openFile world (literal ".")
  if opened.2 = -1 then
    some (calls.ece391Fdputs opened.1 1 (literal "directory open failed\n"), 2)
  else runFor (lsTurn calls opened.2) turns (opened.1, buf)

end Program

theorem charactersFrom_spells {s other : CString} (remaining i : Nat)
    (reads : ∀ k, i ≤ k → k < i + (charactersFrom s remaining i).length → other k = s k)
    (ends : other (i + (charactersFrom s remaining i).length) = 0) :
    SpellsFrom other i (charactersFrom s remaining i) := by
  induction remaining generalizing i with
  | zero => exact ends
  | succ remaining ih =>
      rw [charactersFrom] at reads ends ⊢
      by_cases isEnd : s i = 0
      · rw [if_pos isEnd] at ends ⊢
        exact ends
      · rw [if_neg isEnd, List.length_cons] at reads ends
        rw [if_neg isEnd]
        refine ⟨reads i (Nat.le_refl i) (by omega), isEnd, ih (i + 1) ?_ ?_⟩
        · intro k low high
          exact reads k (by omega) (by omega)
        · rwa [Nat.add_right_comm, Nat.add_assoc]

namespace FileSystem

/-- A name is padded with NULs. -/
theorem paddedName_spells (fs : FileSystem) (index : Nat) :
    Spells (fs.paddedName index) (fs.entryCharacters index) := by
  apply charactersFrom_spells
  · intro k _ inside
    rw [Nat.zero_add] at inside
    exact if_pos inside
  · rw [Nat.zero_add]
    exact if_neg (Nat.lt_irrefl _)

theorem paddedName_zero (fs : FileSystem) (index : Nat) :
    fs.paddedName index 0 = fs.entryName index 0 := by
  unfold paddedName
  split
  · rfl
  · rename_i nothing
    have isEmpty := List.eq_nil_of_length_eq_zero (Nat.eq_zero_of_not_pos nothing)
    exact ((characters_eq_nil _ (by decide)).mp isEmpty).symm

theorem entryCharacters_ne_nil {fs : FileSystem} {index : Nat}
    (named : fs.entryName index 0 ≠ 0) : fs.entryCharacters index ≠ [] := by
  intro isEmpty
  exact named ((characters_eq_nil _ (by decide)).mp isEmpty)

theorem entryCharacters_length_le (fs : FileSystem) (index : Nat) :
    (fs.entryCharacters index).length ≤ 32 :=
  characters_length_le _ 32

/-- The 32 bytes of a name without its padding. -/
theorem filter_paddedName (fs : FileSystem) (index : Nat) {content : CString}
    (reads : ∀ k < 32, content k = fs.paddedName index k) :
    ((List.range 32).map content).filter (fun c => c ≠ 0) = fs.entryCharacters index := by
  have same : (List.range 32).map content = (List.range 32).map (fs.paddedName index) := by
    apply List.map_congr_left
    intro k mem
    exact reads k (List.mem_range.mp mem)
  rw [same]
  apply Session.filter_of_spells (fs.paddedName_spells index)
    (fs.entryCharacters_length_le index)
  intro k low _
  exact if_neg (Nat.not_lt_of_le low)

/-- The line that `ls` makes of a name. -/
theorem filter_line (fs : FileSystem) (index : Nat) {content : CString}
    (reads : ∀ k < 32, content k = fs.paddedName index k) :
    ((List.range 33).map (Function.update content 32 newLine)).filter (fun c => c ≠ 0) =
      fs.entryCharacters index ++ [newLine] := by
  have name := fs.filter_paddedName index 
    fun k kLt => show Function.update content 32 newLine k = _ by
      rw [Function.update_of_ne (by omega), reads k kLt]
  rw [List.range_succ, List.map_append, List.filter_append, name, List.map_singleton,
    Function.update_self]
  rfl

end FileSystem

namespace Session

variable {around : Surroundings} {fs : FileSystem} {session : Session} {fd : Nat}

/-- The program is in front of an entry of the directory. -/
structure Lists (fd position : Nat) (session : Session) : Prop where
  stdout : session.HasStdout
  desc : (session.pcb.fDescs fd).ListsFrom position

/-- `open` has been called for the directory. -/
theorem lists_of_opened (stdout : session.HasStdout)
    (placed : session.pcb.fDescs fd = ⟨.dirOpsTbl, 0, 0, flagActive⟩) :
    Lists fd 0 session := by
  refine ⟨stdout, ?_⟩
  rw [placed]
  exact ⟨rfl, rfl, rfl⟩

/-- A read in front of an entry puts the name into the buffer. -/
theorem Lists.read (spares : around.SparesProcess) (fdLow : 2 ≤ fd) (fdLt : fd < 8)
    {position : Nat} (lists : Lists fd position session)
    (inFront : position < fs.listingLength) (buf : CString) (nbytes : Int) :
    ∃ middle content,
      (systemCalls fs around).read session fd buf nbytes = (middle, 32, content) ∧
        Lists fd (position + 1) middle ∧ Prints around session [] middle ∧
        (∀ k < 32, content k = fs.paddedName position k) ∧
        ∀ other, (middle.pcb.fDescs other).flags = (session.pcb.fDescs other).flags := by
  obtain ⟨middle, content, answered, descs, silent, reads⟩ :=
    read_entry spares fdLt lists.desc inFront buf nbytes
  refine ⟨middle, content, answered, ⟨?_, ?_⟩, silent, fun k kLt => ?_, fun other => ?_⟩
  · apply lists.stdout.congr
    have different : (1 : Nat) ≠ fd := by omega
    rw [descs, Function.update_of_ne different]
  · rw [descs, Function.update_self]
    exact ⟨lists.desc.flags, lists.desc.ops, rfl⟩
  · rw [reads, if_pos kLt]
  · rw [descs, Function.update_apply]
    split
    · rename_i same
      rw [same]
    · rfl

theorem Lists.congr {position : Nat} (lists : Lists fd position session) {after : Session}
    (samePcb : after.pcb = session.pcb) : Lists fd position after :=
  ⟨lists.stdout.congr (by rw [samePcb]), samePcb ▸ lists.desc⟩

/-- The loop of `ls` prints the rest of the directory. -/
theorem ls_loop (spares : around.SparesProcess) (fdLow : 2 ≤ fd) (fdLt : fd < 8)
    (lists : Lists fd 0 session) (buf : CString) :
    ∃ enough after,
      (∀ turns, enough ≤ turns →
        runFor (lsTurn (systemCalls fs around) fd) turns (session, buf) = some (after, 0)) ∧
      Prints around session
        ((List.range fs.listingLength).flatMap fun index =>
          fs.entryCharacters index ++ [newLine]) after := by
  rw [List.range_eq_range']
  apply ends_of_pieces (fun _ => lsTurn (systemCalls fs around) fd) (Lists fd) _ _ _
    (Nat.zero_add _) lists
  · intro position inFront session buf lists
    obtain ⟨middle, content, answered, middleLists, silent, reads, -⟩ :=
      lists.read spares fdLow fdLt inFront buf (33 - 1)
    obtain ⟨next, written, samePcb, prints⟩ := write_stdout fs spares middleLists.stdout
      (Function.update content 32 newLine) (32 + 1)
    have line := fs.filter_line position reads
    refine ⟨0, next, Function.update content 32 newLine, fun _ _ => ?_, middleLists.congr samePcb, ?_⟩
    · simp only [lsTurn, answered]
      rw [if_neg (by decide), if_neg (by decide), show (32 : Int).toNat = 32 from rfl]
      simp only [written]
      rfl
    · exact line ▸ silent.silent prints
  · intro session buf lists
    obtain ⟨after, answered, -, silent⟩ :=
      read_listingEnd spares fdLt lists.desc rfl buf (33 - 1)
    refine ⟨after, fun _ => ?_, silent⟩
    simp only [lsTurn, answered, if_true]

/-- The loop of `cat` on a directory. -/
theorem cat_directory_loop (spares : around.SparesProcess) (fdLow : 2 ≤ fd) (fdLt : fd < 8)
    (lists : Lists fd 0 session) (buf : CString) :
    ∃ enough after,
      (∀ turns, enough ≤ turns →
        runFor (catTurn (systemCalls fs around) fd) turns (session, buf) =
          some (after, 0)) ∧
      Prints around session ((List.range fs.listingLength).flatMap fs.entryCharacters)
        after := by
  rw [List.range_eq_range']
  apply ends_of_pieces (fun _ => catTurn (systemCalls fs around) fd) (Lists fd) _ _ _
    (Nat.zero_add _) lists
  · intro position inFront session buf lists
    obtain ⟨middle, content, answered, middleLists, silent, reads, -⟩ :=
      lists.read spares fdLow fdLt inFront buf 1024
    obtain ⟨next, written, samePcb, prints⟩ := write_stdout fs spares middleLists.stdout
      content 32
    have name := fs.filter_paddedName position reads
    refine ⟨0, next, content, fun _ _ => ?_, middleLists.congr samePcb, ?_⟩
    · simp only [catTurn, answered]
      rw [if_neg (by decide), if_neg (by decide)]
      simp only [written]
      rfl
    · exact name ▸ silent.silent prints
  · intro session buf lists
    obtain ⟨after, answered, -, silent⟩ :=
      read_listingEnd spares fdLt lists.desc rfl buf 1024
    refine ⟨after, fun _ => ?_, silent⟩
    simp only [catTurn, answered, if_true]

/-- `.` is the name of a directory. -/
structure HasDirectory (fs : FileSystem) (index : Nat) : Prop where
  found : fs.findEntry (literal ".") = some index
  isDir : fs.entryType index = fileTypeDir

/-- A program opens the directory. -/
theorem openFile_directory {index : Nat} (directory : HasDirectory fs index)
    (spares : around.SparesProcess) (stdout : session.HasStdout)
    (free : Kernel.freeSlot session.pcb = some fd) :
    ∃ opened, (systemCalls fs around).openFile session (literal ".") = (opened, (fd : Int)) ∧
      Lists fd 0 opened ∧
      (∀ other, other ≠ fd → opened.pcb.fDescs other = session.pcb.fDescs other) ∧
      Prints around session [] opened := by
  obtain ⟨opened, answered, descs, silent⟩ := openFile_found spares (by decide)
    directory.found free (.directory directory.isDir)
  obtain ⟨fdLow, -, -⟩ := Kernel.freeSlot_spec free
  have others (other : Nat) (different : other ≠ fd) :
      opened.pcb.fDescs other = session.pcb.fDescs other := by
    rw [descs, Function.update_of_ne different]
  refine ⟨opened, answered, lists_of_opened ?_ ?_, others, silent⟩
  · exact stdout.congr (others 1 (by omega))
  · rw [descs, Function.update_self]

end Session

open Session

/-- `ls` prints the names of the directory, each on a line of its own, and ends. -/
theorem ls_prints_directory {fs : FileSystem} {around : Surroundings} {session : Session}
    {index fd : Nat} (directory : HasDirectory fs index) (spares : around.SparesProcess)
    (stdout : session.HasStdout) (free : Kernel.freeSlot session.pcb = some fd)
    (buf : CString) :
    ∃ enough after,
      (∀ turns, enough ≤ turns →
        ls (systemCalls fs around) turns session buf = some (after, 0)) ∧
        Prints around session
          ((List.range fs.listingLength).flatMap fun index =>
            fs.entryCharacters index ++ [newLine]) after := by
  obtain ⟨fdLow, fdLt, -⟩ := Kernel.freeSlot_spec free
  obtain ⟨opened, answered, lists, -, silent⟩ :=
    openFile_directory directory spares stdout free
  obtain ⟨enough, after, ended, prints⟩ := ls_loop spares fdLow fdLt lists buf
  have accepted : ¬(fd : Int) = -1 := by omega
  refine ⟨enough, after, fun turns isEnough => ?_, silent.silent prints⟩
  simp only [ls, answered, if_neg accepted]
  exact ended turns isEnough

/-- `cat` with the name of a directory prints its names without a break. -/
theorem cat_prints_directory {fs : FileSystem} {around : Surroundings} {session : Session}
    {word : List UInt8} {index fd : Nat} (spares : around.SparesProcess)
    (stdout : session.HasStdout) (free : Kernel.freeSlot session.pcb = some fd)
    (argument : Spells
      (session.kernel.pcbAt (pcbAddress session.kernel.activeProcNum)).argBuff word)
    (short : word.length < 100) (named : word ≠ [])
    (found : fs.findEntry (cString word) = some index)
    (isDir : fs.entryType index = fileTypeDir) (buf : CString) :
    ∃ enough after,
      (∀ turns, enough ≤ turns →
        cat (systemCalls fs around) turns session buf = some (after, 0)) ∧
        Prints around session ((List.range fs.listingLength).flatMap fs.entryCharacters)
          after := by
  obtain ⟨fdLow, fdLt, -⟩ := Kernel.freeSlot_spec free
  obtain ⟨opened, content, runs, openStdout, placed, silent⟩ := cat_opens spares stdout free
    argument short named found (.directory isDir) buf
  obtain ⟨enough, after, ended, prints⟩ := cat_directory_loop spares fdLow fdLt
    (lists_of_opened openStdout placed) content
  exact ⟨enough, after, fun turns isEnough => (runs turns).trans (ended turns isEnough),
    silent.silent prints⟩

/-- The directory holds `.` and `a`. -/
theorem ls_prints_directory_busy :
    ∃ enough after,
      (∀ turns, enough ≤ turns →
        ls (systemCalls Kernel.twoEntriesImage (busy Kernel.twoEntriesImage)) turns (started [])
          (fun _ => 0xFF) = some (after, 0)) ∧
        after.shown = [0x2E, newLine, 0x61, newLine] := by
  obtain ⟨enough, after, ends, prints⟩ := ls_prints_directory
    (⟨by decide +kernel, by decide +kernel⟩ : HasDirectory Kernel.twoEntriesImage 0)
    (busy_sparesProcess Kernel.twoEntriesImage) (started_hasStdout []) (started_freeSlot [])
    (fun _ => 0xFF)
  refine ⟨enough, after, ends, prints.shown.trans ?_⟩
  decide +kernel

theorem cat_prints_directory_busy :
    ∃ enough after,
      (∀ turns, enough ≤ turns →
        cat (systemCalls Kernel.twoEntriesImage (busy Kernel.twoEntriesImage)) turns (started [0x2E])
          (fun _ => 0xFF) = some (after, 0)) ∧
        after.shown = [0x2E, 0x61] := by
  obtain ⟨enough, after, ends, prints⟩ := cat_prints_directory
    (busy_sparesProcess Kernel.twoEntriesImage) (started_hasStdout [0x2E])
    (started_freeSlot [0x2E]) (started_spells (by simp)) (by decide) (by decide)
    (show Kernel.twoEntriesImage.findEntry (cString [0x2E]) = some 0 by decide +kernel)
    (by decide +kernel) (fun _ => 0xFF)
  refine ⟨enough, after, ends, prints.shown.trans ?_⟩
  decide +kernel

end ChapOS
