import ChapOS.Arguments
import ChapOS.CatProgram
import ChapOS.CommandWords
import ChapOS.ExecutableHeader
import ChapOS.ShellProgram

/-!
# A session at the keyboard

What a user sees who types commands.  The line discipline turns the keys into a line, the
shell executes it, the kernel finds and starts the program, and the program prints.  The
programs here are whatever lies at the entry points of the image, but the one at the
entry point of the file `cat` is `cat`.
-/

namespace ChapOS

open WhileLoops

section Keys

end Keys

section Keeping

variable {World : Type} {calls : SystemCalls World} {holds : World → Prop}

theorem catTurn_keeps (keep : calls.Keep holds) (fd : Int) {state : World × CString}
    (now : holds state.1) :
    (catTurn calls fd state).All (fun after => holds after.1) fun done => holds done.1 := by
  have read := keep.read state.1 fd state.2 1024 now
  unfold catTurn
  dsimp only
  split
  · exact read
  split
  · exact keep.write _ _ _ _ read
  split
  · exact keep.write _ _ _ _ read
  · exact keep.write _ _ _ _ read

/-- `cat` keeps what its system calls keep. -/
theorem cat_keeps (keep : calls.Keep holds) {world : World} (start : holds world)
    {turns : Nat} {buf : CString} {done : World × Int}
    (ends : cat calls turns world buf = some done) : holds done.1 := by
  have gotArgs := keep.getargs world buf 1024 start
  have opened := keep.openFile _ (calls.getargs world buf 1024).2.2 gotArgs
  unfold cat at ends
  dsimp only at ends
  split at ends
  · obtain rfl := Option.some.inj ends
    exact keep.write _ _ _ _ gotArgs
  split at ends
  · obtain rfl := Option.some.inj ends
    exact keep.write _ _ _ _ opened
  · exact @runFor_keeps _ _ _ _ _ (fun state => holds state.1) (fun last => holds last.1)
      (fun _ now => catTurn_keeps keep _ now) opened _ ends

end Keeping

namespace FileSystem

/-- What `cat` shows of a file. -/
def shownFile (fs : FileSystem) (index : Nat) : List UInt8 :=
  (fs.fileSlice (fs.entryInode index) 0
    (catLength (fs.inodeLength (fs.entryInode index)))).filter fun c => c ≠ 0

/-- A regular file of the image, by its name. -/
structure NamesFile (fs : FileSystem) (name : List UInt8) (index : Nat) : Prop where
  named : name ≠ []
  short : name.length < 100
  found : fs.findEntry (cString name) = some index
  isFile : fs.entryType index = fileTypeFile
  inRange : fs.entryInode index < fs.numInodes
  wellFormed : fs.WellFormedFile (fs.entryInode index)

/-- A program of the image, by its name. -/
structure Installed (fs : FileSystem) (name : List UInt8) (index : Nat) : Prop where
  found : fs.findEntry (cString name) = some index
  loadable : fs.Loadable (fs.entryInode index)

end FileSystem

namespace Kernel

variable {layout : KernelLayout} {fs : FileSystem} {kernel : Kernel} {mappings : Mappings}
  {inode : Nat}

/-- The first word of a command names a program. -/
theorem allocates_of_installed (represents : kernel.paging.Represents layout mappings)
    {line : List UInt8} (noNul : ∀ c ∈ line, c ≠ 0) {index : Nat}
    (installed : fs.Installed (firstRun line) index) (stale : StaleLocals) :
    kernel.Allocates layout fs stale (some line) (fs.entryInode index)
      (fs.fileWord (fs.entryInode index) 24) := by
  obtain ⟨found, loadable⟩ := installed
  obtain ⟨fileName, -, exit⟩ := parseLoop_leaves (spells_cString noNul)
    (show 2 * line.length ≤ 2 * line.length + 1 by omega)
  have spellsName := storeWord_cleared_spells maxNameSize noNul
  rw [← fs.findEntry_of_spells spellsName (spells_cString spellsName.noNul),
    ← fileName] at found
  obtain ⟨headerRuns, headerBytes⟩ := readContent_of_hasHeader represents
    loadable.hasHeader (show 0 + 4 ≤ 28 by omega) (freshBuffer stale.contentBuf)
  obtain ⟨entryRuns, entryBytes⟩ := readContent_of_hasHeader represents loadable.hasHeader
    (show entryPtwStart + 4 ≤ 28 by decide)
    (kernel.readContent layout fs (fs.entryInode index) 0
      (freshBuffer stale.contentBuf)).memory
  refine
    { named := ⟨line, _, rfl, ?_, fs.readDentryByName_of_found stale.dentry found, rfl⟩
      headerRuns := headerRuns
      header := ?_
      entryRuns := entryRuns
      entry := ?_ }
  · rcases exit with ⟨ends, -⟩ | breaks
    · exact fun refused => absurd (ends.symm.trans refused) (by decide)
    · exact fun refused => absurd (breaks.symm.trans refused) (by decide)
  · rw [← loadable.header]
    apply contentWord_congr
    intro i iLt
    rw [headerBytes i iLt, Nat.zero_add]
  · rw [firstWord, entryBytes 0 (by omega), entryBytes 1 (by omega), entryBytes 2 (by omega),
      entryBytes 3 (by omega)]
    have bound (i : Nat) := (fs.mem (fs.byteAddress (fs.entryInode index)
      (entryPtwStart + i))).toNat_lt
    have zero := bound 0
    have one := bound 1
    have two := bound 2
    have three := bound 3
    rw [BitVec.toNat_ofNat, Nat.mod_eq_of_lt (by omega)]
    rfl

/-- The first word of a command names nothing. -/
theorem execute_of_missing {line : List UInt8} (noNul : ∀ c ∈ line, c ≠ 0)
    (missing : fs.findEntry (cString (firstRun line)) = none) (stale : StaleLocals) :
    (kernel.execute layout fs stale (some line)).2 = .returned (-1) := by
  obtain ⟨fileName, -, -⟩ := parseLoop_leaves (spells_cString noNul)
    (show 2 * line.length ≤ 2 * line.length + 1 by omega)
  have spellsName := storeWord_cleared_spells maxNameSize noNul
  rw [← fs.findEntry_of_spells spellsName (spells_cString spellsName.noNul),
    ← fileName] at missing
  have notFound : (fs.readDentryByName (parseCommand line).1.fileNameCommand.read
      stale.dentry).1 ≠ 0 := by
    rw [parseCommand, fs.readDentryByName_of_missing stale.dentry missing]
    exact show ¬(-1 : Int) = 0 by decide
  simp only [execute, if_pos notFound]
  split <;> rfl

end Kernel

namespace Session

variable {layout : KernelLayout} {fs : FileSystem} {around : Surroundings}
  {session ready after child : Session} {k : Nat} {command : CString} {line : List UInt8}

theorem executed_eq (short : line.length < 2 ^ 32) (spells : Spells command line) :
    session.executed layout fs around command =
      (session.enter around).kernel.execute layout fs (around.stale session.calls)
        (some line) := by
  rw [executed, characters_of_spells spells, List.take_of_length_le (by omega)]

/-- A command that names a program starts it, if there is room for another
process, and hands it the second word. -/
theorem executed_of_installed (spares : around.SparesKernel layout)
    (runs : Runs layout k session) (room : k < 5) (spells : Spells command line)
    (short : line.length < 2 ^ 32) {index : Nat}
    (installed : fs.Installed (firstRun line) index) :
    (session.executed layout fs around command).2 =
        .running (fs.fileWord (fs.entryInode index) 24) ∧
      Spells ((session.child layout fs around command).kernel.pcbAt (pcbAddress
        (session.child layout fs around command).kernel.activeProcNum)).argBuff
        (secondRun line) := by
  have same := enter_sameProcess spares runs
  obtain ⟨mappings, represents⟩ := same.holds.represents
  obtain ⟨printed, arg, executes⟩ := Kernel.execute_of_allocates
    (Kernel.allocates_of_installed represents spells.noNul installed
      (around.stale session.calls))
  have stillRepresents : ((session.enter around).kernel.print printed).paging.Represents
      layout mappings := represents
  have free : Kernel.freeProcIdFrom
      ((session.enter around).kernel.print printed).procIdFlags maxProcesses 0 =
        some (k + 1) := by
    have slot := same.holds.freeProcId_eq
    rw [if_pos (by omega)] at slot
    exact slot
  have loaded := Kernel.loadFor_of_loads fs
    (Kernel.loads_of_loadable stillRepresents installed.loadable) stillRepresents stillRepresents
    (.refl mappings) (show k + 1 ≤ 6 by omega)
  rw [Kernel.startProcess_of_free layout fs _ _ _ free] at executes
  simp only [loaded, Bool.false_eq_true, if_false] at executes
  obtain ⟨old, stored⟩ := Kernel.execute_argBuff executes
  rw [← executed_eq short spells] at executes
  refine ⟨congrArg Prod.snd executes, ?_⟩
  obtain ⟨-, argument, -⟩ := parseLoop_leaves (spells_cString spells.noNul)
    (show 2 * line.length ≤ 2 * line.length + 1 by omega)
  have passed : Spells (parseCommand line).1.argCommand.read (secondRun line) := by
    rw [parseCommand, argument]
    apply storeWord_cleared_spells
    exact fun c mem => spells.noNul c
      (List.dropWhile_subset _ (List.dropWhile_subset _ mem))
  unfold child
  rw [executes]
  rw [Kernel.trapped_pcbAt]
  exact stored ▸ spells_strcpy passed old

theorem executed_of_missing (layout : KernelLayout) (fs : FileSystem)
    (around : Surroundings) (session : Session) (spells : Spells command line)
    (short : line.length < 2 ^ 32)
    (missing : fs.findEntry (cString (firstRun line)) = none) :
    (session.executed layout fs around command).2 = .returned (-1) := by
  rw [executed_eq short spells]
  exact Kernel.execute_of_missing spells.noNul missing _

/-- `cat` in a process that has just been started. -/
theorem cat_of_freshTable (spares : around.SparesKernel layout)
    (runs : Runs layout k child) (fresh : child.pcb.FreshTable) {name : List UInt8}
    (argument : Spells
      (child.kernel.pcbAt (pcbAddress child.kernel.activeProcNum)).argBuff name)
    {index : Nat} (file : fs.NamesFile name index) {turns : Nat}
    (enough : 1023 * 4096 + 2 ≤ turns) (buf : CString) :
    ∃ left, cat (systemCalls fs around) turns child buf = some (left, 0) ∧
      SameProcess layout k child left ∧ left.shown = child.shown ++ fs.shownFile index := by
  have stdout := hasStdout_of_hasTerminal fresh.toHasTerminal
  have free : Kernel.freeSlot child.pcb = some 2 :=
    freeSlot_of_flags (Nat.le_refl 2) (by decide) (fun i low high => by omega)
      (fresh.others 2 (Nat.le_refl 2) (by decide))
  have lengthLe := file.wellFormed.length_le
  have takenLe : catLength (fs.inodeLength (fs.entryInode index)) ≤
      fs.inodeLength (fs.entryInode index) + 1 := by
    unfold catLength
    split <;> omega
  obtain ⟨opened, content, isLoop, openStdout, placed, silent⟩ := cat_opens
    spares.sparesProcess stdout free argument file.short file.named file.found
    (.regular file.isFile) buf
  obtain ⟨left, ends, prints⟩ := cat_loop spares.sparesProcess (Nat.le_refl 2) (by decide)
    file.wellFormed file.inRange openStdout placed (Or.inl ⟨rfl, Nat.zero_le _⟩)
    (Nat.zero_le _) content
  have ran : cat (systemCalls fs around) turns child buf = some (left, 0) :=
    (isLoop turns).trans (ends turns (by omega))
  exact ⟨left, ran, cat_keeps (systemCalls_keep fs spares child) runs.sameProcess ran,
    (silent.silent prints).shown⟩

/-- What the shell answers to a line. -/
inductive Answers (fs : FileSystem) : Exchange → Prop
  | blank : Answers fs ⟨[], [], none⟩
  | file {line : List UInt8} {index : Nat} (isCat : firstRun line = literalBytes "cat")
      (file : fs.NamesFile (secondRun line) index) :
      Answers fs ⟨line, fs.shownFile index, some 0⟩
  | unknown {line : List UInt8}
      (missing : fs.findEntry (cString (firstRun line)) = none) :
      Answers fs ⟨line, [], some (-1)⟩

/-- The lines of a user who prints files, leaves lines empty, mistypes commands in words
that fit and leaves. -/
inductive Asks (fs : FileSystem) : List UInt8 → Prop
  | blank : Asks fs []
  | exit : Asks fs (literalBytes "exit")
  | file {line : List UInt8} {index : Nat} (isCat : firstRun line = literalBytes "cat")
      (file : fs.NamesFile (secondRun line) index) : Asks fs line
  | unknown {line : List UInt8} (fits : WordsFit line)
      (missing : fs.findEntry (cString (firstRun line)) = none) : Asks fs line

/-- The program at the entry point of a file is `cat`. -/
structure RunsCat (fs : FileSystem) (around : Surroundings) (program : Nat)
    (body : Nat → Session → Option (Session × Ending)) : Prop where
  installed : fs.Installed (literalBytes "cat") program
  isCat : ∃ turns buf, 1023 * 4096 + 2 ≤ turns ∧ ∀ child,
    body (fs.fileWord (fs.entryInode program) 24) child =
      (cat (systemCalls fs around) turns child buf).map fun done => (done.1, .exits done.2)

/-- The process that a `cat` line starts. -/
theorem RunsCat.answers {program : Nat} {body : Nat → Session → Option (Session × Ending)}
    (runsCat : RunsCat fs around program body) (spares : around.SparesKernel layout)
    (runs : Runs layout k session) (room : k < 5) (spells : Spells command line)
    (short : line.length < 2 ^ 32) {index : Nat}
    (isCat : firstRun line = literalBytes "cat")
    (file : fs.NamesFile (secondRun line) index)
    (starts : Starts layout k session (session.child layout fs around command)) :
    ∃ entryPoint left,
      (session.executed layout fs around command).2 = .running entryPoint ∧
      body entryPoint (session.child layout fs around command) = some (left, .exits 0) ∧
      SameProcess layout (k + 1) (session.child layout fs around command) left ∧
      left.shown = session.shown ++ fs.shownFile index := by
  obtain ⟨turns, buf, enough, bodyIs⟩ := runsCat.isCat
  obtain ⟨running, argument⟩ := executed_of_installed spares runs room spells short
    (isCat ▸ runsCat.installed)
  obtain ⟨left, ran, stays, shown⟩ := cat_of_freshTable spares starts.toRuns starts.fresh
    argument file enough buf
  refine ⟨_, left, running, ?_, stays, starts.shown ▸ shown⟩
  rw [bodyIs, ran]
  rfl

/-- The program that a line starts returns. -/
theorem Asks.returns {program : Nat} {body : Nat → Session → Option (Session × Ending)}
    (asks : Asks fs line) (runsCat : RunsCat fs around program body)
    (spares : around.SparesKernel layout) (runs : Runs layout k session) (room : k < 5)
    (spells : Spells command line) (short : line.length < 2 ^ 32) (notBlank : line ≠ [])
    (notExit : line ≠ literalBytes "exit") {entryPoint : Nat}
    (running : (session.executed layout fs around command).2 = .running entryPoint)
    (starts : Starts layout k session (session.child layout fs around command)) :
    ∃ result : Session × Ending,
      body entryPoint (session.child layout fs around command) = some result ∧
      SameProcess layout (k + 1) (session.child layout fs around command) result.1 := by
  cases asks with
  | blank => exact absurd rfl notBlank
  | exit => exact absurd rfl notExit
  | file isCat file =>
      obtain ⟨entered, left, runsThere, ran, stays, -⟩ :=
        runsCat.answers spares runs room spells short isCat file starts
      obtain rfl : entryPoint = entered :=
        Outcome.running.inj (running.symm.trans runsThere)
      exact ⟨(left, .exits 0), ran, stays⟩
  | unknown fits missing =>
      have isRefused := executed_of_missing layout fs around session spells short missing
      exact absurd (isRefused.symm.trans running) (by simp)

/-- What has come of executing a line that asks for something. -/
theorem Called.answers {program : Nat} {body : Nat → Session → Option (Session × Ending)}
    (runsCat : RunsCat fs around program body) (spares : around.SparesKernel layout)
    (runs : Runs layout k session) (room : k < 5) (spells : Spells command line)
    (short : line.length < 2 ^ 32) (asks : Asks fs line) (notBlank : line ≠ [])
    (notExit : line ≠ literalBytes "exit") {value : Int} {printed : List UInt8}
    (called : Called layout fs around k
      (fun entryPoint child result => body entryPoint child = some result) session command
      after value)
    (prints : after.shown = session.shown ++ printed) :
    Answers fs ⟨line, printed, some value⟩ := by
  cases asks with
  | blank => exact absurd rfl notBlank
  | exit => exact absurd rfl notExit
  | @file line index isCat file =>
      obtain ⟨isRunning, -⟩ := executed_of_installed spares runs room spells short
        (isCat ▸ runsCat.installed)
      cases called with
      | refused refused shown => exact absurd (isRunning.symm.trans refused) (by simp)
      | @ended entryPoint left ending running starts ran stays shown =>
          obtain ⟨entered, last, runsThere, ranThere, -, lastShown⟩ :=
            runsCat.answers spares runs room spells short isCat file starts
          obtain rfl : entryPoint = entered :=
            Outcome.running.inj (running.symm.trans runsThere)
          obtain ⟨rfl, rfl⟩ := Prod.mk.inj (Option.some.inj (ran.symm.trans ranThere))
          obtain rfl : printed = fs.shownFile index :=
            List.append_cancel_left (prints.symm.trans (shown.trans lastShown))
          have told : Ending.value layout.haltOperands (.exits 0) = 0 :=
            haltValue_zero layout.haltOperands
          rw [told]
          exact .file isCat file
  | unknown fits missing =>
      have isRefused := executed_of_missing layout fs around session spells short missing
      cases called with
      | refused refused shown =>
          rw [shown, List.self_eq_append_right] at prints
          rw [prints]
          exact .unknown missing
      | ended running starts ran stays shown =>
          exact absurd (isRefused.symm.trans running) (by simp)

/-- In every conversation the shell answers as asked. -/
theorem Conversation.answers {program : Nat}
    {body : Nat → Session → Option (Session × Ending)}
    (runsCat : RunsCat fs around program body) (spares : around.SparesKernel layout)
    (room : k < 5) (asks : ∀ call, Asks fs (typedLine around call))
    {exchanges : List Exchange}
    (conversation : Conversation layout fs around k
      (fun entryPoint child result => body entryPoint child = some result) session
      exchanges after) :
    ∀ exchange ∈ exchanges, Answers fs exchange := by
  induction conversation with
  | start session => exact fun exchange mem => absurd mem List.not_mem_nil
  | blank reads isBlank rest ih =>
      intro exchange mem
      rcases List.mem_cons.mp mem with rfl | later
      · exact .blank
      · exact ih exchange later
  | command reads notExit notBlank called prints rest ih =>
      intro exchange mem
      rcases List.mem_cons.mp mem with rfl | later
      · have short := reads.short
        exact called.answers runsCat spares reads.same.toRuns room reads.spells (by omega)
          (asks _) notBlank notExit prints
      · exact ih exchange later

end Session

end ChapOS
