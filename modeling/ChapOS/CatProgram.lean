import ChapOS.ClockRate
import ChapOS.UserSessions

/-!
# The program `cat`

`cat` reads the file that its argument names in pieces of 1024 bytes and writes each
of them to the terminal.  A read that runs into the end of the file also takes the
byte behind it, so that `cat` prints that byte too unless the file ends with a whole
piece; the terminal drops it when it is NUL, as the padding of a block is.
-/

namespace ChapOS

open WhileLoops

section Program

variable {World : Type} (calls : SystemCalls World)

/-- The loop of `main` in `ece391cat.c`, with `buf` beside the world. -/
def catTurn (fd : Int) (state : World × CString) :
    Turn (World × CString) (World × Int) :=
  let done := calls.read state.1 fd state.2 1024
  if done.2.1 = 0 then .exit (done.1, 0)
  else if done.2.1 = -1 then
    .exit (calls.ece391Fdputs done.1 1 (literal "file read failed\n"), 3)
  else
    let printed := calls.write done.1 1 done.2.2 done.2.1
    if printed.2 = -1 then .exit (printed.1, 3)
    else .next (printed.1, done.2.2)

/-- `main` of `ece391cat.c`. -/
def cat (turns : Nat) (world : World) (buf : CString) : Option (World × Int) :=
  let args := calls.getargs world buf 1024
  if args.2.1 ≠ 0 then
    some (calls.ece391Fdputs args.1 1 (literal "could not read arguments\n"), 3)
  else
    let opened := calls.openFile args.1 args.2.2
    if opened.2 = -1 then
      some (calls.ece391Fdputs opened.1 1 (literal "file not found\n"), 2)
    else runFor (catTurn calls opened.2) turns (opened.1, args.2.2)

end Program

namespace FileSystem

/-- The byte behind the end of a file lies in its last block. -/
theorem mem_byteAddress_of_block {fs : FileSystem} {inode position : Nat}
    (wellFormed : fs.WellFormedFile inode)
    (inBlock : position / 4096 < (fs.inodeLength inode + 4095) / 4096) :
    fs.mem (fs.byteAddress inode position) = fs.fileByte inode position := by
  have block := wellFormed.blocks (position / 4096) inBlock
  have inMemory := wellFormed.inMemory
  have first : (fs.fileSysStart + (1 + fs.numInodes) * 4096) % 2 ^ 32 =
      fs.fileSysStart + (1 + fs.numInodes) * 4096 :=
    Nat.mod_eq_of_lt (by omega)
  have second : (fs.fileSysStart + (1 + fs.numInodes) * 4096 +
      fs.dataBlock inode (position / 4096) * 4096) % 2 ^ 32 =
      fs.fileSysStart + (1 + fs.numInodes) * 4096 +
        fs.dataBlock inode (position / 4096) * 4096 :=
    Nat.mod_eq_of_lt (by omega)
  simp only [byteAddress, blockAddress, dataBlockStart, dataBlockSize, fileByte]
  rw [first, second, Nat.mod_eq_of_lt (by omega)]
  congr 1
  omega

end FileSystem

/-- How many bytes `cat` takes from a file. -/
def catLength (length : Nat) : Nat :=
  if length % 1024 = 0 then length else length + 1

namespace Session

variable {around : Surroundings} {fs : FileSystem} {session : Session}
  {fd inode position : Nat}

/-- `cat` reads on from here: the pieces before were whole, or the file has been read. -/
def AtPiece (length position : Nat) : Prop :=
  position % 1024 = 0 ∧ position ≤ length ∨ position = catLength length

theorem AtPiece.atEnd {length position : Nat} (atPiece : AtPiece length position)
    (atEnd : length ≤ position) : position = catLength length := by
  rcases atPiece with ⟨whole, within⟩ | taken
  · obtain rfl : position = length := by omega
    exact (if_pos whole).symm
  · exact taken

/-- The next piece of the file. -/
theorem AtPiece.next (wellFormed : fs.WellFormedFile inode)
    (atPiece : AtPiece (fs.inodeLength inode) position)
    (inside : position < fs.inodeLength inode) :
    ∃ count, fs.readCount inode position 1024 = count ∧ 0 < count ∧ count ≤ 1024 ∧
      position + count ≤ catLength (fs.inodeLength inode) ∧
      AtPiece (fs.inodeLength inode) (position + count) ∧
      ∀ k < count,
        fs.mem (fs.byteAddress inode (position + k)) = fs.fileByte inode (position + k) := by
  have count : fs.readCount inode position 1024 =
      min 1024 (fs.inodeLength inode + 1 - position) := rfl
  generalize fs.readCount inode position 1024 = pieceLength at count
  have whole : position % 1024 = 0 := by
    rcases atPiece with ⟨whole, -⟩ | taken
    · exact whole
    · unfold catLength at taken
      split at taken <;> omega
  refine ⟨pieceLength, rfl, by omega, by omega, ?_, ?_, fun k kLt => ?_⟩
  · unfold catLength
    split <;> omega
  · unfold AtPiece catLength
    split <;> omega
  · apply FileSystem.mem_byteAddress_of_block wellFormed
    omega

/-- The loop of `cat` prints the rest of the file. -/
theorem cat_loop (spares : around.SparesProcess) (fdLow : 2 ≤ fd) (fdLt : fd < 8)
    (wellFormed : fs.WellFormedFile inode) (inRange : inode < fs.numInodes)
    (stdout : session.HasStdout)
    (placed : session.pcb.fDescs fd = ⟨.fileOpsTbl, inode, position, flagActive⟩)
    (atPiece : AtPiece (fs.inodeLength inode) position)
    (within : position ≤ catLength (fs.inodeLength inode)) (buf : CString) :
    ∃ after, (∀ turns, catLength (fs.inodeLength inode) - position < turns →
        runFor (catTurn (systemCalls fs around) fd) turns (session, buf) = some (after, 0)) ∧
      Prints around session
        ((fs.fileSlice inode position (catLength (fs.inodeLength inode) - position)).filter
          fun c => c ≠ 0) after := by
  have lengthLe := wellFormed.length_le
  have takenLe : catLength (fs.inodeLength inode) ≤ fs.inodeLength inode + 1 := by
    unfold catLength
    split <;> omega
  induction isLeft : catLength (fs.inodeLength inode) - position using Nat.strong_induction_on
    generalizing session position buf with
  | _ left ih =>
      by_cases atEnd : fs.inodeLength inode ≤ position
      · obtain ⟨after, answered, -, prints⟩ := read_atEnd spares fdLt placed inRange atEnd
          (by omega) buf 1024
        have nothing : left = 0 := by
          rw [atPiece.atEnd atEnd] at isLeft
          omega
        refine ⟨after, fun turns isEnough => ?_, ?_⟩
        · obtain ⟨turns, rfl⟩ : ∃ less, turns = less + 1 := ⟨turns - 1, by omega⟩
          apply runFor_exit
          simp only [catTurn, answered, if_true]
        · rw [nothing]
          exact prints
      · obtain ⟨count, isCount, positive, atMost, countWithin, nextPiece, bytes⟩ :=
          atPiece.next wellFormed (by omega)
        obtain ⟨middle, content, answered, descs, silent, reads⟩ := read_inside spares fdLt
          placed inRange (by omega) (by omega) buf (show 1024 < 2 ^ 31 by omega)
        rw [isCount] at answered descs reads
        rw [Nat.cast_ofNat] at answered
        have different : (1 : Nat) ≠ fd := by omega
        have middleStdout : middle.HasStdout := stdout.congr (by
          rw [descs, Function.update_of_ne different])
        obtain ⟨next, written, samePcb, prints⟩ := write_stdout fs spares middleStdout
          content count
        rw [Int.toNat_natCast] at written prints
        have piece : (List.range count).map content = fs.fileSlice inode position count := by
          apply List.map_congr_left
          intro k mem
          have kLt := List.mem_range.mp mem
          rw [reads, if_pos kLt, bytes k kLt]
        rw [piece] at prints
        have nextStdout : next.HasStdout := middleStdout.congr (by rw [samePcb])
        obtain ⟨after, ends, printsRest⟩ := ih
          (catLength (fs.inodeLength inode) - (position + count)) (by omega) nextStdout
          (by rw [samePcb, descs, Function.update_self]) nextPiece countWithin content rfl
        refine ⟨after, fun turns isEnough => ?_, ?_⟩
        · have notEnd : ¬(count : Int) = 0 := by omega
          have notFailed : ¬(count : Int) = -1 := by omega
          obtain ⟨turns, rfl⟩ : ∃ less, turns = less + 1 := ⟨turns - 1, by omega⟩
          rw [runFor, ← ends turns (by omega)]
          simp only [catTurn, answered, if_neg notEnd, if_neg notFailed, written]
        · have cut : left = count + (catLength (fs.inodeLength inode) - (position + count)) := by
            omega
          rw [cut, ← FileSystem.fileSlice_append, List.filter_append]
          exact silent.silent (prints.trans printsRest)

end Session

/-- Opening only looks at the characters of a name. -/
theorem FileSystem.findEntry_of_spells (fs : FileSystem) {name other : CString}
    {word : List UInt8} (spells : Spells name word) (otherSpells : Spells other word) :
    fs.findEntry name = fs.findEntry other := by
  unfold findEntry
  congr 1
  funext index
  rw [decide_eq_decide, strncmp_eq_zero_iff, strncmp_eq_zero_iff,
    characters_of_spells spells, characters_of_spells otherSpells]

namespace Session

variable {around : Surroundings} {fs : FileSystem} {session : Session}

/-- `cat` up to its loop, with the name of an entry that can be opened. -/
theorem cat_opens (spares : around.SparesProcess) (stdout : session.HasStdout)
    {word : List UInt8} {index fd : Nat} (free : Kernel.freeSlot session.pcb = some fd)
    (argument : Spells
      (session.kernel.pcbAt (pcbAddress session.kernel.activeProcNum)).argBuff word)
    (short : word.length < 100) (named : word ≠ [])
    (found : fs.findEntry (cString word) = some index) {desc : FileDesc}
    (opens : fs.Opens index desc) (buf : CString) :
    ∃ opened content,
      (∀ turns, cat (systemCalls fs around) turns session buf =
        runFor (catTurn (systemCalls fs around) fd) turns (opened, content)) ∧
        opened.HasStdout ∧ opened.pcb.fDescs fd = desc ∧ Prints around session [] opened := by
  obtain ⟨called, content, answered, spells, samePcb, silent⟩ := getargs_argument fs spares
    argument buf (show word.length ≤ 1024 by omega) (by omega)
  obtain ⟨fdLow, fdLt, -⟩ := Kernel.freeSlot_spec free
  rw [← samePcb] at free
  rw [← fs.findEntry_of_spells spells (spells_cString spells.noNul)] at found
  obtain ⟨opened, openAnswered, descs, openSilent⟩ := openFile_found spares
    (Spells.head_ne_nul spells named) found free opens
  rw [Nat.cast_ofNat] at answered
  have accepted : ¬(fd : Int) = -1 := by omega
  refine ⟨opened, content, fun turns => ?_, ?_, ?_, silent.silent openSilent⟩
  · simp only [cat, answered, ne_eq, not_true_eq_false, if_false, openAnswered, if_neg accepted]
  · apply stdout.congr
    have different : (1 : Nat) ≠ fd := by omega
    rw [descs, Function.update_of_ne different, samePcb]
  · rw [descs, Function.update_self]

end Session

open Session

/-- `cat` with the name of a regular file prints the file, whatever interrupts the
process is spared by.  When the byte behind the end is needed it is printed as well,
which shows unless it is NUL. -/
theorem cat_prints_file {fs : FileSystem} {around : Surroundings} {session : Session}
    {word : List UInt8} {index fd : Nat} (spares : around.SparesProcess)
    (stdout : session.HasStdout) (free : Kernel.freeSlot session.pcb = some fd)
    (argument : Spells
      (session.kernel.pcbAt (pcbAddress session.kernel.activeProcNum)).argBuff word)
    (short : word.length < 100) (named : word ≠ [])
    (found : fs.findEntry (cString word) = some index)
    (isFile : fs.entryType index = fileTypeFile)
    (inRange : fs.entryInode index < fs.numInodes)
    (wellFormed : fs.WellFormedFile (fs.entryInode index)) (buf : CString) :
    let inode := fs.entryInode index
    let length := fs.inodeLength inode
    ∃ enough after,
      (∀ turns, enough ≤ turns →
        cat (systemCalls fs around) turns session buf = some (after, 0)) ∧
        Prints around session
          ((fs.fileSlice inode 0 (catLength length)).filter fun c => c ≠ 0) after ∧
        (length % 1024 = 0 ∨ fs.fileByte inode length = 0 →
          Prints around session ((fs.fileSlice inode 0 length).filter fun c => c ≠ 0)
            after) := by
  intro inode length
  obtain ⟨fdLow, fdLt, -⟩ := Kernel.freeSlot_spec free
  obtain ⟨opened, content, runs, openStdout, placed, silent⟩ := cat_opens spares stdout free
    argument short named found (.regular isFile) buf
  obtain ⟨after, ends, prints⟩ := cat_loop spares fdLow fdLt wellFormed inRange openStdout
    placed (Or.inl ⟨rfl, Nat.zero_le _⟩) (Nat.zero_le _) content
  have printed := silent.silent prints
  refine ⟨catLength length + 1, after, fun turns isEnough =>
    (runs turns).trans (ends turns isEnough), printed, fun padded => ?_⟩
  have same : (fs.fileSlice inode 0 (catLength length)).filter (fun c => c ≠ 0) =
      (fs.fileSlice inode 0 length).filter fun c => c ≠ 0 := by
    by_cases whole : length % 1024 = 0
    · rw [catLength, if_pos whole]
    · have isNul := padded.resolve_left whole
      rw [catLength, if_neg whole, ← fs.fileSlice_append inode 0 length 1,
        List.filter_append]
      simp [FileSystem.fileSlice, isNul]
  exact same ▸ printed

/-- Someone types all the while. -/
theorem cat_prints_file_busy :
    ∃ enough after,
      (∀ turns, enough ≤ turns →
        cat (systemCalls threeByteImage (busy threeByteImage)) turns (started [0x61])
          (fun _ => 0xFF) = some (after, 0)) ∧
        after.shown = [0x78, 0x79, 0x7A] := by
  obtain ⟨enough, after, ends, -, padded⟩ := cat_prints_file
    (busy_sparesProcess threeByteImage) (started_hasStdout [0x61]) (started_freeSlot [0x61])
    (started_spells (by simp)) (by decide) (by decide)
    (show threeByteImage.findEntry (cString [0x61]) = some 0 by decide +kernel)
    (by decide +kernel) (by decide +kernel)
    ⟨by decide +kernel, by decide +kernel, by decide +kernel⟩ (fun _ => 0xFF)
  have printed := padded (Or.inr (by decide +kernel))
  refine ⟨enough, after, ends, printed.shown.trans ?_⟩
  decide +kernel

end ChapOS
