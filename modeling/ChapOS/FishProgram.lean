import ChapOS.BlinkShow
import ChapOS.ClockWaits
import ChapOS.GrepProgram
import ChapOS.VideoMapping

/-!
# The program `fish`

`fish` asks for the video page, reads two pictures character by character, side by side,
and puts up a blinker for every place where one of them is not blank.  Its blinkers are in
its own memory, so that what the kernel sees of it is how it reads and waits for the clock;
what it does to them is the list of its calls of `mp1_ioctl` and `mp1_rtc_tasklet`.
-/

namespace ChapOS

open WhileLoops

/-- What answers the system calls of `fish`.  A read that never comes back has no result. -/
structure FishCalls (World : Type) where
  openFile : World → CString → World × Int
  read : World → Int → CString → Int → Option (World × Int × CString)
  write : World → Int → CString → Int → World × Int
  close : World → Int → World × Int
  vidmap : World → Nat → World × Int
  /-- The word at an address of the program's memory. -/
  load : World → Nat → UInt32

/-- One of the two files of `add_frames`: `fd0`, `c0` and `eof0`, or their counterparts. -/
structure FrameStream where
  fd : Int
  c : UInt8
  eof : Bool

/-- The locals of `add_frames`, and the blinkers that it has added. -/
structure FramesState (World : Type) where
  world : World
  stream0 : FrameStream
  stream1 : FrameStream
  added : List BlinkCall

section Program

variable {World : Type} (calls : FishCalls World)

/-- The read of the next character, unless the line is over. -/
def FrameStream.advance (stream : FrameStream) (world : World) : Option (World × FrameStream) :=
  if stream.c ≠ newLine then
    (calls.read world stream.fd (cString [stream.c]) 1).map fun done =>
      if done.2.1 = 0 then (done.1, { stream with c := newLine, eof := true })
      else (done.1, { stream with c := done.2.2 0 })
  else some (world, stream)

end Program

/-- The first character of a text is the next one of its first line, or ends that line. -/
theorem splitOn_next {b : UInt8} {rest line : List UInt8} {more : List (List UInt8)} {col : Nat}
    (left : (b :: rest).splitOn newLine = line.drop col :: more) :
    b = newLine ∧ line.length ≤ col ∧ rest.splitOn newLine = more ∨
      b ≠ newLine ∧ line.drop col = b :: line.drop (col + 1) ∧
        rest.splitOn newLine = line.drop (col + 1) :: more := by
  rw [List.splitOn_cons_eq_if_modifyHead] at left
  by_cases isEnd : b = newLine
  · rw [if_pos (beq_of_eq isEnd)] at left
    obtain ⟨nothing, isMore⟩ := List.cons.inj left
    exact Or.inl ⟨isEnd, List.drop_eq_nil_iff.mp nothing.symm, isMore⟩
  · rw [if_neg (by simpa using isEnd)] at left
    cases split : rest.splitOn newLine with
    | nil => exact absurd split (List.splitOn_ne_nil newLine rest)
    | cons first others =>
        rw [split, List.modifyHead_cons] at left
        obtain ⟨taken, isMore⟩ := List.cons.inj left
        have tail : line.drop (col + 1) = first := by
          rw [← List.tail_drop, ← taken, List.tail_cons]
        exact Or.inr ⟨isEnd, by rw [tail, taken], by rw [tail, isMore]⟩

namespace Session

/-- The system calls of the kernel, with waits for the clock of so many looks. -/
def fishCalls (layout : KernelLayout) (fs : FileSystem) (around : Surroundings)
    (waits : ClockWaits) (looks : Nat) : FishCalls Session where
  openFile := (systemCalls fs around).openFile
  read := waitingRead fs around waits looks
  write := (systemCalls fs around).write
  close := (systemCalls fs around).close
  vidmap session screenStart :=
    let entered := session.enter around
    let done := entered.kernel.vidmap layout screenStart
    ({ entered with kernel := done.1 }, done.2)
  load session linear :=
    .ofBitVec (Kernel.firstWord fun i =>
      session.kernel.mem.read (session.kernel.paging.physicalOf layout (linear + i)))

variable (layout : KernelLayout) (waits : ClockWaits) {around : Surroundings}
  {fs : FileSystem} {session : Session} {fd inode col : Nat} {line : List UInt8}
  {more : List (List UInt8)} {stream : FrameStream}

/-- A file of `add_frames` at a column of its current line, with the lines behind it. -/
inductive AtLine (fs : FileSystem) (session : Session) (fd inode : Nat) (line : List UInt8)
    (more : List (List UInt8)) (col : Nat) : FrameStream → Prop
  | reading {position : Nat} {c : UInt8}
      (placed : session.pcb.fDescs fd = ⟨.fileOpsTbl, inode, position, flagActive⟩)
      (within : position ≤ fs.inodeLength inode) (goesOn : c ≠ newLine)
      (left : ((fs.fileText inode).drop position).splitOn newLine = line.drop col :: more)
      (inLine : col ≤ line.length) :
      AtLine fs session fd inode line more col ⟨fd, c, false⟩
  | done {position : Nat}
      (placed : session.pcb.fDescs fd = ⟨.fileOpsTbl, inode, position, flagActive⟩)
      (within : position ≤ fs.inodeLength inode)
      (left : ((fs.fileText inode).drop position).splitOn newLine = more)
      (behind : line.length ≤ col) :
      AtLine fs session fd inode line more col ⟨fd, newLine, false⟩
  | ended (behind : line.length ≤ col) (last : more = []) :
      AtLine fs session fd inode line more col ⟨fd, newLine, true⟩

theorem AtLine.congr (atLine : AtLine fs session fd inode line more col stream)
    {after : Session} (same : after.pcb.fDescs fd = session.pcb.fDescs fd) :
    AtLine fs after fd inode line more col stream := by
  cases atLine with
  | reading placed within goesOn left inLine =>
      exact .reading (same.trans placed) within goesOn left inLine
  | done placed within left behind => exact .done (same.trans placed) within left behind
  | ended behind last => exact .ended behind last

/-- Other descriptors stay as they are. -/
def KeepsOthers (fd : Nat) (session after : Session) : Prop :=
  ∀ other, other ≠ fd → after.pcb.fDescs other = session.pcb.fDescs other

theorem KeepsOthers.of_update {desc : FileDesc} {after : Session}
    (descs : after.pcb.fDescs = Function.update session.pcb.fDescs fd desc) :
    KeepsOthers fd session after := by
  intro other different
  rw [descs, Function.update_of_ne different]

/-- A read of one byte takes the next byte of the file. -/
theorem read_byte (spares : around.SparesProcess) (fdLt : fd < 8)
    (inRange : inode < fs.numInodes) (wellFormed : fs.WellFormedFile inode) {position : Nat}
    (placed : session.pcb.fDescs fd = ⟨.fileOpsTbl, inode, position, flagActive⟩)
    (inside : position < (fs.fileText inode).length) (buf : CString) :
    ∃ after content,
      (∀ looks, (fishCalls layout fs around waits looks).read session fd buf 1 =
        some (after, 1, content)) ∧
        after.pcb.fDescs = Function.update session.pcb.fDescs fd
          ⟨.fileOpsTbl, inode, position + 1, flagActive⟩ ∧
        content 0 = (fs.fileText inode)[position] := by
  have inFile := inside
  rw [fs.fileText_length] at inFile
  have lengthLe := wellFormed.length_le
  have one : fs.readCount inode position 1 = 1 := by
    unfold FileSystem.readCount
    omega
  obtain ⟨after, content, answered, descs, -, reads⟩ := read_inside spares fdLt placed inRange
    inFile (by omega) buf (show 1 < 2 ^ 31 by omega)
  rw [one] at answered descs reads
  refine ⟨after, content, fun looks => ?_, descs, ?_⟩
  · exact (waitingRead_of_other spares (by rw [placed]; simp) looks buf 1).trans
      (congrArg some answered)
  rw [reads, if_pos Nat.one_pos, FileSystem.mem_byteAddress wellFormed (by omega)]
  simp [FileSystem.fileText, FileSystem.fileSlice]

/-- `add_frames` takes the next character of the line, or finds its end. -/
theorem AtLine.advance (spares : around.SparesProcess) (fdLt : fd < 8)
    (inRange : inode < fs.numInodes) (wellFormed : fs.WellFormedFile inode)
    (atLine : AtLine fs session fd inode line more col stream) :
    ∃ next read,
      (∀ looks, stream.advance (fishCalls layout fs around waits looks) session =
        some (next, read)) ∧
      AtLine fs next fd inode line more (col + 1) read ∧ read.c = line.getD col newLine ∧
      KeepsOthers fd session next := by
  have lengthLe := wellFormed.length_le
  cases atLine with
  | @reading position c placed within goesOn left inLine =>
      by_cases inside : position < (fs.fileText inode).length
      · obtain ⟨next, content, answered, descs, isByte⟩ :=
          read_byte layout waits spares fdLt inRange wellFormed placed inside (cString [c])
        have inFile := inside
        rw [fs.fileText_length] at inFile
        have placedNext : next.pcb.fDescs fd =
            ⟨.fileOpsTbl, inode, position + 1, flagActive⟩ := by
          rw [descs, Function.update_self]
        have advanced (looks : Nat) :
            (FrameStream.mk fd c false).advance (fishCalls layout fs around waits looks) session =
              some (next, ⟨fd, (fs.fileText inode)[position], false⟩) := by
          simp [FrameStream.advance, goesOn, answered, isByte]
        rw [List.drop_eq_getElem_cons inside] at left
        generalize (fs.fileText inode)[position] = byte at left advanced
        rcases splitOn_next left with ⟨rfl, behind, isMore⟩ | ⟨notEnd, taken, isLeft⟩
        · refine ⟨next, _, advanced, .done placedNext (by omega) isMore (by omega), ?_,
            .of_update descs⟩
          simp [List.getD_eq_getElem?_getD, List.getElem?_eq_none behind]
        · have inside : col < line.length := by
            by_contra behind
            rw [List.drop_eq_nil_of_le (by omega)] at taken
            cases taken
          refine ⟨next, _, advanced, .reading placedNext (by omega) notEnd isLeft inside, ?_,
            .of_update descs⟩
          rw [List.drop_eq_getElem_cons inside] at taken
          rw [List.getD_eq_getElem _ _ inside]
          exact (List.cons.inj taken).1.symm
      · obtain ⟨next, answered, descs, -⟩ := read_atEnd spares fdLt placed inRange
          (by rw [← fs.fileText_length]; omega) (by omega) (cString [c]) 1
        have waited (looks : Nat) : waitingRead fs around waits looks session fd (cString [c]) 1 =
            some ((systemCalls fs around).read session fd (cString [c]) 1) :=
          waitingRead_of_other spares (by rw [placed]; simp) looks (cString [c]) 1
        have advanced (looks : Nat) :
            (FrameStream.mk fd c false).advance (fishCalls layout fs around waits looks) session =
              some (next, ⟨fd, newLine, true⟩) := by
          simp [FrameStream.advance, fishCalls, goesOn, waited, answered]
        rw [List.drop_eq_nil_of_le (by omega), List.splitOn_nil] at left
        obtain ⟨nothing, last⟩ := List.cons.inj left
        have behind : line.length ≤ col := List.drop_eq_nil_iff.mp nothing.symm
        refine ⟨next, _, advanced, .ended (by omega) last.symm, ?_, fun other _ => by rw [descs]⟩
        simp [List.getD_eq_getElem?_getD, List.getElem?_eq_none behind]
  | done placed within left behind =>
      refine ⟨session, _, fun _ => by simp [FrameStream.advance],
        .done placed within left (by omega), ?_, fun _ _ => rfl⟩
      simp [List.getD_eq_getElem?_getD, List.getElem?_eq_none behind]
  | ended behind last =>
      refine ⟨session, _, fun _ => by simp [FrameStream.advance], .ended (by omega) last, ?_,
        fun _ _ => rfl⟩
      simp [List.getD_eq_getElem?_getD, List.getElem?_eq_none behind]

/-- The two files of `add_frames`, each at a column of the first of its lines, beside the
descriptors of others. -/
structure AtLines (fs : FileSystem) (others : Nat → FileDesc) (fd0 fd1 inode0 inode1 : Nat)
    (lines0 lines1 : List (List UInt8)) (col : Nat) (current : FramesState Session) :
    Prop where
  first : AtLine fs current.world fd0 inode0 (lines0.headD []) lines0.tail col current.stream0
  second : AtLine fs current.world fd1 inode1 (lines1.headD []) lines1.tail col current.stream1
  kept : ∀ other, other ≠ fd0 → other ≠ fd1 →
    current.world.pcb.fDescs other = others other

/-- The numbers and the files that `add_frames` has been given. -/
structure FrameFiles (fs : FileSystem) (fd0 fd1 inode0 inode1 : Nat) : Prop where
  fd0Lt : fd0 < 8
  fd1Lt : fd1 < 8
  apart : fd0 ≠ fd1
  inRange0 : inode0 < fs.numInodes
  inRange1 : inode1 < fs.numInodes
  wellFormed0 : fs.WellFormedFile inode0
  wellFormed1 : fs.WellFormedFile inode1

variable {others : Nat → FileDesc} {fd0 fd1 inode0 inode1 : Nat}
  {lines0 lines1 : List (List UInt8)} {current : FramesState Session}

/-- Both files are read once. -/
theorem AtLines.advance (files : FrameFiles fs fd0 fd1 inode0 inode1)
    (spares : around.SparesProcess)
    (atLines : AtLines fs others fd0 fd1 inode0 inode1 lines0 lines1 col current) :
    ∃ middle next read0 read1,
      (∀ looks, current.stream0.advance (fishCalls layout fs around waits looks) current.world =
        some (middle, read0)) ∧
      (∀ looks, current.stream1.advance (fishCalls layout fs around waits looks) middle =
        some (next, read1)) ∧
      read0.c = (lines0.headD []).getD col newLine ∧
      read1.c = (lines1.headD []).getD col newLine ∧
      ∀ added, AtLines fs others fd0 fd1 inode0 inode1 lines0 lines1 (col + 1)
        ⟨next, read0, read1, added⟩ := by
  obtain ⟨middle, read0, advanced0, atLine0, c0, keeps0⟩ :=
    atLines.first.advance layout waits spares files.fd0Lt files.inRange0 files.wellFormed0
  have second := atLines.second.congr (keeps0 fd1 (Ne.symm files.apart))
  obtain ⟨next, read1, advanced1, atLine1, c1, keeps1⟩ :=
    second.advance layout waits spares files.fd1Lt files.inRange1 files.wellFormed1
  refine ⟨middle, next, read0, read1, advanced0, advanced1, c0, c1, fun _ =>
    ⟨atLine0.congr (keeps1 fd0 files.apart), atLine1, fun other notFirst notSecond => ?_⟩⟩
  exact (keeps1 other notSecond).trans
    ((keeps0 other notFirst).trans (atLines.kept other notFirst notSecond))

/-- An entry that is neither a directory nor a regular file is the clock. -/
structure IsClock (fs : FileSystem) (name : CString) (index : Nat) : Prop where
  named : name 0 ≠ 0
  found : fs.findEntry name = some index
  notDir : fs.entryType index ≠ fileTypeDir
  notFile : fs.entryType index ≠ fileTypeFile

end Session

end ChapOS
