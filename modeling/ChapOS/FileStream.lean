import ChapOS.FileReads
import ChapOS.SystemCalls

/-!
# Reading a file as a stream

A file descriptor is read again and again with counts chosen by the caller.
The copy loop also takes the byte behind the end of the file, so the stream is
the file exactly when no read that starts inside the file asks for a byte
beyond its end.
-/

namespace ChapOS

namespace FileSystem

/-- The byte of a file at a position, by the layout of the image: the boot
block, the inode blocks, then the data blocks. -/
def fileByte (fs : FileSystem) (inode position : Nat) : UInt8 :=
  fs.mem (fs.fileSysStart +
    (1 + fs.numInodes + fs.dataBlock inode (position / 4096)) * 4096 +
    position % 4096)

/-- Bytes `first`, ..., `first + count - 1` of a file. -/
def fileSlice (fs : FileSystem) (inode first count : Nat) : List UInt8 :=
  (List.range count).map fun index => fs.fileByte inode (first + index)

/-- The inode's length and block numbers fit its table and the image. -/
structure WellFormedFile (fs : FileSystem) (inode : Nat) : Prop where
  length_le : fs.inodeLength inode ≤ 1023 * 4096
  blocks : ∀ index < (fs.inodeLength inode + 4095) / 4096,
    fs.dataBlock inode index < fs.numDataBlocks
  inMemory :
    fs.fileSysStart + (1 + fs.numInodes + fs.numDataBlocks) * 4096 ≤ 2 ^ 32

@[simp]
theorem fileSlice_length (fs : FileSystem) (inode first count : Nat) :
    (fs.fileSlice inode first count).length = count := by
  simp [fileSlice]

theorem fileSlice_append (fs : FileSystem) (inode first count more : Nat) :
    fs.fileSlice inode first count ++ fs.fileSlice inode (first + count) more =
      fs.fileSlice inode first (count + more) := by
  simp [fileSlice, List.range_add, Function.comp_def, Nat.add_assoc]

/-- Inside a well-formed file the address arithmetic never wraps. -/
theorem mem_byteAddress {fs : FileSystem} {inode position : Nat}
    (wellFormed : fs.WellFormedFile inode)
    (inside : position < fs.inodeLength inode) :
    fs.mem (fs.byteAddress inode position) = fs.fileByte inode position := by
  have block := wellFormed.blocks (position / 4096) (by omega)
  have inMemory := wellFormed.inMemory
  have first : (fs.fileSysStart + (1 + fs.numInodes) * 4096) % 2 ^ 32 =
      fs.fileSysStart + (1 + fs.numInodes) * 4096 :=
    Nat.mod_eq_of_lt (by omega)
  have second : (fs.fileSysStart + (1 + fs.numInodes) * 4096 +
      fs.dataBlock inode (position / 4096) * 4096) % 2 ^ 32 =
      fs.fileSysStart + (1 + fs.numInodes) * 4096 +
        fs.dataBlock inode (position / 4096) * 4096 :=
    Nat.mod_eq_of_lt (by omega)
  simp only [byteAddress, blockAddress, dataBlockStart, dataBlockSize, fileByte]
  rw [first, second, Nat.mod_eq_of_lt (by omega)]
  congr 1
  omega

end FileSystem

/-- What one read call reports: its value, the bytes it delivered and the
position of the descriptor before and after. -/
structure ReadReport where
  value : Int
  bytes : List UInt8
  posBefore : Nat
  posAfter : Nat

/-- The first `count` bytes of a buffer. -/
def deliveredBytes (buf : Option UserBuffer) (count : Nat) : List UInt8 :=
  match buf with
  | none => []
  | some memory => (List.range count).map memory.read

/-- Issue read calls on one descriptor, each with its own count and buffer. -/
def readCalls (fs : FileSystem) (stale : StaleLocals) (woken : Tty) (fd : Nat) :
    Kernel → List (Int × CString) → List ReadReport
  | _, [] => []
  | kernel, (nbytes, content) :: rest =>
      let done := kernel.read fs stale woken fd (some ⟨content, []⟩) nbytes
      { value := done.2.1
        bytes := deliveredBytes done.2.2 done.2.1.toNat
        posBefore := (kernel.currentPcb.fDescs fd).filePos
        posAfter := (done.1.currentPcb.fDescs fd).filePos } ::
        readCalls fs stale woken fd done.1 rest

/-- The bytes that a sequence of calls delivered. -/
def streamBytes (reports : List ReadReport) : List UInt8 :=
  reports.flatMap ReadReport.bytes

/-- The calls read the file as a stream: after each the position counts the
bytes delivered so far and lies in the file, a call that returns 0 finds the
whole file delivered, and a call that fails leaves the position alone. -/
structure StreamsFile (fs : FileSystem) (inode : Nat)
    (reports : List ReadReport) : Prop where
  position : ∀ before report after, reports = before ++ report :: after →
    report.posAfter = (streamBytes (before ++ [report])).length ∧
      report.posAfter ≤ fs.inodeLength inode
  complete : ∀ before report, reports = before ++ [report] → report.value = 0 →
    streamBytes reports = fs.fileSlice inode 0 (fs.inodeLength inode)
  failed : ∀ report ∈ reports, report.value = -1 →
    report.posAfter = report.posBefore

/-- No read that starts before the end asks for a byte beyond it. -/
def StaysInside (length : Nat) (sizes : List Nat) : Prop :=
  ∀ before size after, sizes = before ++ size :: after →
    before.sum < length → before.sum + size ≤ length

theorem staysInside_nil (length : Nat) : StaysInside length [] := by
  intro before size after same
  simp at same

/-- The first read stays inside, and the others stay inside what it leaves. -/
theorem staysInside_cons {length size : Nat} {sizes : List Nat} :
    StaysInside length (size :: sizes) ↔
      (0 < length → size ≤ length) ∧ StaysInside (length - size) sizes := by
  constructor
  · intro inside
    refine ⟨fun positive => ?_, ?_⟩
    · simpa using inside [] size sizes rfl positive
    · intro before next after same below
      have shifted := inside (size :: before) next after (by rw [same]; rfl)
        (by simp only [List.sum_cons]; omega)
      simp only [List.sum_cons] at shifted
      omega
  · rintro ⟨first, rest⟩ before next after same below
    cases before with
    | nil =>
        obtain ⟨rfl, rfl⟩ := List.cons.inj same
        simpa using first below
    | cons head before =>
        obtain ⟨rfl, tailSame⟩ := List.cons.inj same
        simp only [List.sum_cons] at below ⊢
        have fits := first (by omega)
        have inside := rest before next after tailSame (by omega)
        omega

/-- The counts of a sequence of calls. -/
def callSizes (calls : List (Int × CString)) : List Nat :=
  calls.map fun call => call.1.toNat

/-- The descriptor is open on a regular file at a position. -/
def Kernel.AtPosition (kernel : Kernel) (fd inode position : Nat) : Prop :=
  kernel.currentPcb.fDescs fd = ⟨.fileOpsTbl, inode, position, flagActive⟩

section Calls

variable {fs : FileSystem} (stale : StaleLocals) (woken : Tty) {kernel : Kernel}
  {fd inode position : Nat}

/-- `read` on a file descriptor is `file_read`. -/
theorem read_of_atPosition (fdLt : fd < 8)
    (placed : kernel.AtPosition fd inode position) (buf : UserBuffer)
    (nbytes : Int) :
    kernel.read fs stale woken fd (some buf) nbytes =
      ((kernel.fileRead fs fd buf nbytes).1, (kernel.fileRead fs fd buf nbytes).2.1,
        some (kernel.fileRead fs fd buf nbytes).2.2) := by
  have inTable : ¬((maxOpenFile : Int) ≤ fd ∨ (fd : Int) < 0) := by
    simp only [maxOpenFile]
    omega
  have active : ¬(kernel.currentPcb.fDescs fd).flags ≠ flagActive := by
    rw [placed]
    exact not_not_intro rfl
  have ops : (kernel.currentPcb.fDescs fd).fopsJmpTbPtr = .fileOpsTbl := by
    rw [placed]
  simp only [Kernel.read, if_neg inTable, Int.toNat_natCast, if_neg active, ops,
    Kernel.readOp]

/-- A read that starts inside the file and ends inside it or right behind it. -/
theorem readCalls_of_inside (fdLt : fd < 8)
    (wellFormed : fs.WellFormedFile inode) (inRange : inode < fs.numInodes)
    (placed : kernel.AtPosition fd inode position)
    (inside : position < fs.inodeLength inode) {nbytes : Int}
    (positive : 0 < nbytes) (bounded : nbytes < 2 ^ 31) (content : CString)
    (rest : List (Int × CString)) :
    ∃ next report,
      readCalls fs stale woken fd kernel ((nbytes, content) :: rest) =
          report :: readCalls fs stale woken fd next rest ∧
        next.AtPosition fd inode
          (position + fs.readCount inode position nbytes.toNat) ∧
        report.value = fs.readCount inode position nbytes.toNat ∧
        report.posAfter = position + fs.readCount inode position nbytes.toNat ∧
        (position + nbytes.toNat ≤ fs.inodeLength inode →
          report.bytes = fs.fileSlice inode position nbytes.toNat) := by
  have length_le := wellFormed.length_le
  have length : (nbytes % 2 ^ 32).toNat = nbytes.toNat := by
    rw [Int.emod_eq_of_lt (by omega) (by omega)]
  have copied := fs.readData_eq fs.assignBuffer (⟨content, []⟩ : UserBuffer)
    nbytes.toNat inRange inside (by omega)
  have countLe : position + fs.readCount inode position nbytes.toNat ≤
      fs.inodeLength inode + 1 := by
    simp only [FileSystem.readCount]
    omega
  have advanced : ((position + (fs.readCount inode position nbytes.toNat : Int)) %
      2 ^ 32).toNat = position + fs.readCount inode position nbytes.toNat := by
    rw [Int.emod_eq_of_lt (by omega) (by omega)]
    omega
  have done : kernel.fileRead fs fd ⟨content, []⟩ nbytes =
      (kernel.setDesc fd ⟨.fileOpsTbl, inode,
          position + fs.readCount inode position nbytes.toNat, flagActive⟩,
        fs.readData fs.assignBuffer inode position ⟨content, []⟩ nbytes.toNat) := by
    simp only [Kernel.fileRead]
    rw [placed]
    simp only [length]
    rw [copied]
    simp only [advanced]
  refine ⟨_, _, rfl, ?_, ?_, ?_, ?_⟩
  · rw [read_of_atPosition stale woken fdLt placed, done]
    simp [Kernel.AtPosition]
  · rw [read_of_atPosition stale woken fdLt placed, done, copied]
  · rw [read_of_atPosition stale woken fdLt placed, done]
    simp
  · intro ends
    have count : fs.readCount inode position nbytes.toNat = nbytes.toNat := by
      simp only [FileSystem.readCount]
      omega
    rw [read_of_atPosition stale woken fdLt placed, done, copied, count,
      FileSystem.forUpTo_assignBuffer]
    simp only [deliveredBytes, FileSystem.fileSlice, Int.toNat_natCast]
    apply List.map_congr_left
    intro index member
    have indexLt := List.mem_range.mp member
    rw [TracedMemory.storeSequence_read _ _ (by intros; assumption) indexLt,
      FileSystem.mem_byteAddress wellFormed (by omega)]

/-- A read at the end of the file or behind it. -/
theorem readCalls_of_atEnd (fdLt : fd < 8) (inRange : inode < fs.numInodes)
    (placed : kernel.AtPosition fd inode position)
    (atEnd : fs.inodeLength inode ≤ position) (positionLt : position < 2 ^ 32)
    (nbytes : Int) (content : CString) (rest : List (Int × CString)) :
    ∃ next report,
      readCalls fs stale woken fd kernel ((nbytes, content) :: rest) =
          report :: readCalls fs stale woken fd next rest ∧
        next.AtPosition fd inode position ∧ report.value = 0 ∧
        report.posAfter = position ∧ report.bytes = [] := by
  have nothing := fs.readData_of_atEnd fs.assignBuffer (⟨content, []⟩ : UserBuffer)
    (nbytes % 2 ^ 32).toNat inRange atEnd
  have still : (((position : Int) + 0) % 2 ^ 32).toNat = position := by
    rw [Int.add_zero, Int.emod_eq_of_lt (by omega) (by omega)]
    omega
  have done : kernel.fileRead fs fd ⟨content, []⟩ nbytes =
      (kernel.setDesc fd ⟨.fileOpsTbl, inode, position, flagActive⟩, 0,
        ⟨content, []⟩) := by
    simp only [Kernel.fileRead]
    rw [placed]
    simp only
    rw [nothing]
    simp only [still]
  refine ⟨_, _, rfl, ?_, ?_, ?_, ?_⟩
  · rw [read_of_atPosition stale woken fdLt placed, done]
    simp [Kernel.AtPosition]
  · rw [read_of_atPosition stale woken fdLt placed, done]
  · rw [read_of_atPosition stale woken fdLt placed, done]
    simp
  · rw [read_of_atPosition stale woken fdLt placed, done]
    rfl

/-- A read of an inode out of range fails and moves the position back. -/
theorem readCalls_of_outOfRange (fdLt : fd < 8) (outOfRange : fs.numInodes ≤ inode)
    (placed : kernel.AtPosition fd inode 0) (nbytes : Int) (content : CString)
    (rest : List (Int × CString)) :
    ∃ report reports,
      readCalls fs stale woken fd kernel ((nbytes, content) :: rest) =
          report :: reports ∧
        report.value = -1 ∧ report.posBefore = 0 ∧
        report.posAfter = 2 ^ 32 - 1 := by
  have refused := fs.readData_of_outOfRange fs.assignBuffer 0
    (⟨content, []⟩ : UserBuffer) (nbytes % 2 ^ 32).toNat outOfRange
  have done : kernel.fileRead fs fd ⟨content, []⟩ nbytes =
      (kernel.setDesc fd ⟨.fileOpsTbl, inode, 2 ^ 32 - 1, flagActive⟩, -1,
        ⟨content, []⟩) := by
    simp only [Kernel.fileRead]
    rw [placed]
    simp only
    rw [refused]
    rfl
  refine ⟨_, _, rfl, ?_, ?_, ?_⟩
  · rw [read_of_atPosition stale woken fdLt placed, done]
  · show (kernel.currentPcb.fDescs fd).filePos = 0
    rw [placed]
  · rw [read_of_atPosition stale woken fdLt placed, done]
    simp

/-- Reads that stay inside the file move the position by their sizes. -/
theorem readCalls_append (fdLt : fd < 8) (wellFormed : fs.WellFormedFile inode)
    (inRange : inode < fs.numInodes) {calls : List (Int × CString)}
    (positive : ∀ call ∈ calls, 0 < call.1 ∧ call.1 < 2 ^ 31)
    (placed : kernel.AtPosition fd inode position)
    (inside : position + (callSizes calls).sum ≤ fs.inodeLength inode)
    (rest : List (Int × CString)) :
    ∃ next reports,
      readCalls fs stale woken fd kernel (calls ++ rest) =
          reports ++ readCalls fs stale woken fd next rest ∧
        next.AtPosition fd inode (position + (callSizes calls).sum) := by
  induction calls generalizing kernel position with
  | nil => exact ⟨kernel, [], rfl, placed⟩
  | cons call calls ih =>
      obtain ⟨nbytes, content⟩ := call
      have size := positive (nbytes, content) List.mem_cons_self
      simp only [callSizes, List.map_cons, List.sum_cons] at inside ⊢
      obtain ⟨middle, report, split, middlePlaced, -⟩ :=
        readCalls_of_inside stale woken fdLt wellFormed
          inRange placed (by omega) size.1 size.2 content (calls ++ rest)
      have count : fs.readCount inode position nbytes.toNat = nbytes.toNat := by
        simp only [FileSystem.readCount]
        omega
      rw [count] at middlePlaced
      obtain ⟨next, reports, tail, nextPlaced⟩ :=
        ih (fun call member => positive call (List.mem_cons_of_mem _ member))
          middlePlaced (by simp only [callSizes]; omega)
      refine ⟨next, report :: reports, ?_, ?_⟩
      · rw [List.cons_append, split, tail, List.cons_append]
      · rw [← Nat.add_assoc]
        exact nextPlaced

/-- A read that stays inside reports the next stretch of the file, which is empty only
at its end. -/
theorem readCalls_head (fdLt : fd < 8) (wellFormed : fs.WellFormedFile inode)
    (inRange : inode < fs.numInodes) {nbytes : Int} (size : 0 < nbytes ∧ nbytes < 2 ^ 31)
    (placed : kernel.AtPosition fd inode position)
    (inFile : position ≤ fs.inodeLength inode) (content : CString)
    (calls : List (Int × CString))
    (inside : StaysInside (fs.inodeLength inode - position)
      (callSizes ((nbytes, content) :: calls))) :
    ∃ next report count,
      readCalls fs stale woken fd kernel ((nbytes, content) :: calls) =
          report :: readCalls fs stale woken fd next calls ∧
        next.AtPosition fd inode (position + count) ∧
        report.value = count ∧ report.posAfter = position + count ∧
        report.bytes = fs.fileSlice inode position count ∧
        (count = 0 → fs.inodeLength inode ≤ position) ∧
        position + count ≤ fs.inodeLength inode ∧
        StaysInside (fs.inodeLength inode - (position + count)) (callSizes calls) := by
  obtain ⟨first, restInside⟩ :
      (0 < fs.inodeLength inode - position →
        nbytes.toNat ≤ fs.inodeLength inode - position) ∧
        StaysInside (fs.inodeLength inode - position - nbytes.toNat)
          (callSizes calls) :=
    staysInside_cons.mp inside
  by_cases atEnd : fs.inodeLength inode ≤ position
  · have length_le := wellFormed.length_le
    obtain ⟨next, report, split, nextPlaced, value, after, bytes⟩ :=
      readCalls_of_atEnd stale woken fdLt inRange placed
        atEnd (by omega) nbytes content calls
    refine ⟨next, report, 0, split, nextPlaced, value, after, ?_, fun _ => atEnd,
      inFile, ?_⟩
    · rw [bytes]
      rfl
    · have none : fs.inodeLength inode - position - nbytes.toNat =
          fs.inodeLength inode - (position + 0) := by omega
      exact none ▸ restInside
  · have fits := first (by omega)
    obtain ⟨next, report, split, nextPlaced, value, after, bytes⟩ :=
      readCalls_of_inside stale woken fdLt wellFormed
        inRange placed (by omega) size.1 size.2 content calls
    have count : fs.readCount inode position nbytes.toNat = nbytes.toNat := by
      simp only [FileSystem.readCount]
      omega
    rw [count] at nextPlaced value after
    refine ⟨next, report, nbytes.toNat, split, nextPlaced, value, after,
      bytes (by omega), by omega, by omega, ?_⟩
    rw [← Nat.sub_sub]
    exact restInside

/-- What a sequence of reads that stay inside reports, from any position of
the file on. -/
theorem readCalls_stream (fdLt : fd < 8) (wellFormed : fs.WellFormedFile inode)
    (inRange : inode < fs.numInodes) {calls : List (Int × CString)}
    (positive : ∀ call ∈ calls, 0 < call.1 ∧ call.1 < 2 ^ 31)
    (placed : kernel.AtPosition fd inode position)
    (inFile : position ≤ fs.inodeLength inode)
    (inside : StaysInside (fs.inodeLength inode - position) (callSizes calls)) :
    let reports := readCalls fs stale woken fd kernel calls
    (∀ before report after, reports = before ++ report :: after →
        report.posAfter = position + (streamBytes (before ++ [report])).length ∧
          report.posAfter ≤ fs.inodeLength inode) ∧
      (∀ before report, reports = before ++ [report] → report.value = 0 →
        streamBytes reports =
          fs.fileSlice inode position (fs.inodeLength inode - position)) ∧
      ∀ report ∈ reports, 0 ≤ report.value := by
  induction calls generalizing kernel position with
  | nil => simp [readCalls]
  | cons call calls ih =>
      obtain ⟨nbytes, content⟩ := call
      have size := positive (nbytes, content) List.mem_cons_self
      have restPositive : ∀ call ∈ calls, 0 < call.1 ∧ call.1 < 2 ^ 31 :=
        fun call member => positive call (List.mem_cons_of_mem _ member)
      obtain ⟨next, report, count, split, nextPlaced, value, after, bytes, nothing,
        ends, restInside⟩ := readCalls_head stale woken fdLt wellFormed inRange size placed
          inFile content calls inside
      obtain ⟨positions, complete, values⟩ := ih restPositive nextPlaced ends restInside
      simp only [split]
      refine ⟨?_, ?_, ?_⟩
      · intro before current later same
        cases before with
        | nil =>
            obtain ⟨rfl, rfl⟩ := List.cons.inj same
            simp [streamBytes, bytes, after, ends]
        | cons head before =>
            obtain ⟨rfl, tailSame⟩ := List.cons.inj same
            obtain ⟨counted, bounded⟩ := positions before current later tailSame
            refine ⟨?_, bounded⟩
            rw [counted]
            simp [streamBytes, bytes, Nat.add_assoc]
      · intro before last same zero
        cases before with
        | nil =>
            obtain ⟨rfl, noMore⟩ := List.cons.inj same
            have none : count = 0 := by omega
            have atEnd := nothing none
            have left : fs.inodeLength inode - position = count := by omega
            simp only [noMore, streamBytes, List.flatMap_cons, List.flatMap_nil,
              List.append_nil, bytes, left]
        | cons head before =>
            obtain ⟨rfl, tailSame⟩ := List.cons.inj same
            have rest := complete before last tailSame zero
            simp only [streamBytes] at rest
            simp only [streamBytes, List.flatMap_cons, bytes, rest,
              FileSystem.fileSlice_append]
            congr 1
            omega
      · intro current member
        rcases List.mem_cons.mp member with rfl | inRest
        · omega
        · exact values current inRest

end Calls

/-- A sequence of reads of a freshly opened file descriptor streams the file
exactly when its inode is in range and no read that starts inside the file asks
for a byte beyond its end. -/
theorem reads_stream_file_iff (fs : FileSystem) (stale : StaleLocals) (woken : Tty)
    (kernel : Kernel) (fd inode : Nat) (calls : List (Int × CString)) (fdLt : fd < 8)
    (opened : kernel.currentPcb.fDescs fd = ⟨.fileOpsTbl, inode, 0, flagActive⟩)
    (wellFormed : inode < fs.numInodes → fs.WellFormedFile inode)
    (issued : calls ≠ [])
    (positive : ∀ call ∈ calls, 0 < call.1 ∧ call.1 < 2 ^ 31) :
    StreamsFile fs inode (readCalls fs stale woken fd kernel calls) ↔
      inode < fs.numInodes ∧
        StaysInside (fs.inodeLength inode) (callSizes calls) := by
  constructor
  · intro streams
    have inRange : inode < fs.numInodes := by
      by_contra outOfRange
      obtain ⟨⟨nbytes, content⟩, rest, rfl⟩ := List.exists_cons_of_ne_nil issued
      obtain ⟨report, reports, split, value, before, after⟩ :=
        readCalls_of_outOfRange stale woken fdLt
          (Nat.le_of_not_lt outOfRange) opened nbytes content rest
      have still := streams.failed report (by rw [split]; exact List.mem_cons_self) value
      omega
    refine ⟨inRange, ?_⟩
    intro sizesBefore size sizesAfter same below
    by_contra overrun
    -- The call that overruns starts at the sum of the sizes before it.
    obtain ⟨callsBefore, tail, rfl, rfl, tailSame⟩ := List.map_eq_append_iff.mp same
    obtain ⟨⟨nbytes, content⟩, callsAfter, rfl, rfl, -⟩ := List.map_eq_cons_iff.mp tailSame
    have nbytesPos := positive (nbytes, content) (by simp)
    obtain ⟨next, reports, split, placed⟩ :=
      readCalls_append stale woken fdLt (wellFormed inRange)
        inRange (fun call member => positive call (List.mem_append_left _ member))
        opened (by simp only [callSizes]; omega) ((nbytes, content) :: callsAfter)
    obtain ⟨last, report, lastSplit, -, -, after, -⟩ :=
      readCalls_of_inside stale woken fdLt (wellFormed inRange)
        inRange placed (by simp only [callSizes]; omega) nbytesPos.1 nbytesPos.2
        content callsAfter
    have bounded := (streams.position reports report _
      (split.trans (congrArg _ lastSplit))).2
    simp only [FileSystem.readCount, callSizes] at after
    omega
  · rintro ⟨inRange, inside⟩
    obtain ⟨positions, complete, values⟩ :=
      readCalls_stream stale woken fdLt (wellFormed inRange)
        inRange positive opened (Nat.zero_le _) inside
    refine ⟨?_, complete, ?_⟩
    · intro before report after same
      obtain ⟨counted, bounded⟩ := positions before report after same
      exact ⟨by omega, bounded⟩
    · intro report member failed
      have value := values report member
      omega

/-- The image of one regular file of three bytes. -/
def threeByteImage : FileSystem :=
  .ofFiles 0x500000 [⟨[0x61], fileTypeFile, 3⟩] [0x78, 0x79, 0x7A]

/-- The kernel after the three-byte file has been opened. -/
def threeByteKernel : Kernel :=
  (Kernel.loaded.open threeByteImage .zero (some (cString [0x61]))).1

theorem reads_stream_file_exact :
    StreamsFile threeByteImage 0
      (readCalls threeByteImage .zero Kernel.loaded.tty 2 threeByteKernel
        [(2, fun _ => 0), (1, fun _ => 0), (4, fun _ => 0)]) :=
  (reads_stream_file_iff threeByteImage .zero Kernel.loaded.tty threeByteKernel
    2 0 [(2, fun _ => 0), (1, fun _ => 0), (4, fun _ => 0)] (by decide)
    (by decide +kernel)
    (fun _ => ⟨by decide +kernel, by decide +kernel, by decide +kernel⟩)
    (by simp) (by simp)).mpr
    ⟨by decide +kernel, by
      have length : threeByteImage.inodeLength 0 = 3 := by decide +kernel
      simp [length, callSizes, staysInside_cons, staysInside_nil]⟩

/-- One read of four bytes leaves the position behind the end of the file. -/
theorem reads_miss_end_of_file :
    ¬StreamsFile threeByteImage 0
      (readCalls threeByteImage .zero Kernel.loaded.tty 2 threeByteKernel
        [(4, fun _ => 0), (4, fun _ => 0)]) := by
  intro streams
  have bounded := (streams.position [] _ _ rfl).2
  revert bounded
  decide +kernel

end ChapOS
