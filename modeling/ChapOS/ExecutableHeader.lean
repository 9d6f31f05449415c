import ChapOS.ProcessStack
import ChapOS.ReadLaw

/-!
# Which files `execute` takes for programs

`execute` drops the values of its two reads and looks at a buffer that short and
invalid files fill only in part.  What the buffer holds is computed here for every
file, and with it the files that pass the check although they are no programs.
-/

namespace ChapOS

open CountedLoops

namespace FileSystem

/-- How many bytes a read of four bytes stores. -/
def contentCount (fs : FileSystem) (inode offset : Nat) : Nat :=
  if inode < fs.numInodes ∧ offset < fs.inodeLength inode then
    fs.readCount inode offset minReadElfSize
  else 0

/-- Byte `i` of `f_content_buf` after its first read: a byte of the file, or what
the buffer held before. -/
def headerByte (fs : FileSystem) (stale : StaleLocals) (inode i : Nat) : UInt8 :=
  if i < fs.contentCount inode 0 then fs.mem (fs.byteAddress inode i)
  else stale.contentBuf i

/-- The buffer holds the four bytes of an ELF header. -/
def HeaderSeen (fs : FileSystem) (stale : StaleLocals) (inode : Nat) : Prop :=
  fs.headerByte stale inode 0 = 0x7F ∧ fs.headerByte stale inode 1 = 0x45 ∧
    fs.headerByte stale inode 2 = 0x4C ∧ fs.headerByte stale inode 3 = 0x46

/-- The little-endian word at a position of a file. -/
def fileWord (fs : FileSystem) (inode position : Nat) : Nat :=
  (fs.mem (fs.byteAddress inode position)).toNat +
    0x100 * (fs.mem (fs.byteAddress inode (position + 1))).toNat +
    0x10000 * (fs.mem (fs.byteAddress inode (position + 2))).toNat +
    0x1000000 * (fs.mem (fs.byteAddress inode (position + 3))).toNat

/-- The command names a directory entry with this inode number. -/
def NamesInode (fs : FileSystem) (stale : StaleLocals) (command : Option (List UInt8))
    (inode : Nat) : Prop :=
  ∃ bytes entry, command = some bytes ∧ (parseCommand bytes).2 ≠ .refused ∧
    fs.readDentryByName (parseCommand bytes).1.fileNameCommand.read stale.dentry =
      (0, entry) ∧ entry.inodeNum = inode

/-- An executable file with its entry point. -/
structure Genuine (fs : FileSystem) (inode entryPoint : Nat) : Prop where
  inRange : inode < fs.numInodes
  long : 28 ≤ fs.inodeLength inode
  magic : fs.mem (fs.byteAddress inode 0) = 0x7F ∧
    fs.mem (fs.byteAddress inode 1) = 0x45 ∧ fs.mem (fs.byteAddress inode 2) = 0x4C ∧
    fs.mem (fs.byteAddress inode 3) = 0x46
  entry : entryPoint = fs.fileWord inode 24

end FileSystem

namespace Kernel

/-- `execute` passes the header check and goes on to `gen_new_proc_id`. -/
structure Allocates (layout : KernelLayout) (fs : FileSystem) (stale : StaleLocals)
    (kernel : Kernel) (command : Option (List UInt8)) (inode entryPoint : Nat) :
    Prop where
  named : fs.NamesInode stale command inode
  headerRuns : (kernel.readContent layout fs inode 0
    (freshBuffer stale.contentBuf)).faulted = false
  header : contentWord (kernel.readContent layout fs inode 0
    (freshBuffer stale.contentBuf)).memory.read = asciiElf
  entryRuns : (kernel.readContent layout fs inode entryPtwStart
    (kernel.readContent layout fs inode 0
      (freshBuffer stale.contentBuf)).memory).faulted = false
  entry : (firstWord (kernel.readContent layout fs inode entryPtwStart
    (kernel.readContent layout fs inode 0
      (freshBuffer stale.contentBuf)).memory).memory.read).toNat = entryPoint

/-- The two reads of the header touch mapped addresses only. -/
def HeaderReadable (layout : KernelLayout) (fs : FileSystem) (kernel : Kernel)
    (inode : Nat) : Prop :=
  (inode < fs.numInodes → kernel.mapped layout (fs.inodePtr inode) = true) ∧
    (∀ i < fs.contentCount inode 0,
      kernel.mapped layout (fs.byteAddress inode i) = true) ∧
    ∀ i < fs.contentCount inode entryPtwStart,
      kernel.mapped layout (fs.byteAddress inode (entryPtwStart + i)) = true

section Reads

variable {layout : KernelLayout} {fs : FileSystem} {kernel : Kernel}
  {stale : StaleLocals} {command : Option (List UInt8)} {inode offset : Nat}

/-- When a read of four bytes does not fault. -/
theorem readContent_runs_iff (small : offset + 4 < 2 ^ 32)
    (buf : TracedMemory Nat UInt8) :
    (kernel.readContent layout fs inode offset buf).faulted = false ↔
      (inode < fs.numInodes → kernel.mapped layout (fs.inodePtr inode) = true) ∧
        ∀ i < fs.contentCount inode offset,
          kernel.mapped layout (fs.byteAddress inode (offset + i)) = true := by
  unfold readContent FileSystem.readMapped FileSystem.contentCount
  by_cases inRange : inode < fs.numInodes
  · cases inodeMapped : kernel.mapped layout (fs.inodePtr inode) with
    | false =>
        rw [if_pos ⟨inRange, rfl⟩]
        simp [inRange]
    | true =>
        rw [if_neg (by simp)]
        by_cases inside : offset < fs.inodeLength inode
        · rw [if_pos ⟨inRange, inside⟩,
            FileSystem.readData_eq_of_lt _ fs _ inRange inside small]
          constructor
          · intro running
            refine ⟨fun _ => rfl, fun i iLt => ?_⟩
            by_contra unmapped
            have faulted := @Copied.forUpTo_of_unmapped _ (kernel.assignLocal layout fs)
              _ i (fun i => fs.byteAddress inode (offset + i)) ⟨buf, false⟩ iLt
              fun current => by rw [assignLocal, if_neg unmapped]
            rw [running] at faulted
            exact Bool.noConfusion faulted
          · rintro ⟨-, mapped⟩
            apply Copied.forUpTo_of_mapped
            intro i iLt current
            rw [assignLocal, if_pos (mapped i iLt)]
            rfl
        · rw [if_neg (fun both => inside both.2),
            fs.readData_of_atEnd _ _ _ inRange (Nat.le_of_not_lt inside)]
          simp
  · rw [if_neg (fun both => inRange both.1), if_neg (fun both => inRange both.1),
      fs.readData_of_outOfRange _ _ _ _ (Nat.le_of_not_lt inRange)]
    simp [inRange]

/-- What a read of four bytes leaves in its buffer. -/
theorem readContent_read (small : offset + 4 < 2 ^ 32) {buf : TracedMemory Nat UInt8}
    (running : (kernel.readContent layout fs inode offset buf).faulted = false) (k : Nat) :
    (kernel.readContent layout fs inode offset buf).memory.read k =
      if k < fs.contentCount inode offset then
        fs.mem (fs.byteAddress inode (offset + k))
      else buf.read k := by
  have same := fs.readMapped_memory assignLocal_eq running
  rw [readContent, same]
  by_cases inRange : inode < fs.numInodes
  · by_cases inside : offset < fs.inodeLength inode
    · have count : fs.contentCount inode offset = fs.readCount inode offset 4 :=
        if_pos ⟨inRange, inside⟩
      rw [count, FileSystem.readData_eq_of_lt _ fs _ inRange inside small]
      dsimp only
      rw [fs.forUpTo_assignBuffer]
      split
      · rename_i below
        exact TracedMemory.storeSequence_read buf _ (fun _ _ _ _ same => same) below
      · rename_i beyond
        apply (TracedMemory.storeSequence_storesOnly buf _ _ _).read_eq
        rintro ⟨index, indexLt, rfl⟩
        exact beyond indexLt
    · have count : fs.contentCount inode offset = 0 := if_neg fun both => inside both.2
      rw [count, if_neg (Nat.not_lt_zero k),
        fs.readData_of_atEnd _ _ _ inRange (Nat.le_of_not_lt inside)]
  · have count : fs.contentCount inode offset = 0 := if_neg fun both => inRange both.1
    rw [count, if_neg (Nat.not_lt_zero k),
      fs.readData_of_outOfRange _ _ _ _ (Nat.le_of_not_lt inRange)]

/-- The comparison of the shifted bytes with the constant is exact. -/
theorem contentWord_eq_asciiElf_iff (buf : Nat → UInt8) :
    contentWord buf = asciiElf ↔
      buf 0 = 0x7F ∧ buf 1 = 0x45 ∧ buf 2 = 0x4C ∧ buf 3 = 0x46 := by
  have first := (buf 0).toNat_lt
  have second := (buf 1).toNat_lt
  have third := (buf 2).toNat_lt
  have fourth := (buf 3).toNat_lt
  rw [contentWord_eq]
  simp only [← UInt8.toNat_inj, asciiElf]
  constructor
  · intro same
    refine ⟨?_, ?_, ?_, ?_⟩ <;> simp <;> omega
  · rintro ⟨one, two, three, four⟩
    rw [one, two, three, four]
    rfl

/-- `execute` calls `gen_new_proc_id` for what passes the check. -/
theorem execute_of_allocates {entryPoint : Nat}
    (allocates : kernel.Allocates layout fs stale command inode entryPoint) :
    ∃ printed arg, kernel.execute layout fs stale command =
      (kernel.print printed).startProcess layout fs inode entryPoint arg := by
  obtain ⟨⟨bytes, entry, rfl, accepted, found, rfl⟩, headerRuns, header, entryRuns, rfl⟩ :=
    allocates
  obtain ⟨printed, isPrinted⟩ := kernel.exists_reported bytes
  refine ⟨printed, (parseCommand bytes).1.argCommand.read, ?_⟩
  simp only [execute, isPrinted, if_neg accepted, found, ne_eq, not_true_eq_false,
    if_false]
  have reads (offset : Nat) (buf : TracedMemory Nat UInt8) :
      (kernel.print printed).readContent layout fs entry.inodeNum offset buf =
        kernel.readContent layout fs entry.inodeNum offset buf := rfl
  simp only [executeFile, reads, headerRuns, header, entryRuns, Bool.false_eq_true,
    if_false, ne_eq, not_true_eq_false]

/-- Everything else is refused or stops at a page fault. -/
theorem execute_of_not_allocates
    (none : ∀ inode entryPoint,
      ¬kernel.Allocates layout fs stale command inode entryPoint) :
    ∃ printed,
      kernel.execute layout fs stale command =
          (kernel.print printed, .returned (-1)) ∨
        kernel.execute layout fs stale command =
          ((kernel.print printed).fault, .pageFault) := by
  cases command with
  | none => exact ⟨[], Or.inl rfl⟩
  | some bytes =>
      obtain ⟨printed, isPrinted⟩ := kernel.exists_reported bytes
      simp only [execute, isPrinted]
      split
      · exact ⟨[], Or.inl rfl⟩
      rename_i accepted
      split
      · exact ⟨printed, Or.inl rfl⟩
      rename_i found
      have named : fs.NamesInode stale (some bytes) (fs.readDentryByName
          (parseCommand bytes).1.fileNameCommand.read stale.dentry).2.inodeNum :=
        ⟨bytes, _, rfl, accepted, Prod.ext (not_not.mp found) rfl, rfl⟩
      unfold executeFile
      dsimp only
      split
      · exact ⟨printed, Or.inr rfl⟩
      rename_i headerRuns
      split
      · rw [printfPlain_eq, print_print]
        exact ⟨_, Or.inl rfl⟩
      rename_i header
      split
      · exact ⟨printed, Or.inr rfl⟩
      rename_i entryRuns
      exact (none _ _ ⟨named, Bool.eq_false_of_not_eq_true headerRuns, not_not.mp header,
        Bool.eq_false_of_not_eq_true entryRuns, rfl⟩).elim

/-- The bytes in the buffer when they are compared. -/
theorem readContent_header
    (running : (kernel.readContent layout fs inode 0
      (freshBuffer stale.contentBuf)).faulted = false) (k : Nat) :
    (kernel.readContent layout fs inode 0 (freshBuffer stale.contentBuf)).memory.read k =
      fs.headerByte stale inode k := by
  rw [readContent_read (by decide) running, Nat.zero_add]
  rfl

/-- What goes on to `gen_new_proc_id`: a named file whose header can be read without
a page fault and leaves the four bytes in the buffer. -/
theorem allocates_iff :
    (∃ entryPoint, kernel.Allocates layout fs stale command inode entryPoint) ↔
      fs.NamesInode stale command inode ∧ kernel.HeaderReadable layout fs inode ∧
        fs.HeaderSeen stale inode := by
  constructor
  · rintro ⟨entryPoint, named, headerRuns, header, entryRuns, -⟩
    obtain ⟨inodeMapped, headerMapped⟩ :=
      (readContent_runs_iff (by decide) _).mp headerRuns
    obtain ⟨-, entryMapped⟩ := (readContent_runs_iff (by decide) _).mp entryRuns
    simp only [Nat.zero_add] at headerMapped
    refine ⟨named, ⟨inodeMapped, headerMapped, entryMapped⟩, ?_⟩
    rw [contentWord_eq_asciiElf_iff] at header
    simp only [readContent_header headerRuns] at header
    exact header
  · rintro ⟨named, ⟨inodeMapped, headerMapped, entryMapped⟩, seen⟩
    have headerRuns : (kernel.readContent layout fs inode 0
        (freshBuffer stale.contentBuf)).faulted = false := by
      rw [readContent_runs_iff (by decide)]
      simp only [Nat.zero_add]
      exact ⟨inodeMapped, headerMapped⟩
    refine ⟨_, named, headerRuns, ?_, ?_, rfl⟩
    · rw [contentWord_eq_asciiElf_iff]
      simp only [readContent_header headerRuns]
      exact seen
    · rw [readContent_runs_iff (by decide)]
      exact ⟨inodeMapped, entryMapped⟩

/-- A file of at least 28 bytes that passes the check is a program. -/
theorem Allocates.genuine {entryPoint : Nat}
    (allocates : kernel.Allocates layout fs stale command inode entryPoint)
    (inRange : inode < fs.numInodes) (long : 28 ≤ fs.inodeLength inode) :
    fs.Genuine inode entryPoint := by
  obtain ⟨-, headerRuns, header, entryRuns, entry⟩ := allocates
  have headerCount : fs.contentCount inode 0 = 4 := by
    rw [FileSystem.contentCount, if_pos ⟨inRange, by omega⟩]
    simp only [FileSystem.readCount, minReadElfSize]
    omega
  have entryCount : fs.contentCount inode 24 = 4 := by
    rw [FileSystem.contentCount, if_pos ⟨inRange, by omega⟩]
    simp only [FileSystem.readCount, minReadElfSize]
    omega
  have headerBytes (k : Nat) (kLt : k < 4) :
      fs.headerByte stale inode k = fs.mem (fs.byteAddress inode k) := by
    rw [FileSystem.headerByte, headerCount, if_pos kLt]
  rw [contentWord_eq_asciiElf_iff] at header
  simp only [readContent_header headerRuns] at header
  rw [headerBytes 0 (by omega), headerBytes 1 (by omega), headerBytes 2 (by omega),
    headerBytes 3 (by omega)] at header
  refine ⟨inRange, long, header, ?_⟩
  have entryBytes (k : Nat) (kLt : k < 4) := readContent_read (by decide) entryRuns k
  simp only [entryPtwStart, entryCount] at entryBytes
  rw [← entry, firstWord]
  simp only [entryPtwStart]
  rw [entryBytes 0 (by omega), entryBytes 1 (by omega), entryBytes 2 (by omega),
    entryBytes 3 (by omega), if_pos (by omega), if_pos (by omega), if_pos (by omega),
    if_pos (by omega)]
  have first := (fs.mem (fs.byteAddress inode (24 + 0))).toNat_lt
  have second := (fs.mem (fs.byteAddress inode (24 + 1))).toNat_lt
  have third := (fs.mem (fs.byteAddress inode (24 + 2))).toNat_lt
  have fourth := (fs.mem (fs.byteAddress inode (24 + 3))).toNat_lt
  rw [BitVec.toNat_ofNat, Nat.mod_eq_of_lt (by omega)]
  rfl

/-- `execute` goes on to `gen_new_proc_id` with what it allocates for, and otherwise
prints at most or stops at a page fault.  It allocates for programs only exactly when
each named file whose header can be read, and leaves the four bytes in the buffer, has
an inode and at least 28 bytes. -/
theorem allocates_genuine_iff (layout : KernelLayout) (fs : FileSystem)
    (stale : StaleLocals) (kernel : Kernel) (command : Option (List UInt8)) :
    (∀ inode entryPoint, kernel.Allocates layout fs stale command inode entryPoint →
      ∃ printed arg, kernel.execute layout fs stale command =
        (kernel.print printed).startProcess layout fs inode entryPoint arg) ∧
    ((∀ inode entryPoint,
        ¬kernel.Allocates layout fs stale command inode entryPoint) →
      ∃ printed,
        kernel.execute layout fs stale command =
            (kernel.print printed, .returned (-1)) ∨
          kernel.execute layout fs stale command =
            ((kernel.print printed).fault, .pageFault)) ∧
    ((∀ inode entryPoint, kernel.Allocates layout fs stale command inode entryPoint →
        fs.Genuine inode entryPoint) ↔
      ∀ inode, fs.NamesInode stale command inode →
        kernel.HeaderReadable layout fs inode → fs.HeaderSeen stale inode →
        inode < fs.numInodes ∧ 28 ≤ fs.inodeLength inode) := by
  refine ⟨fun inode entryPoint => execute_of_allocates, execute_of_not_allocates, ?_⟩
  constructor
  · intro law inode named readable seen
    obtain ⟨entryPoint, allocates⟩ := allocates_iff.mpr ⟨named, readable, seen⟩
    have genuine := law inode entryPoint allocates
    exact ⟨genuine.inRange, genuine.long⟩
  · intro programs inode entryPoint allocates
    obtain ⟨named, readable, seen⟩ := allocates_iff.mp ⟨entryPoint, allocates⟩
    obtain ⟨inRange, long⟩ := programs inode named readable seen
    exact allocates.genuine inRange long

end Reads

end Kernel

/-- An image with a file that holds nothing but the four bytes. -/
def fourBytesImage : FileSystem :=
  .ofFiles 0x410000 [⟨[0x78], fileTypeFile, 4⟩] [0x7F, 0x45, 0x4C, 0x46]

/-- A file of four bytes is taken for a program. -/
theorem four_bytes_allocate :
    fourBytesImage.inodeLength 0 = 4 ∧
      ∃ entryPoint,
        startedKernel.Allocates lowLayout fourBytesImage .zero (some [0x78]) 0
            entryPoint ∧
          ¬fourBytesImage.Genuine 0 entryPoint := by
  have length : fourBytesImage.inodeLength 0 = 4 := by decide +kernel
  obtain ⟨mappings, represents⟩ := startedKernel_boots.serves.holds.represents
  have named : fourBytesImage.NamesInode .zero (some [0x78]) 0 :=
    ⟨[0x78], _, rfl, by decide +kernel,
      Prod.ext (show (fourBytesImage.readDentryByName
        (parseCommand [0x78]).1.fileNameCommand.read StaleLocals.zero.dentry).1 = 0 by
          decide +kernel) rfl,
      by decide +kernel⟩
  have readable : startedKernel.HeaderReadable lowLayout fourBytesImage 0 := by
    have inPage : ∀ i < fourBytesImage.contentCount 0 0,
        0x400000 ≤ fourBytesImage.byteAddress 0 i ∧
          fourBytesImage.byteAddress 0 i < 0x800000 := by
      decide +kernel
    have noEntry : fourBytesImage.contentCount 0 entryPtwStart = 0 := by decide +kernel
    refine ⟨fun _ => Kernel.mapped_kernelPage represents (by decide +kernel),
      fun i iLt => Kernel.mapped_kernelPage represents (inPage i iLt), fun i iLt => ?_⟩
    rw [noEntry] at iLt
    exact absurd iLt (Nat.not_lt_zero i)
  have seen : fourBytesImage.HeaderSeen .zero 0 := by
    unfold FileSystem.HeaderSeen
    decide +kernel
  obtain ⟨entryPoint, allocates⟩ := Kernel.allocates_iff.mpr ⟨named, readable, seen⟩
  refine ⟨length, entryPoint, allocates, fun genuine => ?_⟩
  have long := genuine.long
  rw [length] at long
  omega

end ChapOS
