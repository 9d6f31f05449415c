import ChapOS.FileSystem

/-!
# What `read_data` copies

The moving block cursor of the copy loop is resolved into direct addressing,
and the number of bytes copied into a closed form.
-/

namespace ChapOS

open CountedLoops

namespace FileSystem

/-- The address of the byte at a position of a file. -/
def byteAddress (fs : FileSystem) (inode position : Nat) : Nat :=
  (fs.blockAddress inode (position / dataBlockSize) + position % dataBlockSize) %
    2 ^ 32

/-- How many bytes `read_data` copies from inside a file of length below
`2 ^ 32 - 1`: the loop also takes the byte at position `length`. -/
def readCount (fs : FileSystem) (inode offset length : Nat) : Nat :=
  min length (fs.inodeLength inode + 1 - offset)

theorem word_lt (fs : FileSystem) (address : Nat) : fs.word address < 2 ^ 32 := by
  have first := (fs.mem address).toNat_lt
  have second := (fs.mem (address + 1)).toNat_lt
  have third := (fs.mem (address + 2)).toNat_lt
  have fourth := (fs.mem (address + 3)).toNat_lt
  simp only [word]
  omega

theorem inodeLength_lt (fs : FileSystem) (inode : Nat) :
    fs.inodeLength inode < 2 ^ 32 :=
  fs.word_lt _

section ReadData

variable {Memory : Type} (fs : FileSystem) (assign : Nat → Nat → Memory → Memory)

/-- The block cursor stands at position `offset + i` of the file. -/
structure ReadCursor.At (inode offset : Nat) (cursor : ReadCursor Memory) :
    Prop where
  block : cursor.curDataBlock = fs.blockAddress inode cursor.curBlockIndex
  position : cursor.curBlockIndex * 4096 + cursor.locCurBlockIndex =
    offset + cursor.i
  inBlock : cursor.locCurBlockIndex ≤ 4096

/-- One turn of the loop copies the byte at the cursor and advances it. -/
theorem readByte_spec {inode offset : Nat} {cursor : ReadCursor Memory}
    (placed : cursor.At fs inode offset) :
    (fs.readByte assign inode cursor).At fs inode offset ∧
      (fs.readByte assign inode cursor).i = cursor.i + 1 ∧
      (fs.readByte assign inode cursor).memory =
        assign cursor.i (fs.byteAddress inode (offset + cursor.i)) cursor.memory := by
  obtain ⟨block, position, inBlock⟩ := placed
  by_cases atEnd : cursor.locCurBlockIndex = 4096
  · rw [atEnd] at position
    have next : (cursor.curBlockIndex + 1) * 4096 + (0 + 1) =
        offset + (cursor.i + 1) := by omega
    have quotient : (offset + cursor.i) / 4096 = cursor.curBlockIndex + 1 := by
      omega
    have remainder : (offset + cursor.i) % 4096 = 0 := by omega
    simp only [readByte, dataBlockSize, if_pos atEnd, byteAddress, quotient,
      remainder]
    exact ⟨⟨rfl, next, by simp⟩, by simp⟩
  · have quotient : (offset + cursor.i) / 4096 = cursor.curBlockIndex := by
      omega
    have remainder : (offset + cursor.i) % 4096 = cursor.locCurBlockIndex := by
      omega
    have next : cursor.curBlockIndex * 4096 + (cursor.locCurBlockIndex + 1) =
        offset + (cursor.i + 1) := by omega
    have stillIn : cursor.locCurBlockIndex + 1 ≤ 4096 := by omega
    simp only [readByte, dataBlockSize, if_neg atEnd, byteAddress, quotient,
      remainder, block]
    exact ⟨⟨rfl, next, stillIn⟩, by simp⟩

/-- One turn of the loop assigns to the index it stands at, whatever block it
finds. -/
theorem readByte_assigns (inode : Nat) (cursor : ReadCursor Memory) :
    (fs.readByte assign inode cursor).i = cursor.i + 1 ∧
      ∃ source, (fs.readByte assign inode cursor).memory =
        assign cursor.i source cursor.memory := by
  by_cases atEnd : cursor.locCurBlockIndex = dataBlockSize
  · simp only [readByte, if_pos atEnd]
    exact ⟨trivial, _, rfl⟩
  · simp only [readByte, if_neg atEnd]
    exact ⟨trivial, _, rfl⟩

/-- The copy loop assigns to consecutive indices the bytes at consecutive
positions, up to and including position `length` of the file. -/
theorem readLoop_spec {inode offset : Nat} (remaining : Nat) {cursor : ReadCursor Memory}
    (placed : cursor.At fs inode offset)
    (lengthLt : fs.inodeLength inode + 1 < 2 ^ 32)
    (inside : offset + cursor.i ≤ fs.inodeLength inode + 1) :
    (fs.readLoop assign inode offset remaining cursor).i =
        cursor.i + fs.readCount inode (offset + cursor.i) remaining ∧
      (fs.readLoop assign inode offset remaining cursor).memory =
        forUpTo (fs.readCount inode (offset + cursor.i) remaining)
          (fun index => assign (cursor.i + index)
            (fs.byteAddress inode (offset + (cursor.i + index))))
          cursor.memory := by
  induction remaining generalizing cursor with
  | zero => simp [readLoop, readCount]
  | succ remaining ih =>
      rw [readLoop]
      by_cases atEnd : offset + cursor.i = fs.inodeLength inode + 1
      · have none : fs.readCount inode (offset + cursor.i) (remaining + 1) = 0 := by
          simp only [readCount]
          omega
        rw [if_neg (by rw [Nat.mod_eq_of_lt] <;> omega), none]
        simp
      · have one : fs.readCount inode (offset + cursor.i) (remaining + 1) =
            fs.readCount inode (offset + (cursor.i + 1)) remaining + 1 := by
          simp only [readCount]
          omega
        rw [if_pos (by rw [Nat.mod_eq_of_lt] <;> omega), one]
        obtain ⟨nextPlaced, nextI, nextMemory⟩ := readByte_spec fs assign placed
        obtain ⟨lastI, lastMemory⟩ := ih nextPlaced (by rw [nextI]; omega)
        rw [nextI] at lastI lastMemory
        refine ⟨by omega, ?_⟩
        rw [lastMemory, nextMemory, forUpTo_front]
        simp only [Nat.add_assoc, Nat.add_comm 1, Nat.add_zero]

/-- The cursor that `read_data` starts its loop with. -/
def startCursor (inode offset : Nat) (memory : Memory) : ReadCursor Memory where
  i := 0
  curBlockIndex := offset / dataBlockSize
  locCurBlockIndex := offset % dataBlockSize
  curDataBlock := fs.blockAddress inode (offset / dataBlockSize)
  memory := memory

theorem readData_of_inside {inode offset : Nat} (memory : Memory) (length : Nat)
    (inRange : inode < fs.numInodes) (inside : offset < fs.inodeLength inode) :
    fs.readData assign inode offset memory length =
      (((fs.readLoop assign inode offset length
          (fs.startCursor inode offset memory)).i : Int),
        (fs.readLoop assign inode offset length
          (fs.startCursor inode offset memory)).memory) := by
  rw [readData, if_neg (Nat.not_le_of_lt inRange), if_neg (Nat.not_le_of_lt inside)]
  rfl

/-- Reading from inside a file. -/
theorem readData_eq {inode offset : Nat} (memory : Memory) (length : Nat)
    (inRange : inode < fs.numInodes) (inside : offset < fs.inodeLength inode)
    (lengthLt : fs.inodeLength inode + 1 < 2 ^ 32) :
    fs.readData assign inode offset memory length =
      ((fs.readCount inode offset length : Int),
        forUpTo (fs.readCount inode offset length)
          (fun index => assign index (fs.byteAddress inode (offset + index)))
          memory) := by
  have placed : (fs.startCursor inode offset memory).At fs inode offset := by
    refine ⟨rfl, ?_, ?_⟩ <;> simp only [startCursor, dataBlockSize] <;> omega
  obtain ⟨count, copied⟩ := readLoop_spec fs assign length placed
    lengthLt (by simp only [startCursor, Nat.add_zero]; omega)
  simp only [startCursor, Nat.zero_add, Nat.add_zero] at count copied
  rw [fs.readData_of_inside assign memory length inRange inside]
  simp only [startCursor]
  rw [count, copied]

theorem readData_of_outOfRange {inode : Nat} (offset : Nat) (memory : Memory)
    (length : Nat) (outOfRange : fs.numInodes ≤ inode) :
    fs.readData assign inode offset memory length = (-1, memory) := by
  rw [readData, if_pos outOfRange]

theorem readData_of_atEnd {inode offset : Nat} (memory : Memory) (length : Nat)
    (inRange : inode < fs.numInodes) (atEnd : fs.inodeLength inode ≤ offset) :
    fs.readData assign inode offset memory length = (0, memory) := by
  rw [readData, if_neg (by omega), if_pos atEnd]

end ReadData

theorem readDentryByIndex_of_entry (fs : FileSystem) {index : Nat}
    (dentry : Dentry) (entry : index < 63) (named : fs.entryName index 0 ≠ 0) :
    fs.readDentryByIndex index dentry =
      (0,
        { fileName := strncpy dentry.fileName (fs.entryName index) fileNameSize
          fileType := fs.entryType index
          inodeNum := fs.entryInode index }) := by
  rw [readDentryByIndex, if_neg (Nat.not_le_of_lt entry), if_neg named]

theorem readDentryByIndex_of_noEntry (fs : FileSystem) {index : Nat}
    (dentry : Dentry) (noEntry : ¬(index < 63 ∧ fs.entryName index 0 ≠ 0)) :
    fs.readDentryByIndex index dentry = (-1, dentry) := by
  rw [readDentryByIndex]
  by_cases beyond : 63 ≤ index
  · rw [if_pos beyond]
  · have unnamed : fs.entryName index 0 = 0 := by
      by_contra named
      exact noEntry ⟨Nat.lt_of_not_le beyond, named⟩
    rw [if_neg beyond, if_pos unnamed]

/-- Whatever the image holds, the copy loop stores only below `length`. -/
theorem readLoop_storesOnly (fs : FileSystem) (inode offset remaining : Nat)
    (cursor : ReadCursor (TracedMemory Nat UInt8)) :
    let finished := fs.readLoop fs.assignBuffer inode offset remaining cursor
    cursor.i ≤ finished.i ∧ finished.i ≤ cursor.i + remaining ∧
      TracedMemory.StoresOnly { index | index < cursor.i + remaining }
        cursor.memory finished.memory := by
  induction remaining generalizing cursor with
  | zero => exact ⟨Nat.le_refl _, Nat.le_refl _, TracedMemory.StoresOnly.refl _ _⟩
  | succ remaining ih =>
      simp only [readLoop]
      by_cases inside : (cursor.i + offset) % 2 ^ 32 ≤ fs.inodeLength inode
      · rw [if_pos inside]
        obtain ⟨nextI, source, nextMemory⟩ :=
          readByte_assigns fs fs.assignBuffer inode cursor
        obtain ⟨low, high, footprint⟩ :=
          ih (fs.readByte fs.assignBuffer inode cursor)
        rw [nextI] at low high footprint
        rw [nextMemory] at footprint
        have region : cursor.i + 1 + remaining = cursor.i + (remaining + 1) := by
          omega
        rw [region] at high footprint
        refine ⟨by omega, high, ?_⟩
        refine (TracedMemory.store_storesOnly cursor.memory (fs.mem source) ?_).trans
          footprint
        simp only [Set.mem_ofPred_eq]
        omega
      · rw [if_neg inside]
        exact ⟨Nat.le_refl _, by omega, TracedMemory.StoresOnly.refl _ _⟩

/-- `read_data` stores only below `length` and counts at most that much. -/
theorem readData_storesOnly (fs : FileSystem) (inode offset : Nat)
    (buf : TracedMemory Nat UInt8) (length : Nat) :
    let done := fs.readData fs.assignBuffer inode offset buf length
    (done.1 = -1 ∨ 0 ≤ done.1 ∧ done.1 ≤ length) ∧
      TracedMemory.StoresOnly { index | index < length } buf done.2 := by
  intro done
  by_cases outOfRange : fs.numInodes ≤ inode
  · have refused : done = (-1, buf) :=
      fs.readData_of_outOfRange fs.assignBuffer offset buf length outOfRange
    rw [refused]
    exact ⟨Or.inl rfl, TracedMemory.StoresOnly.refl _ _⟩
  by_cases atEnd : fs.inodeLength inode ≤ offset
  · have nothing : done = (0, buf) :=
      fs.readData_of_atEnd fs.assignBuffer buf length (by omega) atEnd
    rw [nothing]
    exact ⟨Or.inr ⟨Int.le_refl 0, by simp⟩, TracedMemory.StoresOnly.refl _ _⟩
  have copied := fs.readData_of_inside fs.assignBuffer buf length (by omega)
    (Nat.lt_of_not_le atEnd)
  obtain ⟨-, below, footprint⟩ := readLoop_storesOnly fs inode offset length
    (fs.startCursor inode offset buf)
  have start : (fs.startCursor inode offset buf).i = 0 := rfl
  rw [start, Nat.zero_add] at below footprint
  rw [show done = _ from copied]
  exact ⟨Or.inr ⟨Int.natCast_nonneg _, Int.ofNat_le.mpr below⟩, footprint⟩

/-- From inside a file and with a positive length, the first byte is stored. -/
theorem readLoop_stores_first (fs : FileSystem) {inode offset : Nat}
    {remaining : Nat} (cursor : ReadCursor (TracedMemory Nat UInt8))
    (positive : 0 < remaining)
    (inside : (cursor.i + offset) % 2 ^ 32 ≤ fs.inodeLength inode) :
    cursor.i ∈
      (fs.readLoop fs.assignBuffer inode offset remaining cursor).memory.stores := by
  obtain ⟨remaining, rfl⟩ : ∃ rest, remaining = rest + 1 := ⟨remaining - 1, by omega⟩
  rw [readLoop, if_pos inside]
  obtain ⟨-, source, nextMemory⟩ := readByte_assigns fs fs.assignBuffer inode cursor
  have footprint := (readLoop_storesOnly fs inode offset remaining
    (fs.readByte fs.assignBuffer inode cursor)).2.2
  apply footprint.mem_stores
  rw [nextMemory]
  exact List.mem_cons_self

/-- The buffer that `read_data` fills from inside a file. -/
theorem forUpTo_assignBuffer (fs : FileSystem) (source : Nat → Nat) (count : Nat)
    (buf : TracedMemory Nat UInt8) :
    forUpTo count (fun index => fs.assignBuffer index (source index)) buf =
      buf.storeSequence (fun index => index) (fun index => fs.mem (source index))
        count :=
  rfl

end FileSystem

end ChapOS
