import ChapOS.ReadLaw

/-!
# Direct addressing of a file's bytes

The copy loop of `read_data` refreshes its block address one turn after the last byte of
a block.  Every byte it has copied is the one that division and remainder find, and no
index behind the bytes it counts is touched.
-/

namespace ChapOS

namespace FileSystem

/-- The address of the byte at a position of a file: its data block, counted from the
first data block of the image, and the place in this block. -/
def directAddress (fs : FileSystem) (inode position : Nat) : Nat :=
  (fs.fileSysStart + (1 + fs.numInodes) * 4096 +
    fs.dataBlock inode (position / 4096) * 4096 + position % 4096) % 2 ^ 32

theorem byteAddress_eq_directAddress (fs : FileSystem) (inode position : Nat) :
    fs.byteAddress inode position = fs.directAddress inode position := by
  simp only [byteAddress, blockAddress, dataBlockStart, directAddress, dataBlockSize]
  omega

section CopyLoop

variable {fs : FileSystem} {inode offset : Nat}

/-- The loop fills the indices it counts with the bytes at the same distance behind the
offset, and leaves the others as they are. -/
theorem readLoop_addresses (remaining : Nat)
    {cursor : ReadCursor (TracedMemory Nat UInt8)} (placed : cursor.At fs inode offset) :
    let finished := fs.readLoop fs.assignBuffer inode offset remaining cursor
    (∀ index, cursor.i ≤ index → index < finished.i →
      finished.memory.read index =
        fs.mem (fs.directAddress inode (offset + index))) ∧
    ∀ index, index < cursor.i ∨ finished.i ≤ index →
      finished.memory.read index = cursor.memory.read index := by
  induction remaining generalizing cursor with
  | zero =>
      refine ⟨fun index low high => ?_, fun _ _ => rfl⟩
      exact absurd (Nat.lt_of_le_of_lt low high) (Nat.lt_irrefl _)
  | succ remaining ih =>
      rw [readLoop]
      by_cases goesOn : (cursor.i + offset) % 2 ^ 32 ≤ fs.inodeLength inode
      · rw [if_pos goesOn]
        obtain ⟨nextPlaced, nextI, nextMemory⟩ :=
          readByte_spec fs fs.assignBuffer placed
        obtain ⟨inside, outside⟩ := ih nextPlaced
        have grows := (readLoop_storesOnly fs inode offset remaining
          (fs.readByte fs.assignBuffer inode cursor)).1
        rw [nextI] at inside outside grows
        rw [nextMemory] at outside
        constructor
        · intro index low high
          by_cases first : index = cursor.i
          · rw [outside index (Or.inl (by omega)), first, assignBuffer,
              TracedMemory.store_read_self, byteAddress_eq_directAddress]
          · exact inside index (by omega) high
        · intro index apart
          rw [outside index (by omega), assignBuffer]
          apply TracedMemory.store_read_of_ne
          omega
      · rw [if_neg goesOn]
        refine ⟨fun index low high => ?_, fun _ _ => rfl⟩
        exact absurd (Nat.lt_of_le_of_lt low high) (Nat.lt_irrefl _)

end CopyLoop

/-- The number of bytes that a return value of `read_data` counts. -/
def returnedCount (value : Int) : Nat :=
  (int32 value % 2 ^ 32).toNat

theorem returnedCount_natCast {count : Nat} (below : count < 2 ^ 32) :
    returnedCount count = count := by
  rw [returnedCount, int32_natCast below]
  split <;> omega

/-- `read_data` from inside a file: each byte below the returned count is the one at its
position of the file, and `buf` is unchanged from the count on. -/
theorem readData_direct (fs : FileSystem) {inode offset : UInt32} (length : UInt32)
    (buf : TracedMemory Nat UInt8) (inRange : inode.toNat < fs.numInodes)
    (inside : offset.toNat < fs.inodeLength inode.toNat) :
    let done := fs.readData fs.assignBuffer inode.toNat offset.toNat buf length.toNat
    (∀ i < returnedCount done.1,
      done.2.read i = fs.mem (fs.directAddress inode.toNat (offset.toNat + i))) ∧
    ∀ i, returnedCount done.1 ≤ i → done.2.read i = buf.read i := by
  intro done
  have copied : done = _ := fs.readData_of_inside fs.assignBuffer buf length.toNat inRange
    inside
  have below := (fs.readLoop_storesOnly inode.toNat offset.toNat length.toNat
    (fs.startCursor inode.toNat offset.toNat buf)).2.1
  obtain ⟨addressed, kept⟩ := readLoop_addresses length.toNat
    (startCursor_at fs inode.toNat offset.toNat buf)
  have start : (fs.startCursor inode.toNat offset.toNat buf).i = 0 := rfl
  have lengthLt := length.toNat_lt
  rw [start, Nat.zero_add] at below
  rw [copied, returnedCount_natCast (by omega)]
  constructor
  · intro i iLt
    exact addressed i (Nat.zero_le i) iLt
  · intro i beyond
    exact kept i (Or.inr beyond)

/-- An image whose only file fills two blocks. -/
def twoBlockImage : FileSystem :=
  .ofFiles 0x500000 [⟨[0x61], 2, 8192⟩] [0x78, 0x79, 0x7A]

/-- Four bytes from the last two positions of the first block on. -/
theorem readData_direct_crossing :
    let done := twoBlockImage.readData twoBlockImage.assignBuffer (0 : UInt32).toNat
      (4094 : UInt32).toNat ⟨fun _ => 0xFF, []⟩ (4 : UInt32).toNat
    returnedCount done.1 = 4 ∧
      (∀ i < 4, done.2.read i =
        twoBlockImage.mem
          (twoBlockImage.directAddress (0 : UInt32).toNat ((4094 : UInt32).toNat + i))) ∧
      ∀ i, 4 ≤ i → done.2.read i = 0xFF := by
  intro done
  have count : returnedCount done.1 = 4 := by decide +kernel
  have direct := @readData_direct twoBlockImage 0 4094 4 ⟨fun _ => 0xFF, []⟩
    (by decide +kernel) (by decide +kernel)
  rw [← count]
  exact ⟨rfl, direct.1, direct.2⟩

end FileSystem

end ChapOS
