import ChapOS.FileReads

/-!
# The end-of-file law of `read_data`

A read from inside a file should return the number of bytes that are left or
asked for, whichever is smaller, and look up only blocks the file owns.  The copy
loop does so as long as it is stopped by the requested length and not by the end
of the file.
-/

namespace ChapOS

open CountedLoops

/-- An `int32_t` with the bits of an unbounded counter. -/
def int32 (value : Int) : Int :=
  value.bmod (2 ^ 32)

namespace FileSystem

section Blocks

variable {Memory : Type} (fs : FileSystem) (assign : Nat → Nat → Memory → Memory)

/-- The entries of `data_block` that one turn of the copy loop looks up. -/
def turnBlocks (cursor : ReadCursor Memory) : List Nat :=
  if cursor.locCurBlockIndex = dataBlockSize then [cursor.curBlockIndex + 1] else []

/-- The entries of `data_block` that the copy loop looks up, with `remaining`
indices left below `length`. -/
def loopBlocks (inode offset : Nat) : Nat → ReadCursor Memory → List Nat
  | 0, _ => []
  | remaining + 1, cursor =>
      if (cursor.i + offset) % 2 ^ 32 ≤ fs.inodeLength inode then
        turnBlocks cursor ++
          loopBlocks inode offset remaining (fs.readByte assign inode cursor)
      else []

/-- The entries of `data_block` that `read_data` looks up. -/
def readBlocks (inode offset : Nat) (memory : Memory) (length : Nat) : List Nat :=
  if fs.numInodes ≤ inode then []
  else if fs.inodeLength inode ≤ offset then []
  else
    offset / dataBlockSize ::
      fs.loopBlocks assign inode offset length (fs.startCursor inode offset memory)

end Blocks

/-- What `read_data` promises about one call: -1 for an inode that does not exist,
0 at the end of the file, and else exactly the bytes asked for or left, found
through the blocks of the file. -/
structure EndOfFileLaw (fs : FileSystem) (inode offset length : Nat)
    (buf : TracedMemory Nat UInt8) : Prop where
  outOfRange : fs.numInodes ≤ inode →
    int32 (fs.readData fs.assignBuffer inode offset buf length).1 = -1 ∧
      (fs.readData fs.assignBuffer inode offset buf length).2 = buf
  atEnd : inode < fs.numInodes → fs.inodeLength inode ≤ offset →
    int32 (fs.readData fs.assignBuffer inode offset buf length).1 = 0 ∧
      (fs.readData fs.assignBuffer inode offset buf length).2 = buf
  value : inode < fs.numInodes → offset < fs.inodeLength inode →
    int32 (fs.readData fs.assignBuffer inode offset buf length).1 =
      min length (fs.inodeLength inode - offset)
  stored : inode < fs.numInodes → offset < fs.inodeLength inode →
    (fs.readData fs.assignBuffer inode offset buf length).2 =
      buf.storeSequence (fun index => index)
        (fun index => fs.mem (fs.byteAddress inode (offset + index)))
        (min length (fs.inodeLength inode - offset))
  blocks : ∀ index ∈ fs.readBlocks fs.assignBuffer inode offset buf length,
    index < (fs.inodeLength inode + 4095) / 4096
  table : fs.inodeLength inode ≤ 1023 * 4096 →
    ∀ index ∈ fs.readBlocks fs.assignBuffer inode offset buf length, index < 1023

section Within

variable {Memory : Type} {fs : FileSystem} (assign : Nat → Nat → Memory → Memory)
  {inode offset : Nat} {cursor : ReadCursor Memory}

/-- While the positions read stay at or before `length`, the copy loop is stopped
by the requested length only. -/
theorem readLoop_of_within (remaining : Nat) (placed : cursor.At fs inode offset)
    (within : offset + cursor.i + remaining ≤ fs.inodeLength inode + 1) :
    (fs.readLoop assign inode offset remaining cursor).i = cursor.i + remaining ∧
      (fs.readLoop assign inode offset remaining cursor).memory =
        forUpTo remaining
          (fun index => assign (cursor.i + index)
            (fs.byteAddress inode (offset + (cursor.i + index))))
          cursor.memory := by
  have lengthLt := fs.inodeLength_lt inode
  induction remaining generalizing cursor with
  | zero => exact ⟨rfl, rfl⟩
  | succ remaining ih =>
      obtain ⟨nextPlaced, nextI, nextMemory⟩ := readByte_spec fs assign placed
      obtain ⟨lastI, lastMemory⟩ := ih nextPlaced (by rw [nextI]; omega)
      rw [nextI] at lastI lastMemory
      rw [readLoop, if_pos (by rw [Nat.mod_eq_of_lt] <;> omega)]
      refine ⟨by omega, ?_⟩
      rw [lastMemory, nextMemory, forUpTo_front]
      simp only [Nat.add_assoc, Nat.add_comm 1, Nat.add_zero]

/-- While the positions read stay before `length`, each block looked up holds a
position of the file. -/
theorem loopBlocks_lt (remaining : Nat) (placed : cursor.At fs inode offset)
    (within : offset + cursor.i + remaining ≤ fs.inodeLength inode) :
    ∀ index ∈ fs.loopBlocks assign inode offset remaining cursor,
      index < (fs.inodeLength inode + 4095) / 4096 := by
  have lengthLt := fs.inodeLength_lt inode
  induction remaining generalizing cursor with
  | zero => exact fun index mem => (List.not_mem_nil mem).elim
  | succ remaining ih =>
      obtain ⟨nextPlaced, nextI, -⟩ := readByte_spec fs assign placed
      have position := placed.position
      intro index mem
      rw [loopBlocks, if_pos (by rw [Nat.mod_eq_of_lt] <;> omega)] at mem
      rcases List.mem_append.mp mem with now | later
      · unfold turnBlocks at now
        split at now
        · rename_i blockEnd
          simp only [dataBlockSize] at blockEnd
          rw [List.mem_singleton.mp now]
          omega
        · exact (List.not_mem_nil now).elim
      · exact ih nextPlaced (by rw [nextI]; omega) index later

/-- The copy loop takes at least the turns up to the end of the file. -/
theorem readLoop_atLeast (turns remaining : Nat)
    {cursor : ReadCursor (TracedMemory Nat UInt8)}
    (within : offset + cursor.i + turns ≤ fs.inodeLength inode + 1)
    (enough : turns ≤ remaining) :
    cursor.i + turns ≤
      (fs.readLoop fs.assignBuffer inode offset remaining cursor).i := by
  have lengthLt := fs.inodeLength_lt inode
  induction turns generalizing cursor remaining with
  | zero => exact (fs.readLoop_storesOnly inode offset remaining cursor).1
  | succ turns ih =>
      obtain ⟨remaining, rfl⟩ : ∃ rest, remaining = rest + 1 :=
        ⟨remaining - 1, by omega⟩
      have next := (readByte_assigns fs fs.assignBuffer inode cursor).1
      have later := @ih remaining (fs.readByte fs.assignBuffer inode cursor)
        (by rw [next]; omega) (by omega)
      rw [readLoop, if_pos (by rw [Nat.mod_eq_of_lt] <;> omega)]
      rw [next] at later
      omega

theorem startCursor_at (fs : FileSystem) (inode offset : Nat) (memory : Memory) :
    (fs.startCursor inode offset memory).At fs inode offset := by
  refine ⟨rfl, ?_, ?_⟩
  · show offset / 4096 * 4096 + offset % 4096 = offset + 0
    omega
  · show offset % 4096 ≤ 4096
    omega

/-- A read from inside a file that does not count round. -/
theorem readData_eq_of_lt (fs : FileSystem) {inode offset : Nat} (memory : Memory)
    {length : Nat} (inRange : inode < fs.numInodes)
    (inside : offset < fs.inodeLength inode) (small : offset + length < 2 ^ 32) :
    fs.readData assign inode offset memory length =
      ((fs.readCount inode offset length : Int),
        forUpTo (fs.readCount inode offset length)
          (fun index => assign index (fs.byteAddress inode (offset + index)))
          memory) := by
  by_cases lengthLt : fs.inodeLength inode + 1 < 2 ^ 32
  · exact fs.readData_eq assign memory length inRange inside lengthLt
  · have start : (fs.startCursor inode offset memory).i = 0 := rfl
    have count : fs.readCount inode offset length = length := by
      simp only [readCount]
      omega
    obtain ⟨turns, copied⟩ := readLoop_of_within assign length
      (startCursor_at fs inode offset memory) (by rw [start]; omega)
    rw [fs.readData_of_inside assign memory length inRange inside, turns, copied, count]
    simp only [start, Nat.zero_add]
    rfl

end Within

section Law

variable {fs : FileSystem} {inode offset length : Nat}

/-- A read that asks for no more than what is left. -/
theorem readData_of_within (buf : TracedMemory Nat UInt8)
    (inRange : inode < fs.numInodes) (inside : offset < fs.inodeLength inode)
    (within : offset + length ≤ fs.inodeLength inode) :
    fs.readData fs.assignBuffer inode offset buf length =
      ((length : Int),
        buf.storeSequence (fun index => index)
          (fun index => fs.mem (fs.byteAddress inode (offset + index))) length) := by
  obtain ⟨count, copied⟩ := readLoop_of_within fs.assignBuffer length
    (startCursor_at fs inode offset buf)
    (show offset + 0 + length ≤ fs.inodeLength inode + 1 by omega)
  have start : (fs.startCursor inode offset buf).i = 0 := rfl
  rw [fs.readData_of_inside fs.assignBuffer buf length inRange inside, count, copied]
  simp only [start, Nat.zero_add]
  rfl

/-- A read that asks for more than what is left counts too many bytes. -/
theorem readData_of_beyond (buf : TracedMemory Nat UInt8)
    (inRange : inode < fs.numInodes) (inside : offset < fs.inodeLength inode)
    (beyond : fs.inodeLength inode < offset + length) :
    ∃ count : Nat, (fs.readData fs.assignBuffer inode offset buf length).1 = count ∧
      fs.inodeLength inode - offset < count ∧ count ≤ length := by
  have start : (fs.startCursor inode offset buf).i = 0 := rfl
  have enough := @readLoop_atLeast fs inode offset (fs.inodeLength inode - offset + 1)
    length (fs.startCursor inode offset buf) (by rw [start]; omega) (by omega)
  obtain ⟨-, below, -⟩ := fs.readLoop_storesOnly inode offset length
    (fs.startCursor inode offset buf)
  rw [start] at enough below
  refine ⟨_, by rw [fs.readData_of_inside fs.assignBuffer buf length inRange inside],
    ?_, ?_⟩
  · omega
  · omega

/-- The bits of a counter below `2 ^ 32` as an `int32_t`. -/
theorem int32_natCast {count : Nat} (below : count < 2 ^ 32) :
    int32 count = if count < 2 ^ 31 then (count : Int) else (count : Int) - 2 ^ 32 := by
  rw [int32, Int.bmod_def]
  split_ifs <;> omega

/-- `read_data` keeps its promises exactly when it does not read inside a file, or
is asked for no more than what is left, and for less than `2 ^ 31` bytes. -/
theorem readData_endOfFile_iff (fs : FileSystem) (inode offset length : UInt32)
    (buf : TracedMemory Nat UInt8) :
    EndOfFileLaw fs inode.toNat offset.toNat length.toNat buf ↔
      (inode.toNat < fs.numInodes → offset.toNat < fs.inodeLength inode.toNat →
        length.toNat ≤ fs.inodeLength inode.toNat - offset.toNat ∧
          length.toNat < 2 ^ 31) := by
  have lengthLt := length.toNat_lt
  constructor
  · intro law inRange inside
    have value := law.value inRange inside
    by_cases beyond : fs.inodeLength inode.toNat < offset.toNat + length.toNat
    · obtain ⟨count, returned, low, high⟩ :=
        readData_of_beyond buf inRange inside beyond
      rw [returned, int32_natCast (by omega)] at value
      split_ifs at value <;> omega
    · rw [readData_of_within buf inRange inside (by omega),
        int32_natCast (by omega)] at value
      split_ifs at value <;> omega
  · intro within
    have blocks : ∀ index ∈ fs.readBlocks fs.assignBuffer inode.toNat offset.toNat buf
        length.toNat, index < (fs.inodeLength inode.toNat + 4095) / 4096 := by
      intro index mem
      unfold readBlocks at mem
      split at mem
      · exact (List.not_mem_nil mem).elim
      split at mem
      · exact (List.not_mem_nil mem).elim
      · obtain ⟨atMost, -⟩ := within (by omega) (by omega)
        rcases List.mem_cons.mp mem with first | later
        · simp only [dataBlockSize] at first
          omega
        · exact loopBlocks_lt fs.assignBuffer length.toNat
            (startCursor_at fs inode.toNat offset.toNat buf)
            (show offset.toNat + 0 + length.toNat ≤ _ by omega) index later
    refine
      { outOfRange := fun outOfRange => ?_
        atEnd := fun inRange atEnd => ?_
        value := fun inRange inside => ?_
        stored := fun inRange inside => ?_
        blocks := blocks
        table := fun small index mem => ?_ }
    · rw [fs.readData_of_outOfRange fs.assignBuffer _ buf _ outOfRange]
      exact ⟨show int32 (-1) = -1 by decide, rfl⟩
    · rw [fs.readData_of_atEnd fs.assignBuffer buf _ inRange atEnd]
      exact ⟨show int32 0 = 0 by decide, rfl⟩
    · obtain ⟨atMost, small⟩ := within inRange inside
      rw [readData_of_within buf inRange inside (by omega), int32_natCast (by omega),
        if_pos small, Nat.min_eq_left atMost]
    · obtain ⟨atMost, -⟩ := within inRange inside
      rw [readData_of_within buf inRange inside (by omega), Nat.min_eq_left atMost]
    · have := blocks index mem
      omega

/-- An image whose only file fills one block. -/
def oneBlockImage : FileSystem :=
  .ofFiles 0x500000 [⟨[0x61], 2, 4096⟩] [0x78, 0x79, 0x7A]

/-- Asked for two bytes at the last byte of a block, `read_data` returns two and
looks up a second block. -/
theorem readData_passes_last_block :
    (oneBlockImage.readData oneBlockImage.assignBuffer 0 4095 ⟨fun _ => 0, []⟩ 2).1 =
        2 ∧
      1 ∈ oneBlockImage.readBlocks oneBlockImage.assignBuffer 0 4095
        ⟨fun _ => 0, []⟩ 2 ∧
      oneBlockImage.inodeLength 0 = 4096 ∧
      ¬EndOfFileLaw oneBlockImage 0 4095 2 ⟨fun _ => 0, []⟩ := by
  have length : oneBlockImage.inodeLength 0 = 4096 := by decide +kernel
  refine ⟨by decide +kernel, by decide +kernel, length, fun law => ?_⟩
  have owned := law.blocks 1 (by decide +kernel)
  rw [length] at owned
  omega

end Law

end FileSystem

end ChapOS
