import ChapOS.FileReads
import ChapOS.SystemCalls

/-!
# Which reads stay inside the caller's buffer

The terminal and the clock respect the count they are given.  A directory read
copies a whole name whatever the count, and a file read turns a negative count
into a large one; the states in which this happens are named here, and shown
to be the only ones in which `read` leaves the buffer.
-/

namespace ChapOS

/-- Every store of a finished read falls below `max(nbytes, 0)`, and the value
returned is -1 or counts at most that many bytes. -/
structure RespectsBuffer (nbytes : Int)
    (done : Kernel × Int × Option UserBuffer) : Prop where
  stores : ∀ buf ∈ done.2.2, ∀ index ∈ buf.stores, (index : Int) < max nbytes 0
  value : done.2.1 = -1 ∨ 0 ≤ done.2.1 ∧ done.2.1 ≤ max nbytes 0

/-- A directory descriptor in front of an entry, read with less than 32 bytes,
or a file descriptor inside its file, read with a negative count. -/
def Overruns (fs : FileSystem) (desc : FileDesc) (nbytes : Int) : Prop :=
  (desc.fopsJmpTbPtr = .dirOpsTbl ∧ desc.filePos < 63 ∧
      fs.entryName desc.filePos 0 ≠ 0 ∧ nbytes < 32) ∨
    (desc.fopsJmpTbPtr = .fileOpsTbl ∧ desc.inode < fs.numInodes ∧
      desc.filePos < fs.inodeLength desc.inode ∧ nbytes < 0)

/-- The copy loop of `keyboard_read` respects the count. -/
theorem copyLine_storesOnly (keys : Nat → UInt8) (nbytes : Int) (remaining i : Nat)
    (buf : UserBuffer) (copied : (i : Int) ≤ max nbytes 0) :
    0 ≤ (copyLine keys nbytes remaining i buf).1 ∧
      (copyLine keys nbytes remaining i buf).1 ≤ max nbytes 0 ∧
      TracedMemory.StoresOnly { index : Nat | (index : Int) < max nbytes 0 } buf
        (copyLine keys nbytes remaining i buf).2 := by
  induction remaining generalizing i buf with
  | zero =>
      exact ⟨Int.le_refl 0, Int.le_max_right nbytes 0,
        TracedMemory.StoresOnly.refl _ _⟩
  | succ remaining ih =>
      rw [copyLine]
      by_cases full : nbytes ≤ (i : Int)
      · rw [if_pos full]
        exact ⟨by omega, copied, TracedMemory.StoresOnly.refl _ _⟩
      · rw [if_neg full]
        have inside : i ∈ { index : Nat | (index : Int) < max nbytes 0 } := by
          simp only [Set.mem_ofPred_eq]
          omega
        have stored := TracedMemory.store_storesOnly buf (keys i) inside
        by_cases ends : keys i = keyNull
        · rw [if_pos ends]
          exact ⟨by omega, copied, stored⟩
        · rw [if_neg ends]
          obtain ⟨low, high, footprint⟩ :=
            ih (i + 1) (buf.store i (keys i)) (by push_cast; omega)
          exact ⟨low, high, stored.trans footprint⟩

namespace Kernel

variable (fs : FileSystem) (stale : StaleLocals) (kernel : Kernel) (fd : Nat)
  (content : CString) {nbytes : Int}

theorem fileRead_result (buf : UserBuffer) (nbytes : Int) :
    (kernel.fileRead fs fd buf nbytes).2 =
      fs.readData fs.assignBuffer (kernel.currentPcb.fDescs fd).inode
        (kernel.currentPcb.fDescs fd).filePos buf (nbytes % 2 ^ 32).toNat :=
  rfl

/-- A file read with a count that is not negative. -/
theorem fileRead_storesOnly (low : 0 ≤ nbytes) (high : nbytes < 2 ^ 31) :
    let done := kernel.fileRead fs fd (freshBuffer content) nbytes
    (done.2.1 = -1 ∨ 0 ≤ done.2.1 ∧ done.2.1 ≤ nbytes) ∧
      TracedMemory.StoresOnly { index : Nat | (index : Int) < nbytes }
        (freshBuffer content) done.2.2 := by
  intro done
  have length : ((nbytes % 2 ^ 32).toNat : Int) = nbytes := by
    rw [Int.emod_eq_of_lt low (by omega)]
    omega
  obtain ⟨value, footprint⟩ := fs.readData_storesOnly
    (kernel.currentPcb.fDescs fd).inode (kernel.currentPcb.fDescs fd).filePos
    (freshBuffer content) (nbytes % 2 ^ 32).toNat
  rw [← fileRead_result fs kernel fd (freshBuffer content) nbytes] at value footprint
  rw [length] at value
  refine ⟨value, footprint.mono ?_⟩
  intro index indexLt
  simp only [Set.mem_ofPred_eq] at indexLt ⊢
  omega

/-- A file read with a negative count stores the first byte. -/
theorem fileRead_overruns (low : -(2 ^ 31) ≤ nbytes) (negative : nbytes < 0)
    (inRange : (kernel.currentPcb.fDescs fd).inode < fs.numInodes)
    (inside : (kernel.currentPcb.fDescs fd).filePos <
      fs.inodeLength (kernel.currentPcb.fDescs fd).inode) :
    0 ∈ (kernel.fileRead fs fd (freshBuffer content) nbytes).2.2.stores := by
  have lengthPos : 0 < (nbytes % 2 ^ 32).toNat := by omega
  have lengthLt := fs.inodeLength_lt (kernel.currentPcb.fDescs fd).inode
  rw [fileRead_result, fs.readData_of_inside fs.assignBuffer _ _ inRange inside]
  apply fs.readLoop_stores_first _ lengthPos
  simp only [FileSystem.startCursor, Nat.zero_add]
  rw [Nat.mod_eq_of_lt (Nat.lt_trans inside lengthLt)]
  exact Nat.le_of_lt inside

/-- A directory read in front of an entry stores all 32 bytes of the name. -/
theorem dirRead_of_entry (entry : (kernel.currentPcb.fDescs fd).filePos < 63)
    (named : fs.entryName (kernel.currentPcb.fDescs fd).filePos 0 ≠ 0) :
    let done := kernel.dirRead fs stale fd (freshBuffer content)
    done.2.1 = 32 ∧ 31 ∈ done.2.2.stores ∧
      TracedMemory.StoresOnly { index | index < 32 } (freshBuffer content)
        done.2.2 := by
  simp only [dirRead, fs.readDentryByIndex_of_entry stale.dentry entry named, if_true]
  refine ⟨rfl, ?_, ?_⟩
  · exact TracedMemory.mem_storeSequence_stores _ (fun index => index) _ (by decide)
  · refine (TracedMemory.storeSequence_storesOnly _ (fun index => index) _ _).mono ?_
    rintro index ⟨source, sourceLt, rfl⟩
    exact sourceLt

/-- A directory read behind the last entry stores nothing. -/
theorem dirRead_of_noEntry
    (noEntry : ¬((kernel.currentPcb.fDescs fd).filePos < 63 ∧
      fs.entryName (kernel.currentPcb.fDescs fd).filePos 0 ≠ 0)) :
    (kernel.dirRead fs stale fd (freshBuffer content)).2 =
      (0, freshBuffer content) := by
  simp only [dirRead, fs.readDentryByIndex_of_noEntry stale.dentry noEntry]
  rfl

end Kernel

/-- What a footprint below the count says about the buffer handed back. -/
private theorem respectsBuffer_of_storesOnly {nbytes value : Int} {kernel : Kernel}
    {content : CString} {buf : UserBuffer}
    (valued : value = -1 ∨ 0 ≤ value ∧ value ≤ max nbytes 0)
    (footprint : TracedMemory.StoresOnly
      { index : Nat | (index : Int) < max nbytes 0 } (freshBuffer content) buf) :
    RespectsBuffer nbytes (kernel, value, some buf) := by
  refine ⟨?_, valued⟩
  intro filled same index stored
  obtain rfl : buf = filled := by simpa using same
  exact footprint.mem_region rfl stored

/-- A read through an operation table stays inside the buffer exactly when the
descriptor is not about to overrun it. -/
theorem readOp_respects_buffer_iff (fs : FileSystem) (stale : StaleLocals)
    (woken : Tty) (kernel : Kernel) (fd : Nat) (content : CString) {nbytes : Int}
    (low : -(2 ^ 31) ≤ nbytes) (high : nbytes < 2 ^ 31)
    {done : Kernel × Int × UserBuffer}
    (finished : kernel.readOp fs stale woken
      (kernel.currentPcb.fDescs fd).fopsJmpTbPtr fd (freshBuffer content) nbytes =
        done) :
    RespectsBuffer nbytes (done.1, done.2.1, some done.2.2) ↔
      ¬Overruns fs (kernel.currentPcb.fDescs fd) nbytes := by
  subst finished
  have untouched (value : Int) (valued : value = -1 ∨ value = 0) (after : Kernel) :
      RespectsBuffer nbytes (after, value, some (freshBuffer content)) :=
    respectsBuffer_of_storesOnly (by omega) (TracedMemory.StoresOnly.refl _ _)
  simp only [Overruns]
  cases ops : (kernel.currentPcb.fDescs fd).fopsJmpTbPtr with
  | rtcOpsTbl => simpa [Kernel.readOp, Devices.rtcRead] using untouched _ (Or.inr rfl) _
  | stdoutOpsTbl => simpa [Kernel.readOp] using untouched _ (Or.inl rfl) _
  | noFileOps => simpa [Kernel.readOp] using untouched _ (Or.inl rfl) _
  | stdinOpsTbl =>
      obtain ⟨valueLow, valueHigh, footprint⟩ :=
        copyLine_storesOnly woken.line nbytes keyboardNumKeys 0
          (freshBuffer content) (by omega)
      simpa [Kernel.readOp, keyboardRead] using
        respectsBuffer_of_storesOnly (Or.inr ⟨valueLow, valueHigh⟩) footprint
  | dirOpsTbl =>
      simp only [Kernel.readOp, true_and, reduceCtorEq, false_and, or_false]
      by_cases atEntry : (kernel.currentPcb.fDescs fd).filePos < 63 ∧
          fs.entryName (kernel.currentPcb.fDescs fd).filePos 0 ≠ 0
      · obtain ⟨value, stored, footprint⟩ := Kernel.dirRead_of_entry fs stale kernel
          fd content atEntry.1 atEntry.2
        constructor
        · intro respects overruns
          have bound := respects.stores _ rfl 31 stored
          omega
        · intro noOverrun
          have wide : 32 ≤ nbytes := by
            by_contra narrow
            exact noOverrun ⟨atEntry.1, atEntry.2, by omega⟩
          refine respectsBuffer_of_storesOnly (Or.inr (by omega)) (footprint.mono ?_)
          intro index indexLt
          simp only [Set.mem_ofPred_eq] at indexLt ⊢
          omega
      · refine iff_of_true ?_ fun overruns => atEntry ⟨overruns.1, overruns.2.1⟩
        rw [Kernel.dirRead_of_noEntry fs stale kernel fd content atEntry]
        exact untouched _ (Or.inr rfl) _
  | fileOpsTbl =>
      simp only [Kernel.readOp, true_and, reduceCtorEq, false_and, false_or]
      by_cases negative : nbytes < 0
      · by_cases inside : (kernel.currentPcb.fDescs fd).inode < fs.numInodes ∧
            (kernel.currentPcb.fDescs fd).filePos <
              fs.inodeLength (kernel.currentPcb.fDescs fd).inode
        · have stored := Kernel.fileRead_overruns fs kernel fd content low negative
            inside.1 inside.2
          refine iff_of_false ?_ (not_not_intro ⟨inside.1, inside.2, negative⟩)
          intro respects
          have bound := respects.stores _ rfl 0 stored
          omega
        · refine iff_of_true ?_ fun overruns => inside ⟨overruns.1, overruns.2.1⟩
          rw [Kernel.fileRead_result]
          by_cases outOfRange :
              fs.numInodes ≤ (kernel.currentPcb.fDescs fd).inode
          · rw [fs.readData_of_outOfRange _ _ _ _ outOfRange]
            exact untouched _ (Or.inl rfl) _
          · rw [fs.readData_of_atEnd _ _ _ (Nat.lt_of_not_le outOfRange) (by omega)]
            exact untouched _ (Or.inr rfl) _
      · obtain ⟨value, footprint⟩ := Kernel.fileRead_storesOnly fs kernel fd content
          (by omega) high
        refine iff_of_true ?_ fun overruns => negative overruns.2.2
        refine respectsBuffer_of_storesOnly (by omega) (footprint.mono ?_)
        intro index indexLt
        simp only [Set.mem_ofPred_eq] at indexLt ⊢
        omega

/-- `read` stays inside the caller's buffer exactly when the descriptor it is
given is not active or not about to overrun the buffer. -/
theorem read_respects_buffer_iff (fs : FileSystem) (stale : StaleLocals)
    (woken : Tty) (kernel : Kernel) (fd : Int) (content : CString) (nbytes : Int)
    (low : -(2 ^ 31) ≤ nbytes) (high : nbytes < 2 ^ 31) :
    RespectsBuffer nbytes
        (kernel.read fs stale woken fd (some (freshBuffer content)) nbytes) ↔
      ¬(0 ≤ fd ∧ fd < 8 ∧
        (kernel.currentPcb.fDescs fd.toNat).flags = flagActive ∧
        Overruns fs (kernel.currentPcb.fDescs fd.toNat) nbytes) := by
  have refused : RespectsBuffer nbytes (kernel, -1, some (freshBuffer content)) :=
    respectsBuffer_of_storesOnly (Or.inl rfl) (TracedMemory.StoresOnly.refl _ _)
  simp only [Kernel.read, maxOpenFile]
  by_cases outside : (8 : Int) ≤ fd ∨ fd < 0
  · rw [if_pos (by exact_mod_cast outside)]
    exact iff_of_true refused (by omega)
  rw [if_neg (by exact_mod_cast outside)]
  by_cases inactive : (kernel.currentPcb.fDescs fd.toNat).flags ≠ flagActive
  · rw [if_pos inactive]
    exact iff_of_true refused fun active => inactive active.2.2.1
  rw [if_neg inactive, readOp_respects_buffer_iff fs stale woken kernel fd.toNat
    content low high rfl]
  have active : (kernel.currentPcb.fDescs fd.toNat).flags = flagActive :=
    not_not.mp inactive
  have inTable : 0 ≤ fd ∧ fd < 8 := by omega
  simp only [inTable, active, true_and]

/-- The image of a directory that lists itself. -/
def selfImage : FileSystem :=
  .ofFiles 0x500000 [⟨[0x2E], fileTypeDir, 0⟩] []

/-- The kernel after the directory has been opened. -/
def selfKernel : Kernel :=
  (Kernel.loaded.open selfImage .zero
    (some (cString [0x2E]))).1

/-- A directory read of 32 bytes stays inside its buffer. -/
theorem read_respects_buffer_of_name :
    RespectsBuffer 32
      (selfKernel.read selfImage .zero
        Kernel.loaded.tty 2 (some (freshBuffer fun _ => 0)) 32) :=
  (read_respects_buffer_iff selfImage _ Kernel.loaded.tty selfKernel 2 _ 32
    (by decide) (by decide)).mpr (by simp [Overruns])

/-- A directory read of one byte returns 32. -/
theorem read_overruns_buffer :
    ¬RespectsBuffer 1
      (selfKernel.read selfImage .zero
        Kernel.loaded.tty 2 (some (freshBuffer fun _ => 0)) 1) := by
  intro respects
  have value := respects.value
  revert value
  decide +kernel

end ChapOS
