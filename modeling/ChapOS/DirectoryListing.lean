import ChapOS.DirectoryNames

/-!
# Listing a directory

A directory descriptor walks over the names in front of the first entry without
one, reports the end, and starts again.  Whatever else happens between the reads,
the position is the number of reads so far, counted round and round.
-/

namespace ChapOS

namespace FileSystem

/-- The index of the first entry without a name, 63 if there is none. -/
def listingLength (fs : FileSystem) : Nat :=
  ((List.range' 0 63).find? fun index => decide (fs.entryName index 0 = 0)).getD 63

/-- The name of an entry, filled up with NULs. -/
def paddedName (fs : FileSystem) (index : Nat) : CString :=
  fun k => if k < (fs.entryCharacters index).length then fs.entryName index k else 0

theorem listingLength_spec (fs : FileSystem) :
    fs.listingLength ≤ 63 ∧
      (∀ index < fs.listingLength, fs.entryName index 0 ≠ 0) ∧
      (fs.listingLength < 63 → fs.entryName fs.listingLength 0 = 0) := by
  unfold listingLength
  cases found : (List.range' 0 63).find? fun index =>
      decide (fs.entryName index 0 = 0) with
  | none =>
      rw [List.find?_eq_none] at found
      refine ⟨Nat.le_refl 63, fun index indexLt unnamed => ?_, fun absurdity => ?_⟩
      · exact found index (List.mem_range'_1.mpr ⟨Nat.zero_le _, by simpa using indexLt⟩)
          (decide_eq_true unnamed)
      · exact absurd absurdity (Nat.lt_irrefl 63)
  | some last =>
      rw [List.find?_range'_eq_some, List.mem_range'_1] at found
      obtain ⟨unnamed, within, lowest⟩ := found
      refine ⟨?_, fun index indexLt => ?_, fun _ => of_decide_eq_true unnamed⟩
      · show last ≤ 63
        omega
      · have named := lowest index (Nat.zero_le _) indexLt
        simpa using named

/-- Up to the end of the listing, lookup by index succeeds in front of the end. -/
theorem entry_iff_of_le (fs : FileSystem) {index : Nat}
    (within : index ≤ fs.listingLength) :
    (index < 63 ∧ fs.entryName index 0 ≠ 0) ↔ index < fs.listingLength := by
  obtain ⟨atMost, named, unnamed⟩ := fs.listingLength_spec
  constructor
  · rintro ⟨indexLt, isNamed⟩
    by_contra atEnd
    obtain rfl : index = fs.listingLength := by omega
    exact isNamed (unnamed indexLt)
  · intro inFront
    exact ⟨by omega, named index inFront⟩

end FileSystem

/-- A directory descriptor in use. -/
structure FileDesc.ListsFrom (desc : FileDesc) (position : Nat) : Prop where
  flags : desc.flags = flagActive
  ops : desc.fopsJmpTbPtr = .dirOpsTbl
  filePos : desc.filePos = position

/-- One `read` of a directory, with what the uninitialised locals hold and the
buffer of the caller. -/
structure DirRead where
  stale : StaleLocals
  woken : Tty
  buf : UserBuffer

namespace Kernel

variable {fs : FileSystem} {kernel start : Kernel} {fd position : Nat}

/-- Read 32 bytes from a directory. -/
def readDirectory (fs : FileSystem) (fd : Nat) (kernel : Kernel) (call : DirRead) :
    Kernel × Int × Option UserBuffer :=
  kernel.read fs call.stale call.woken fd (some call.buf) 32

/-- What can happen to a directory descriptor: it is read, or something else
happens that leaves it alone. -/
def ListingStep (fs : FileSystem) (fd : Nat) (kernel : Kernel) :
    Option DirRead → Kernel → Prop
  | some call, next => next = (kernel.readDirectory fs fd call).1
  | none, next => next.currentPcb.fDescs fd = kernel.currentPcb.fDescs fd

/-- `open` of a directory gives a descriptor at the start. -/
theorem open_listsFrom {name : CString} {stale : StaleLocals} {opened : Kernel} {fd : Int}
    (accepted : kernel.open fs stale (some name) = (opened, fd)) (valid : fd ≠ -1)
    (isDir : (fs.readDentryByName name stale.dentry).2.fileType = fileTypeDir) :
    (opened.currentPcb.fDescs fd.toNat).ListsFrom 0 := by
  unfold «open» at accepted
  dsimp only at accepted
  split at accepted
  · exact absurd (Prod.mk.inj accepted).2.symm valid
  split at accepted
  · exact absurd (Prod.mk.inj accepted).2.symm valid
  split at accepted
  · exact absurd (Prod.mk.inj accepted).2.symm valid
  · rename_i slot free
    obtain ⟨rfl, rfl⟩ := Prod.mk.inj accepted
    rw [setDesc_currentPcb, Int.toNat_natCast, Pcb.setDesc_fDescs_self]
    exact ⟨rfl, rfl, rfl⟩

theorem readDirectory_eq (lists : (kernel.currentPcb.fDescs fd).ListsFrom position)
    (fdLt : fd < 8) (call : DirRead) :
    kernel.readDirectory fs fd call =
      ((kernel.dirRead fs call.stale fd call.buf).1,
        (kernel.dirRead fs call.stale fd call.buf).2.1,
        some (kernel.dirRead fs call.stale fd call.buf).2.2) := by
  have active : (kernel.currentPcb.fDescs (fd : Int).toNat).flags = flagActive := by
    rw [Int.toNat_natCast]
    exact lists.flags
  rw [readDirectory, read_of_active fs call.stale call.woken kernel (by omega)
    (by omega) active]
  simp only [Int.toNat_natCast, lists.ops, readOp]

/-- A read in front of the end of the listing. -/
theorem readDirectory_of_entry
    (lists : (kernel.currentPcb.fDescs fd).ListsFrom position) (fdLt : fd < 8)
    (call : DirRead) (inFront : position < fs.listingLength) :
    kernel.readDirectory fs fd call =
      (kernel.setDesc fd
          { kernel.currentPcb.fDescs fd with filePos := position + 1 },
        32,
        some (call.buf.storeSequence (fun k => k) (fs.paddedName position) 32)) := by
  obtain ⟨indexLt, named⟩ := (fs.entry_iff_of_le (Nat.le_of_lt inFront)).mpr inFront
  have stored : call.buf.storeSequence (fun k => k)
      (strncpy call.stale.dentry.fileName (fs.entryName position) 32) 32 =
        call.buf.storeSequence (fun k => k) (fs.paddedName position) 32 := by
    apply TracedMemory.storeSequence_congr
    intro k kLt
    rw [strncpy_apply, if_pos kLt]
    rfl
  have found := fs.readDentryByIndex_of_entry call.stale.dentry indexLt named
  rw [readDirectory_eq lists fdLt call, dirRead]
  simp only [lists.filePos, found, if_true, fileNameSize, stored]
  rw [Nat.mod_eq_of_lt (by omega)]
  rfl

/-- A read at the end of the listing. -/
theorem readDirectory_of_end
    (lists : (kernel.currentPcb.fDescs fd).ListsFrom position) (fdLt : fd < 8)
    (call : DirRead) (atEnd : position = fs.listingLength) :
    kernel.readDirectory fs fd call =
      (kernel.setDesc fd { kernel.currentPcb.fDescs fd with filePos := 0 }, 0,
        some call.buf) := by
  have noEntry : ¬(position < 63 ∧ fs.entryName position 0 ≠ 0) := by
    rw [fs.entry_iff_of_le (Nat.le_of_eq atEnd)]
    omega
  have found := fs.readDentryByIndex_of_noEntry call.stale.dentry noEntry
  rw [readDirectory_eq lists fdLt call, dirRead]
  simp only [lists.filePos, found]
  rfl

/-- The next position of a listing. -/
theorem mod_succ_listing (n length : Nat) :
    (n + 1) % (length + 1) =
      if n % (length + 1) < length then n % (length + 1) + 1 else 0 := by
  have inRange : n % (length + 1) < length + 1 := Nat.mod_lt n (Nat.succ_pos length)
  rw [← Nat.mod_add_mod]
  split
  · exact Nat.mod_eq_of_lt (by omega)
  · have last : n % (length + 1) = length := by omega
    rw [last, Nat.mod_self]

/-- A read moves the descriptor to the next position and touches nothing else. -/
theorem readDirectory_moves {n : Nat} (fdLt : fd < 8)
    (lists : (kernel.currentPcb.fDescs fd).ListsFrom (n % (fs.listingLength + 1)))
    (call : DirRead) :
    ((kernel.readDirectory fs fd call).1.currentPcb.fDescs fd).ListsFrom
        ((n + 1) % (fs.listingLength + 1)) ∧
      (∀ other, other ≠ fd →
        (kernel.readDirectory fs fd call).1.currentPcb.fDescs other =
          kernel.currentPcb.fDescs other) ∧
      ∀ address, address ≠ kernel.getPcbPtr →
        (kernel.readDirectory fs fd call).1.pcbAt address = kernel.pcbAt address := by
  rw [mod_succ_listing]
  have inRange : n % (fs.listingLength + 1) < fs.listingLength + 1 :=
    Nat.mod_lt n (Nat.succ_pos _)
  by_cases inFront : n % (fs.listingLength + 1) < fs.listingLength
  · rw [readDirectory_of_entry lists fdLt call inFront, if_pos inFront,
      setDesc_currentPcb, Pcb.setDesc_fDescs_self]
    exact ⟨⟨lists.flags, lists.ops, rfl⟩,
      fun other different => Pcb.setDesc_fDescs_of_ne _ _ different,
      fun address different => Function.update_of_ne different _ _⟩
  · rw [readDirectory_of_end lists fdLt call (by omega), if_neg inFront,
      setDesc_currentPcb, Pcb.setDesc_fDescs_self]
    exact ⟨⟨lists.flags, lists.ops, rfl⟩,
      fun other different => Pcb.setDesc_fDescs_of_ne _ _ different,
      fun address different => Function.update_of_ne different _ _⟩

/-- The position of a directory descriptor counts its reads, round and round. -/
theorem listing_position {labels : List (Option DirRead)} (fdLt : fd < 8)
    (run : Run (ListingStep fs fd) start labels kernel) {n : Nat}
    (lists : (start.currentPcb.fDescs fd).ListsFrom (n % (fs.listingLength + 1))) :
    (kernel.currentPcb.fDescs fd).ListsFrom
      ((n + labels.countP Option.isSome) % (fs.listingLength + 1)) := by
  induction run generalizing n with
  | nil state => exact lists
  | @cons first middle last label rest edge _ ih =>
      cases label with
      | none =>
          have same : middle.currentPcb.fDescs fd = first.currentPcb.fDescs fd := edge
          rw [List.countP_cons_of_neg (by decide)]
          exact ih (same ▸ lists)
      | some call =>
          have moved := (readDirectory_moves fdLt lists call).1
          rw [← show middle = _ from edge] at moved
          rw [List.countP_cons_of_pos rfl, Nat.add_comm (rest.countP _), ← Nat.add_assoc]
          exact ih moved

/-- After `n` reads of a directory opened afresh, the next one reports entry
`n % (k + 1)` of `k`, or the end, and changes no other descriptor. -/
theorem directory_listing {labels : List (Option DirRead)} (fdLt : fd < 8)
    (fresh : (start.currentPcb.fDescs fd).ListsFrom 0)
    (run : Run (ListingStep fs fd) start labels kernel) (call : DirRead) :
    let n := labels.countP Option.isSome
    let k := fs.listingLength
    let done := kernel.readDirectory fs fd call
    (n % (k + 1) < k →
      done.2 = (32, some (call.buf.storeSequence (fun index => index)
        (fs.paddedName (n % (k + 1))) 32))) ∧
      (n % (k + 1) = k → done.2 = (0, some call.buf)) ∧
      (∀ other, other ≠ fd →
        done.1.currentPcb.fDescs other = kernel.currentPcb.fDescs other) ∧
      ∀ address, address ≠ kernel.getPcbPtr →
        done.1.pcbAt address = kernel.pcbAt address := by
  intro n k done
  have start : 0 = 0 % (k + 1) := (Nat.zero_mod _).symm
  have lists := listing_position fdLt run (start ▸ fresh)
  rw [Nat.zero_add] at lists
  obtain ⟨-, descs, pcbs⟩ := readDirectory_moves fdLt lists call
  refine ⟨fun inFront => ?_, fun atEnd => ?_, descs, pcbs⟩
  · exact congrArg Prod.snd (readDirectory_of_entry lists fdLt call inFront)
  · exact congrArg Prod.snd (readDirectory_of_end lists fdLt call atEnd)

/-- An image with a directory of two entries. -/
def twoEntriesImage : FileSystem :=
  .ofFiles 0x500000 [⟨[0x2E], fileTypeDir, 0⟩, ⟨[0x61], fileTypeFile, 3⟩] []

/-- The third read of that directory reports the end. -/
theorem directory_listing_end :
    let opened := (Kernel.loaded.open twoEntriesImage .zero (some (literal "."))).1
    let call : DirRead := ⟨.zero, Kernel.loaded.tty, ⟨fun _ => 0, []⟩⟩
    let once := (opened.readDirectory twoEntriesImage 2 call).1
    let twice := (once.readDirectory twoEntriesImage 2 call).1
    (twice.readDirectory twoEntriesImage 2 call).2 = (0, some call.buf) := by
  intro opened call once twice
  have accepted : Kernel.loaded.open twoEntriesImage .zero (some (literal ".")) =
      (opened, 2) :=
    Prod.ext rfl (by decide +kernel)
  have fresh : (opened.currentPcb.fDescs 2).ListsFrom 0 :=
    open_listsFrom accepted (by decide) (by decide +kernel)
  have run : Run (ListingStep twoEntriesImage 2) opened [some call, some call] twice :=
    Run.cons rfl (Run.cons rfl (Run.nil twice))
  exact (directory_listing (show 2 < 8 by decide) fresh run call).2.1 (by decide +kernel)

end Kernel

end ChapOS
