import ChapOS.DescriptorTable
import ChapOS.KernelFrames

/-!
# How `execute` ends

`execute` refuses a command, stops at a page fault while it reads the header,
stops at a page fault while it loads the program, or enters the program.  The
cases are listed once, and a program that fits its image page is shown to be
entered.
-/

namespace ChapOS

open CountedLoops

namespace Copied

variable {Memory : Type} {assign : Nat → Nat → Memory → Option Memory}

/-- A copy whose assignments all succeed does not fault. -/
theorem forUpTo_of_mapped {count : Nat} {source : Nat → Nat} (memory : Memory)
    (mapped : ∀ i < count, ∀ current, (assign i (source i) current).isSome = true) :
    (forUpTo count (fun i => Copied.assign assign i (source i))
      ⟨memory, false⟩).faulted = false := by
  apply forUpTo_invariant fun _ (copied : Copied Memory) => copied.faulted = false
  · rfl
  · intro i iLt copied running
    obtain ⟨next, assigned⟩ := Option.isSome_iff_exists.mp (mapped i iLt copied.memory)
    simp [Copied.assign, running, assigned]

/-- A copy with an assignment that cannot succeed faults. -/
theorem forUpTo_of_unmapped {count i : Nat} {source : Nat → Nat}
    (copied : Copied Memory) (iLt : i < count)
    (unmapped : ∀ current, assign i (source i) current = none) :
    (forUpTo count (fun i => Copied.assign assign i (source i)) copied).faulted =
      true := by
  induction count with
  | zero => omega
  | succ count ih =>
      rw [forUpTo_succ]
      by_cases last : i = count
      · subst last
        unfold Copied.assign
        split
        · assumption
        · rw [unmapped]
      · have faulted := ih (by omega)
        simp [Copied.assign, faulted]

/-- A loop of assignments stops at the first that faults, after those before it. -/
theorem forUpTo_reached {body : Nat → Copied Memory → Copied Memory}
    {step : Nat → Memory → Memory} {allowed : Nat → Bool} {count : Nat}
    (runs : ∀ i < count, ∀ memory, body i ⟨memory, false⟩ =
      if allowed i then ⟨step i memory, false⟩ else ⟨memory, true⟩)
    (stays : ∀ i < count, ∀ memory, body i ⟨memory, true⟩ = ⟨memory, true⟩)
    (memory : Memory) :
    forUpTo count body ⟨memory, false⟩ =
      ⟨forUpTo (reached allowed count) step memory,
        decide (reached allowed count < count)⟩ := by
  induction count with
  | zero => rfl
  | succ count ih =>
      have before := ih (fun i iLt => runs i (by omega)) (fun i iLt => stays i (by omega))
      have le := reached_le allowed count
      rw [forUpTo_succ, before, reached]
      by_cases all : reached allowed count = count
      · rw [all, decide_eq_false (Nat.lt_irrefl count), runs count (by omega)]
        by_cases allow : allowed count = true
        · rw [if_pos allow, if_pos ⟨rfl, allow⟩, forUpTo_succ,
            decide_eq_false (Nat.lt_irrefl _)]
        · rw [if_neg allow, if_neg fun both => allow both.2,
            decide_eq_true (Nat.lt_succ_self count)]
      · rw [decide_eq_true (show reached allowed count < count by omega),
          stays count (by omega), if_neg fun both => all both.1,
          decide_eq_true (show reached allowed count < count + 1 by omega)]

/-- What each assignment preserves, a checked assignment preserves. -/
theorem assign_preserves {holds : Memory → Prop} {i source : Nat}
    {copied : Copied Memory}
    (preserves : ∀ next, assign i source copied.memory = some next →
      holds copied.memory → holds next)
    (before : holds copied.memory) :
    holds (Copied.assign assign i source copied).memory := by
  unfold Copied.assign
  split
  · exact before
  · split
    · exact before
    · exact preserves _ (by assumption) before

end Copied

namespace FileSystem

section ReadMapped

variable {Memory : Type} (fs : FileSystem)

/-- What every assignment of the copy loop preserves, `read_data` preserves. -/
theorem readData_invariant {assign : Nat → Nat → Memory → Memory}
    (holds : Memory → Prop) (inode offset : Nat) {memory : Memory} {length : Nat}
    (preserves : ∀ i < length, ∀ source current,
      holds current → holds (assign i source current))
    (start : holds memory) : holds (fs.readData assign inode offset memory length).2 := by
  have loop (remaining : Nat) (cursor : ReadCursor Memory)
      (below : cursor.i + remaining ≤ length) (before : holds cursor.memory) :
      holds (fs.readLoop assign inode offset remaining cursor).memory := by
    induction remaining generalizing cursor with
    | zero => exact before
    | succ remaining ih =>
        rw [readLoop]
        split
        · obtain ⟨nextI, source, nextMemory⟩ := readByte_assigns fs assign inode cursor
          apply ih
          · omega
          · rw [nextMemory]
            exact preserves _ (by omega) _ _ before
        · exact before
  by_cases outOfRange : fs.numInodes ≤ inode
  · rw [fs.readData_of_outOfRange assign offset memory length outOfRange]
    exact start
  by_cases atEnd : fs.inodeLength inode ≤ offset
  · rw [fs.readData_of_atEnd assign memory length (by omega) atEnd]
    exact start
  · rw [fs.readData_of_inside assign memory length (by omega) (by omega)]
    exact loop length _ (by simp [startCursor]) start

/-- The checked copy loop moves like the unchecked one, and copies the same as
long as it has not faulted. -/
structure ReadCursor.Follows (checked : ReadCursor (Copied Memory))
    (plain : ReadCursor Memory) : Prop where
  i : checked.i = plain.i
  curBlockIndex : checked.curBlockIndex = plain.curBlockIndex
  locCurBlockIndex : checked.locCurBlockIndex = plain.locCurBlockIndex
  curDataBlock : checked.curDataBlock = plain.curDataBlock
  memory : checked.memory.faulted = false → checked.memory.memory = plain.memory

variable {checkedAssign : Nat → Nat → Memory → Option Memory}
  {assign : Nat → Nat → Memory → Memory}
  (agrees : ∀ i source current next,
    checkedAssign i source current = some next → next = assign i source current)

include agrees

private theorem assign_follows {checked : Copied Memory} {plain : Memory}
    (follows : checked.faulted = false → checked.memory = plain) (i source : Nat) :
    (Copied.assign checkedAssign i source checked).faulted = false →
      (Copied.assign checkedAssign i source checked).memory =
        assign i source plain := by
  unfold Copied.assign
  cases running : checked.faulted with
  | true => simp [running]
  | false =>
      simp only [Bool.false_eq_true, if_false]
      cases assigned : checkedAssign i source checked.memory with
      | none => simp
      | some next =>
          intro _
          rw [← follows running]
          exact agrees i source _ _ assigned

private theorem readByte_follows {inode : Nat} {checked : ReadCursor (Copied Memory)}
    {plain : ReadCursor Memory} (follows : checked.Follows plain) :
    (fs.readByte (Copied.assign checkedAssign) inode checked).Follows
      (fs.readByte assign inode plain) := by
  obtain ⟨i, curBlockIndex, locCurBlockIndex, curDataBlock, memory⟩ := follows
  by_cases atEnd : plain.locCurBlockIndex = dataBlockSize
  · have atEndChecked := locCurBlockIndex.trans atEnd
    simp only [readByte, if_pos atEnd, if_pos atEndChecked]
    refine ⟨?_, ?_, rfl, ?_, ?_⟩
    · simp only [i]
    · simp only [curBlockIndex]
    · simp only [curBlockIndex]
    · simp only [curBlockIndex, i]
      exact assign_follows agrees memory _ _
  · have insideChecked : ¬checked.locCurBlockIndex = dataBlockSize :=
      locCurBlockIndex ▸ atEnd
    simp only [readByte, if_neg atEnd, if_neg insideChecked]
    refine ⟨?_, curBlockIndex, ?_, curDataBlock, ?_⟩
    · simp only [i]
    · simp only [locCurBlockIndex]
    · simp only [curDataBlock, locCurBlockIndex, i]
      exact assign_follows agrees memory _ _

private theorem readLoop_follows {inode offset : Nat} (remaining : Nat)
    {checked : ReadCursor (Copied Memory)} {plain : ReadCursor Memory}
    (follows : checked.Follows plain) :
    (fs.readLoop (Copied.assign checkedAssign) inode offset remaining checked).Follows
      (fs.readLoop assign inode offset remaining plain) := by
  induction remaining generalizing checked plain with
  | zero => exact follows
  | succ remaining ih =>
      rw [readLoop, readLoop, follows.i]
      split
      · exact ih (readByte_follows fs agrees follows)
      · exact follows

/-- A checked read that does not fault reads what an unchecked one reads. -/
theorem readMapped_memory {mapped : Nat → Bool} {inode offset length : Nat}
    {memory : Memory}
    (running : (fs.readMapped mapped checkedAssign inode offset memory
      length).faulted = false) :
    (fs.readMapped mapped checkedAssign inode offset memory length).memory =
      (fs.readData assign inode offset memory length).2 := by
  unfold readMapped at running ⊢
  by_cases unmapped : inode < fs.numInodes ∧ mapped (fs.inodePtr inode) = false
  · rw [if_pos unmapped] at running
    exact (Bool.noConfusion running)
  rw [if_neg unmapped] at running ⊢
  by_cases outOfRange : fs.numInodes ≤ inode
  · rw [fs.readData_of_outOfRange _ offset _ length outOfRange,
      fs.readData_of_outOfRange _ offset _ length outOfRange]
  by_cases atEnd : fs.inodeLength inode ≤ offset
  · rw [fs.readData_of_atEnd _ _ length (by omega) atEnd,
      fs.readData_of_atEnd _ _ length (by omega) atEnd]
  · rw [fs.readData_of_inside _ _ length (by omega) (by omega)] at running ⊢
    rw [fs.readData_of_inside _ _ length (by omega) (by omega)]
    exact (readLoop_follows fs agrees length ⟨rfl, rfl, rfl, rfl, fun _ => rfl⟩).memory
      running

end ReadMapped

/-- A read inside a file whose inode is mapped is one loop of checked
assignments. -/
theorem readMapped_of_inside {Memory : Type} (fs : FileSystem) {mapped : Nat → Bool}
    (assign : Nat → Nat → Memory → Option Memory) {inode offset : Nat}
    (memory : Memory) (length : Nat) (inRange : inode < fs.numInodes)
    (inodeMapped : mapped (fs.inodePtr inode) = true)
    (inside : offset < fs.inodeLength inode)
    (lengthLt : fs.inodeLength inode + 1 < 2 ^ 32) :
    fs.readMapped mapped assign inode offset memory length =
      forUpTo (fs.readCount inode offset length)
        (fun i => Copied.assign assign i (fs.byteAddress inode (offset + i)))
        ⟨memory, false⟩ := by
  rw [readMapped, if_neg (by simp [inodeMapped]),
    fs.readData_eq _ _ length inRange inside lengthLt]

end FileSystem

namespace Kernel

/-- One more byte is shifted in. -/
theorem shiftIn_toNat (content : BitVec 32) (byte : UInt8)
    (small : content.toNat < 2 ^ 24) :
    (content <<< 8 ||| BitVec.ofNat 32 byte.toNat).toNat =
      content.toNat * 256 + byte.toNat := by
  have byteLt := byte.toNat_lt
  rw [BitVec.toNat_or, BitVec.toNat_shiftLeft, BitVec.toNat_ofNat,
    Nat.mod_eq_of_lt (show byte.toNat < 2 ^ 32 by omega), Nat.shiftLeft_eq,
    Nat.mod_eq_of_lt (show content.toNat * 2 ^ 8 < 2 ^ 32 by omega),
    ← Nat.shiftLeft_eq, ← Nat.shiftLeft_add_eq_or_of_lt byteLt, Nat.shiftLeft_eq]

/-- The word is that of the four bytes, most significant first. -/
theorem contentWord_eq (buf : Nat → UInt8) :
    contentWord buf =
      0x1000000 * (buf 0).toNat + 0x10000 * (buf 1).toNat + 0x100 * (buf 2).toNat +
        (buf 3).toNat := by
  have bounds (i : Nat) := (buf i).toNat_lt
  have first : ((0 : BitVec 32) ||| BitVec.ofNat 32 (buf 0).toNat).toNat =
      (buf 0).toNat := by
    rw [show (0 : BitVec 32) ||| BitVec.ofNat 32 (buf 0).toNat = _ from BitVec.zero_or,
      BitVec.toNat_ofNat, Nat.mod_eq_of_lt (by have := bounds 0; omega)]
  have second := shiftIn_toNat ((0 : BitVec 32) ||| BitVec.ofNat 32 (buf 0).toNat) (buf 1)
    (by have := bounds 0; omega)
  have third := shiftIn_toNat _ (buf 2)
    (by rw [second]; have := bounds 0; have := bounds 1; omega)
  have fourth := shiftIn_toNat _ (buf 3)
    (by rw [third, second]; have := bounds 0; have := bounds 1; have := bounds 2; omega)
  rw [third, second, first] at fourth
  have unfolded : contentWord buf = _ := fourth
  rw [unfolded]
  omega

/-- Only the four bytes matter. -/
theorem contentWord_congr {buf other : Nat → UInt8} (same : ∀ i < 4, buf i = other i) :
    contentWord buf = contentWord other := by
  rw [contentWord_eq, contentWord_eq, same 0 (by omega), same 1 (by omega),
    same 2 (by omega), same 3 (by omega)]

end Kernel

/-- The command names a file with this inode number that passes the check of the
first four bytes. -/
structure FileSystem.IsProgram (fs : FileSystem) (stale : StaleLocals)
    (command : Option (List UInt8)) (inode : Nat) : Prop where
  named : ∃ bytes entry, command = some bytes ∧
    fs.readDentryByName (parseCommand bytes).1.fileNameCommand.read stale.dentry =
      (0, entry) ∧ entry.inodeNum = inode
  header : Kernel.contentWord
    (fs.readData fs.assignBuffer inode 0 (freshBuffer stale.contentBuf)
      minReadElfSize).2.read = asciiElf

namespace Kernel

/-- The kernel after `gen_new_proc_id` has found a slot and its image page is
mapped. -/
def claimProcess (kernel : Kernel) (id : Nat) : Kernel :=
  (kernel.setProcIdFlag id 1).setPaging (kernel.paging.mapUserImgPage id).1

/-- The memory after the program of an inode has been loaded for a process. -/
def loadFor (layout : KernelLayout) (fs : FileSystem) (kernel : Kernel)
    (id inode : Nat) : Copied PhysicalMemory :=
  (kernel.claimProcess id).loadProgram layout fs inode

/-- The ways in which `execute` ends. -/
inductive ExecuteCases (layout : KernelLayout) (fs : FileSystem)
    (stale : StaleLocals) (kernel : Kernel) (command : Option (List UInt8)) :
    Kernel × Outcome → Prop
  | refused (bytes : List UInt8) :
      ExecuteCases layout fs stale kernel command
        (kernel.print bytes, .returned (-1))
  | headerFault (bytes : List UInt8) :
      ExecuteCases layout fs stale kernel command
        ((kernel.print bytes).fault, .pageFault)
  | loadFault (bytes : List UInt8) (inode id : Nat)
      (program : fs.IsProgram stale command inode)
      (free : freeProcIdFrom kernel.procIdFlags maxProcesses 0 = some id)
      (faulted : ((kernel.print bytes).loadFor layout fs id inode).faulted = true) :
      ExecuteCases layout fs stale kernel command
        ((((kernel.print bytes).claimProcess id).setMem
          ((kernel.print bytes).loadFor layout fs id inode).memory).fault, .pageFault)
  | started (bytes : List UInt8) (inode id entryPoint : Nat) (arg : CString)
      (program : fs.IsProgram stale command inode)
      (free : freeProcIdFrom kernel.procIdFlags maxProcesses 0 = some id)
      (loaded : ((kernel.print bytes).loadFor layout fs id inode).faulted = false) :
      ExecuteCases layout fs stale kernel command
        ((((kernel.print bytes).claimProcess id).setMem
          ((kernel.print bytes).loadFor layout fs id inode).memory).enterProgram id arg,
          .running entryPoint)

theorem print_print (kernel : Kernel) (first second : List UInt8) :
    (kernel.print first).print second = kernel.print (first ++ second) := by
  simp [print, setConsole, setTty, Console.putAll]

theorem printfPlain_eq (kernel : Kernel) (format : String) :
    kernel.printfPlain format =
      kernel.print (format.toList.map fun c => UInt8.ofNat c.toNat) :=
  rfl

theorem genNewProcId_of_none {kernel : Kernel}
    (full : freeProcIdFrom kernel.procIdFlags maxProcesses 0 = none) :
    kernel.genNewProcId = (kernel, -1) := by
  rw [genNewProcId, full]

theorem genNewProcId_of_some {kernel : Kernel} {id : Nat}
    (free : freeProcIdFrom kernel.procIdFlags maxProcesses 0 = some id) :
    kernel.genNewProcId = (kernel.setProcIdFlag id 1, (id : Int)) := by
  rw [genNewProcId, free]

theorem startProcess_of_full (layout : KernelLayout) (fs : FileSystem)
    {kernel : Kernel} (inode entryPoint : Nat) (arg : CString)
    (full : freeProcIdFrom kernel.procIdFlags maxProcesses 0 = none) :
    kernel.startProcess layout fs inode entryPoint arg =
      (kernel.printfPlain "Too many processes\n", .returned (-1)) := by
  rw [startProcess, genNewProcId_of_none full]
  rfl

theorem startProcess_of_free (layout : KernelLayout) (fs : FileSystem)
    {kernel : Kernel} (inode entryPoint : Nat) (arg : CString) {id : Nat}
    (free : freeProcIdFrom kernel.procIdFlags maxProcesses 0 = some id) :
    kernel.startProcess layout fs inode entryPoint arg =
      let loaded := kernel.loadFor layout fs id inode
      let filled := (kernel.claimProcess id).setMem loaded.memory
      if loaded.faulted then (filled.fault, .pageFault)
      else (filled.enterProgram id arg, .running entryPoint) := by
  rw [startProcess, genNewProcId_of_some free]
  have notFailed : ¬(id : Int) = -1 := by omega
  simp only [if_neg notFailed, Int.toNat_natCast]
  rfl

/-- What a checked assignment to a local array assigns. -/
theorem assignLocal_eq {layout : KernelLayout} {fs : FileSystem} {kernel : Kernel}
    (i source : Nat) (current next : TracedMemory Nat UInt8)
    (assigned : kernel.assignLocal layout fs i source current = some next) :
    next = fs.assignBuffer i source current := by
  unfold assignLocal at assigned
  split at assigned
  · exact (Option.some.inj assigned).symm
  · exact absurd assigned (by simp)

/-- The header check on a file that is found. -/
theorem executeFile_cases (layout : KernelLayout) (fs : FileSystem)
    (stale : StaleLocals) (kernel : Kernel) (arg : CString) {bytes : List UInt8}
    {command : Option (List UInt8)} {inode : Nat}
    (named : ∃ bytes entry, command = some bytes ∧
      fs.readDentryByName (parseCommand bytes).1.fileNameCommand.read stale.dentry =
        (0, entry) ∧ entry.inodeNum = inode) :
    ExecuteCases layout fs stale kernel command
      ((kernel.print bytes).executeFile layout fs stale inode arg) := by
  unfold executeFile
  dsimp only
  split
  · exact .headerFault bytes
  rename_i running
  split
  · rw [printfPlain_eq, print_print]
    exact .refused _
  rename_i matching
  split
  · exact .headerFault bytes
  have header : contentWord (fs.readData fs.assignBuffer inode 0
      (freshBuffer stale.contentBuf) minReadElfSize).2.read = asciiElf := by
    have same := fs.readMapped_memory assignLocal_eq (Bool.eq_false_of_not_eq_true running)
    rw [readContent, same] at matching
    exact not_not.mp matching
  cases free : freeProcIdFrom (kernel.print bytes).procIdFlags maxProcesses 0 with
  | none =>
      rw [startProcess_of_full layout fs _ _ _ free, printfPlain_eq, print_print]
      exact .refused _
  | some id =>
      rw [startProcess_of_free layout fs _ _ _ free]
      cases faulted : ((kernel.print bytes).loadFor layout fs id inode).faulted with
      | true =>
          simp only [faulted, if_true]
          exact .loadFault bytes inode id ⟨named, header⟩ free faulted
      | false =>
          simp only [faulted, Bool.false_eq_true, if_false]
          exact .started bytes inode id _ arg ⟨named, header⟩ free faulted

/-- What `execute` has printed when it looks for the file. -/
theorem exists_reported (kernel : Kernel) (bytes : List UInt8) :
    ∃ printed, (if (parseCommand bytes).2 = .argSpace then
      kernel.printfPlain "See arg Space\n" else kernel) = kernel.print printed := by
  split
  · exact ⟨_, kernel.printfPlain_eq _⟩
  · exact ⟨[], rfl⟩

theorem execute_cases (layout : KernelLayout) (fs : FileSystem) (stale : StaleLocals)
    (kernel : Kernel) (command : Option (List UInt8)) :
    ExecuteCases layout fs stale kernel command
      (kernel.execute layout fs stale command) := by
  cases command with
  | none => exact .refused []
  | some bytes =>
      obtain ⟨printed, isPrinted⟩ := kernel.exists_reported bytes
      simp only [execute, isPrinted]
      split
      · exact .refused []
      split
      · exact .refused printed
      · rename_i found
        exact executeFile_cases layout fs stale kernel _
          ⟨bytes, _, rfl, Prod.ext (not_not.mp found) rfl, rfl⟩

/-- Every address that the loader touches is mapped, once the image page of the
new process is. -/
def Loads (layout : KernelLayout) (fs : FileSystem) (kernel : Kernel) (inode : Nat) :
    Prop :=
  let claimed := kernel.setPaging (kernel.paging.mapUserImgPage 0).1
  claimed.mapped layout (fs.inodePtr inode) = true ∧
    (inode < fs.numInodes → ∀ i < fs.getFileSize inode,
      claimed.mapped layout ((progImageVaddr + i) % 2 ^ 32) = true ∧
        claimed.mapped layout (fs.byteAddress inode i) = true)

section Mapped

variable {layout : KernelLayout} {kernel : Kernel} {mappings : Mappings}

theorem mapped_eq (represents : kernel.paging.Represents layout mappings)
    {linear : Nat} (linearLt : linear < 2 ^ 32) :
    kernel.mapped layout linear = (mappings.translate linear).isSome := by
  rw [mapped, represents.walk_eq linearLt]

theorem claimProcess_represents (represents : kernel.paging.Represents layout mappings)
    {id : Nat} (idLe : id ≤ 6) :
    (kernel.claimProcess id).paging.Represents layout
      { mappings with image := some id } := by
  have called := represents.call (.mapUserImgPage id)
  rwa [Mappings.call, if_pos (by omega)] at called

/-- No state maps the address behind the page of the terminals. -/
theorem not_mapped_above (represents : kernel.paging.Represents layout mappings) :
    kernel.mapped layout 0x08402000 = false := by
  rw [mapped_eq represents (by decide)]
  rfl

/-- A load that touches mapped addresses only does not fault. -/
theorem loadProgram_of_mapped (fs : FileSystem) {inode : Nat}
    (represents : kernel.paging.Represents layout mappings)
    (inodeMapped : kernel.mapped layout (fs.inodePtr inode) = true)
    (bytesMapped : inode < fs.numInodes → ∀ i < fs.getFileSize inode,
      kernel.mapped layout ((progImageVaddr + i) % 2 ^ 32) = true ∧
        kernel.mapped layout (fs.byteAddress inode i) = true) :
    (kernel.loadProgram layout fs inode).faulted = false := by
  rw [loadProgram, if_pos inodeMapped]
  by_cases outOfRange : fs.numInodes ≤ inode
  · rw [FileSystem.readMapped, if_neg (by omega),
      fs.readData_of_outOfRange _ 0 _ _ outOfRange]
  by_cases isEmpty : fs.inodeLength inode ≤ 0
  · rw [FileSystem.readMapped, if_neg (by simp [inodeMapped]),
      fs.readData_of_atEnd _ _ _ (by omega) isEmpty]
  have inside := bytesMapped (by omega)
  have fits : fs.inodeLength inode ≤ 0x3BA000 := by
    by_contra large
    have above := (inside 0x3BA000 (by simp only [FileSystem.getFileSize]; omega)).1
    rw [show (progImageVaddr + 0x3BA000) % 2 ^ 32 = 0x08402000 by decide,
      not_mapped_above represents] at above
    exact Bool.noConfusion above
  rw [fs.readMapped_of_inside _ _ _ (by omega) inodeMapped (by omega) (by omega)]
  apply Copied.forUpTo_of_mapped
  intro i iLt current
  have below : i < fs.getFileSize inode := by
    simp only [FileSystem.readCount, FileSystem.getFileSize] at iLt ⊢
    omega
  obtain ⟨destination, source⟩ := inside i below
  rw [Nat.zero_add, assignLinear, if_pos source, Option.isSome_map]
  exact destination

/-- `Loads` carries over to a later state that has kept its mappings. -/
theorem loadFor_of_loads (fs : FileSystem) {before : Kernel} {earlier : Mappings}
    {inode id : Nat} (loads : before.Loads layout fs inode)
    (representsBefore : before.paging.Represents layout earlier)
    (represents : kernel.paging.Represents layout mappings)
    (covers : earlier.Covers mappings) (idLe : id ≤ 6) :
    (kernel.loadFor layout fs id inode).faulted = false := by
  have claimedBefore := claimProcess_represents representsBefore (show 0 ≤ 6 by omega)
  have claimed := claimProcess_represents represents idLe
  have carries {linear : Nat} (linearLt : linear < 2 ^ 32)
      (mappedBefore : (before.setPaging (before.paging.mapUserImgPage 0).1).mapped
        layout linear = true) :
      (kernel.claimProcess id).mapped layout linear = true := by
    have covered : Mappings.Covers { earlier with image := some 0 }
        { mappings with image := some id } := ⟨covers.video, covers.terminal⟩
    rw [mapped_eq claimed linearLt]
    apply covered.translate (fun _ => rfl)
    rw [← mapped_eq claimedBefore linearLt]
    exact mappedBefore
  apply loadProgram_of_mapped fs claimed
  · exact carries (Nat.mod_lt _ (by decide)) loads.1
  · intro inRange i below
    obtain ⟨destination, source⟩ := loads.2 inRange i below
    exact ⟨carries (Nat.mod_lt _ (by decide)) destination,
      carries (Nat.mod_lt _ (by decide)) source⟩

end Mapped

end Kernel

/-- A file that passes the header check: it is long enough, its first bytes are
the expected ones, and the file system's own page holds them and the inode. -/
structure FileSystem.HasHeader (fs : FileSystem) (inode : Nat) : Prop where
  inRange : inode < fs.numInodes
  header : Kernel.contentWord (fun i => fs.mem (fs.byteAddress inode i)) = asciiElf
  long : 28 ≤ fs.inodeLength inode
  short : fs.inodeLength inode + 1 < 2 ^ 32
  inodeMapped : 0x400000 ≤ fs.inodePtr inode ∧ fs.inodePtr inode < 0x800000
  headerMapped : ∀ i < 28,
    0x400000 ≤ fs.byteAddress inode i ∧ fs.byteAddress inode i < 0x800000

/-- A program that can be started: its header is there, it fits the image page,
and the file system's own page holds its inode and all its bytes. -/
structure FileSystem.Loadable (fs : FileSystem) (inode : Nat) : Prop where
  inRange : inode < fs.numInodes
  header : Kernel.contentWord (fun i => fs.mem (fs.byteAddress inode i)) = asciiElf
  long : 28 ≤ fs.inodeLength inode
  fits : progImageVaddr + fs.inodeLength inode ≤ userImgEnd
  inodeMapped : 0x400000 ≤ fs.inodePtr inode ∧ fs.inodePtr inode < 0x800000
  bytesMapped : ∀ i < fs.inodeLength inode,
    0x400000 ≤ fs.byteAddress inode i ∧ fs.byteAddress inode i < 0x800000

theorem FileSystem.Loadable.hasHeader {fs : FileSystem} {inode : Nat}
    (loadable : fs.Loadable inode) : fs.HasHeader inode where
  inRange := loadable.inRange
  header := loadable.header
  long := loadable.long
  short := by
    have fits := loadable.fits
    simp only [progImageVaddr, userImgEnd] at fits
    omega
  inodeMapped := loadable.inodeMapped
  headerMapped i iLt := loadable.bytesMapped i (Nat.lt_of_lt_of_le iLt loadable.long)

/-- The file `shell` exists and is loadable. -/
def FileSystem.HasShell (fs : FileSystem) : Prop :=
  ∃ index, fs.findEntry (literal "shell") = some index ∧
    fs.Loadable (fs.entryInode index)

namespace Kernel

section Loadable

variable {layout : KernelLayout} {fs : FileSystem} {kernel : Kernel}
  {mappings : Mappings} {inode : Nat}

theorem mapped_kernelPage (represents : kernel.paging.Represents layout mappings)
    {linear : Nat} (inPage : 0x400000 ≤ linear ∧ linear < 0x800000) :
    kernel.mapped layout linear = true := by
  rw [mapped_eq represents (by omega), Mappings.translate, if_pos inPage]
  rfl

theorem loads_of_loadable (represents : kernel.paging.Represents layout mappings)
    (loadable : fs.Loadable inode) : kernel.Loads layout fs inode := by
  have claimed := claimProcess_represents represents (show 0 ≤ 6 by omega)
  refine ⟨mapped_kernelPage claimed loadable.inodeMapped, fun _ i below => ?_⟩
  refine ⟨?_, mapped_kernelPage claimed (loadable.bytesMapped i below)⟩
  have fits := loadable.fits
  simp only [progImageVaddr, userImgEnd, FileSystem.getFileSize] at fits below ⊢
  have inPage : 0x08000000 ≤ (0x08048000 + i) % 2 ^ 32 ∧
      (0x08048000 + i) % 2 ^ 32 < 0x08400000 := by omega
  have translated : (Mappings.translate { mappings with image := some 0 }
      ((0x08048000 + i) % 2 ^ 32)).isSome = true := by
    rw [Mappings.translate, if_neg (by omega), if_neg (by omega), if_pos inPage]
    rfl
  rw [← mapped_eq claimed (by omega)] at translated
  exact translated

/-- Four bytes read from the header of a program. -/
theorem readContent_of_hasHeader
    (represents : kernel.paging.Represents layout mappings)
    (hasHeader : fs.HasHeader inode) {offset : Nat} (inside : offset + 4 ≤ 28)
    (buf : TracedMemory Nat UInt8) :
    (kernel.readContent layout fs inode offset buf).faulted = false ∧
      ∀ i < 4, (kernel.readContent layout fs inode offset buf).memory.read i =
        fs.mem (fs.byteAddress inode (offset + i)) := by
  obtain ⟨inRange, header, long, short, inodeMapped, headerMapped⟩ := hasHeader
  have count : fs.readCount inode offset minReadElfSize = 4 := by
    simp only [FileSystem.readCount, minReadElfSize]
    omega
  have running : (kernel.readContent layout fs inode offset buf).faulted = false := by
    rw [readContent, fs.readMapped_of_inside _ _ _ inRange
      (mapped_kernelPage represents inodeMapped) (by omega) short, count]
    apply Copied.forUpTo_of_mapped
    intro i iLt current
    rw [assignLocal, if_pos (mapped_kernelPage represents (headerMapped _ (by omega)))]
    rfl
  refine ⟨running, fun i iLt => ?_⟩
  have same := fs.readMapped_memory assignLocal_eq running
  rw [readContent, same, fs.readData_eq _ _ _ inRange (by omega) short, count]
  dsimp only
  rw [fs.forUpTo_assignBuffer]
  exact TracedMemory.storeSequence_read buf _ (fun _ _ _ _ same => same) iLt

/-- A program that passes the header check is loaded. -/
theorem executeFile_of_hasHeader (stale : StaleLocals) (arg : CString)
    (represents : kernel.paging.Represents layout mappings)
    (hasHeader : fs.HasHeader inode) :
    ∃ entryPoint, kernel.executeFile layout fs stale inode arg =
      kernel.startProcess layout fs inode entryPoint arg := by
  obtain ⟨headerRuns, headerBytes⟩ := readContent_of_hasHeader represents hasHeader
    (show 0 + 4 ≤ 28 by omega) (freshBuffer stale.contentBuf)
  obtain ⟨entryRuns, -⟩ := readContent_of_hasHeader represents hasHeader
    (show entryPtwStart + 4 ≤ 28 by decide)
    (kernel.readContent layout fs inode 0 (freshBuffer stale.contentBuf)).memory
  have matching : contentWord (kernel.readContent layout fs inode 0
      (freshBuffer stale.contentBuf)).memory.read = asciiElf := by
    rw [← hasHeader.header]
    apply contentWord_congr
    intro i iLt
    rw [headerBytes i iLt, Nat.zero_add]
  refine ⟨(firstWord (kernel.readContent layout fs inode entryPtwStart
    (kernel.readContent layout fs inode 0
      (freshBuffer stale.contentBuf)).memory).memory.read).toNat, ?_⟩
  simp only [executeFile, headerRuns, Bool.false_eq_true, if_false, matching, ne_eq,
    not_true_eq_false, entryRuns]

/-- A loadable program is entered. -/
theorem executeFile_of_loadable (stale : StaleLocals) (arg : CString)
    (represents : kernel.paging.Represents layout mappings)
    (loadable : fs.Loadable inode) {id : Nat} (idLe : id ≤ 6)
    (free : freeProcIdFrom kernel.procIdFlags maxProcesses 0 = some id) :
    ∃ entryPoint,
      kernel.executeFile layout fs stale inode arg =
        (((kernel.claimProcess id).setMem
          (kernel.loadFor layout fs id inode).memory).enterProgram id arg,
          .running entryPoint) := by
  obtain ⟨entryPoint, started⟩ :=
    executeFile_of_hasHeader stale arg represents loadable.hasHeader
  have loaded := loadFor_of_loads fs (loads_of_loadable represents loadable) represents
    represents (.refl mappings) idLe
  refine ⟨entryPoint, ?_⟩
  rw [started, startProcess_of_free layout fs _ _ _ free]
  simp only [loaded, Bool.false_eq_true, if_false]

/-- A program that does not fit the pages behind its load address faults. -/
theorem loadFor_of_oversized (represents : kernel.paging.Represents layout mappings)
    (inRange : inode < fs.numInodes) (large : 0x3BA000 < fs.inodeLength inode)
    (short : fs.inodeLength inode + 1 < 2 ^ 32) {id : Nat} (idLe : id ≤ 6) :
    (kernel.loadFor layout fs id inode).faulted = true := by
  have claimed := claimProcess_represents represents idLe
  rw [loadFor, loadProgram]
  split
  · rename_i inodeMapped
    rw [fs.readMapped_of_inside _ _ _ inRange inodeMapped (by omega) short]
    apply Copied.forUpTo_of_unmapped _ (i := 0x3BA000)
    · simp only [FileSystem.readCount, FileSystem.getFileSize]
      omega
    · intro current
      have unmapped : (kernel.claimProcess id).paging.walk layout
          ((progImageVaddr + 0x3BA000) % 2 ^ 32) = none := by
        rw [← Option.not_isSome_iff_eq_none]
        exact Bool.eq_false_iff.mp (not_mapped_above claimed)
      rw [assignLinear, unmapped]
      split <;> rfl
  · rfl

/-- Starting an oversized program takes a process id and faults. -/
theorem executeFile_of_oversized (stale : StaleLocals) (arg : CString)
    (represents : kernel.paging.Represents layout mappings)
    (hasHeader : fs.HasHeader inode) (large : 0x3BA000 < fs.inodeLength inode)
    {id : Nat} (idLe : id ≤ 6)
    (free : freeProcIdFrom kernel.procIdFlags maxProcesses 0 = some id) :
    kernel.executeFile layout fs stale inode arg =
      (((kernel.claimProcess id).setMem
        (kernel.loadFor layout fs id inode).memory).fault, .pageFault) := by
  obtain ⟨entryPoint, started⟩ :=
    executeFile_of_hasHeader stale arg represents hasHeader
  have faulted := loadFor_of_oversized represents hasHeader.inRange
    large hasHeader.short idLe
  rw [started, startProcess_of_free layout fs _ _ _ free]
  simp only [faulted, if_true]

end Loadable

/-- A command whose file is found. -/
theorem execute_of_found (layout : KernelLayout) {fs : FileSystem} (stale : StaleLocals)
    (kernel : Kernel) {bytes : List UInt8} {index : Nat}
    (parsed : (parseCommand bytes).2 = .endOfCommand)
    (found : fs.findEntry (parseCommand bytes).1.fileNameCommand.read = some index) :
    kernel.execute layout fs stale (some bytes) =
      kernel.executeFile layout fs stale (fs.entryInode index)
        (parseCommand bytes).1.argCommand.read := by
  simp only [execute, parsed, fs.readDentryByName_of_found _ found]
  rfl

/-- The first word of the command that starts a shell. -/
theorem shellCommand_name :
    (parseCommand ("shell".toList.map fun c => UInt8.ofNat c.toNat)).1.fileNameCommand.read =
      literal "shell" := by
  have copied : (parseCommand
      ("shell".toList.map fun c => UInt8.ofNat c.toNat)).1.fileNameCommand =
        (((((clearedArray 10).store 0 0x73).store 1 0x68).store 2 0x65).store 3
          0x6C).store 4 0x6C := by
    rfl
  funext i
  by_cases cleared : i < 10
  · interval_cases i <;> decide +kernel
  · have beyond (index : Nat) (indexLt : index < 10) : i ≠ index := by omega
    have behind : literal "shell" i = 0 := by
      simp only [literal, cString]
      exact List.getD_eq_default _ _ (by simp; omega)
    rw [copied, behind]
    simp [TracedMemory.store, clearedArray, forUpTo, beyond]

theorem execute_shell (stale : StaleLocals) {layout : KernelLayout} {fs : FileSystem}
    {kernel : Kernel} {mappings : Mappings}
    (represents : kernel.paging.Represents layout mappings) (shell : fs.HasShell)
    {id : Nat} (idLe : id ≤ 6)
    (free : freeProcIdFrom kernel.procIdFlags maxProcesses 0 = some id) :
    ∃ inode entryPoint arg, fs.Loadable inode ∧
      kernel.execute layout fs stale shellCommand =
        (((kernel.claimProcess id).setMem
          (kernel.loadFor layout fs id inode).memory).enterProgram id arg,
          .running entryPoint) := by
  obtain ⟨index, found, loadable⟩ := shell
  have parsed : (parseCommand
      ("shell".toList.map fun c => UInt8.ofNat c.toNat)).2 = .endOfCommand := by
    decide +kernel
  let arg : CString :=
    (parseCommand ("shell".toList.map fun c => UInt8.ofNat c.toNat)).1.argCommand.read
  obtain ⟨entryPoint, entered⟩ :=
    executeFile_of_loadable stale arg represents loadable idLe free
  refine ⟨fs.entryInode index, entryPoint, arg, loadable, ?_⟩
  rw [← entered]
  exact kernel.execute_of_found layout stale parsed (by rw [shellCommand_name]; exact found)

end Kernel

end ChapOS
