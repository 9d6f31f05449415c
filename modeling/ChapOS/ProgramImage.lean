import ChapOS.FailedExecutes
import ChapOS.FileStream
import ChapOS.ProcessTurnover
import ChapOS.VideoMapping

/-!
# The stores of the program loader

`execute` reads a program byte by byte to the linear addresses from `0x08048000` on.
It maps the image page of the new process first, but compares the length of the file
with nothing, so that a long program runs into the pages behind that page.
-/

namespace ChapOS

open CountedLoops

namespace Kernel

/-- The page tables while a program is loaded. -/
def imagePaging (kernel : Kernel) (id : Nat) : Paging :=
  (kernel.paging.mapUserImgPage id).1

/-- A byte of the program is mapped both in the file and in memory. -/
def copiesByte (layout : KernelLayout) (fs : FileSystem) (kernel : Kernel)
    (id inode i : Nat) : Bool :=
  (kernel.imagePaging id).maps layout (fs.byteAddress inode i) &&
    (kernel.imagePaging id).maps layout (progImageVaddr + i)

/-- How many bytes of a program are stored before the end or a page fault. -/
def loadStored (layout : KernelLayout) (fs : FileSystem) (kernel : Kernel)
    (id inode : Nat) : Nat :=
  if (kernel.imagePaging id).maps layout (fs.inodePtr inode) then
    reached (kernel.copiesByte layout fs id inode) (fs.inodeLength inode)
  else 0

/-- The memory after that many bytes have been stored. -/
def storeImage (layout : KernelLayout) (fs : FileSystem) (kernel : Kernel)
    (id inode count : Nat) : PhysicalMemory :=
  kernel.mem.storeSequence
    (fun i => (kernel.imagePaging id).physicalOf layout (progImageVaddr + i))
    (fun i => fs.mem (fs.byteAddress inode i)) count

/-- The file can be read while the program is loaded. -/
structure ImageReadable (layout : KernelLayout) (fs : FileSystem) (kernel : Kernel)
    (id inode : Nat) : Prop where
  inodeMapped : (kernel.imagePaging id).maps layout (fs.inodePtr inode) = true
  bytesMapped : ∀ i < fs.inodeLength inode,
    (kernel.imagePaging id).maps layout (fs.byteAddress inode i) = true

section Loads

variable {layout : KernelLayout} {fs : FileSystem} {kernel : Kernel}
  {stale : StaleLocals} {command : Option (List UInt8)} {id inode entryPoint : Nat}

/-- One byte of the program is stored, or faults. -/
theorem assign_image (fs : FileSystem) (kernel : Kernel) (id inode : Nat) {i : Nat}
    (iLt : i < 1023 * 4096) (memory : PhysicalMemory) :
    Copied.assign ((kernel.claimProcess id).assignLinear layout fs progImageVaddr) i
        (fs.byteAddress inode i) ⟨memory, false⟩ =
      if kernel.copiesByte layout fs id inode i then
        ⟨memory.store ((kernel.imagePaging id).physicalOf layout (progImageVaddr + i))
          (fs.mem (fs.byteAddress inode i)), false⟩
      else ⟨memory, true⟩ := by
  have noWrap : (progImageVaddr + i) % 2 ^ 32 = progImageVaddr + i := by
    simp only [progImageVaddr]
    omega
  have mapped : (kernel.claimProcess id).mapped layout (fs.byteAddress inode i) =
      (kernel.imagePaging id).maps layout (fs.byteAddress inode i) := rfl
  have walk : (kernel.claimProcess id).paging.walk layout (progImageVaddr + i) =
      (kernel.imagePaging id).walk layout (progImageVaddr + i) := rfl
  cases copies : kernel.copiesByte layout fs id inode i with
  | true =>
      obtain ⟨source, destination⟩ := Bool.and_eq_true_iff.mp copies
      obtain ⟨translation, walked⟩ := Option.isSome_iff_exists.mp destination
      simp only [Copied.assign, assignLinear, noWrap, mapped, walk, source, walked,
        Paging.physicalOf, Bool.false_eq_true, if_false, if_true, Option.map_some,
        Option.getD_some]
  | false =>
      rcases Bool.and_eq_false_iff.mp copies with source | destination
      · simp only [Copied.assign, assignLinear, mapped, source, Bool.false_eq_true,
          if_false]
      · have walked : (kernel.imagePaging id).walk layout (progImageVaddr + i) = none :=
          Option.not_isSome_iff_eq_none.mp (Bool.eq_false_iff.mp destination)
        simp only [Copied.assign, assignLinear, noWrap, walk, walked, Option.map_none,
          ite_self, Bool.false_eq_true, if_false]

/-- What the loader stores, and when it ends without a page fault. -/
theorem loadFor_eq (inRange : inode < fs.numInodes)
    (lengthLe : fs.inodeLength inode ≤ 1023 * 4096) :
    (kernel.loadFor layout fs id inode).memory =
        kernel.storeImage layout fs id inode (kernel.loadStored layout fs id inode) ∧
      ((kernel.loadFor layout fs id inode).faulted = false ↔
        (kernel.imagePaging id).maps layout (fs.inodePtr inode) = true ∧
          kernel.loadStored layout fs id inode = fs.inodeLength inode) := by
  have mapped (linear : Nat) : (kernel.claimProcess id).mapped layout linear =
      (kernel.imagePaging id).maps layout linear := rfl
  rw [loadFor, loadProgram, loadStored]
  by_cases inodeMapped : (kernel.imagePaging id).maps layout (fs.inodePtr inode) = true
  · rw [if_pos ((mapped _).trans inodeMapped), if_pos inodeMapped]
    by_cases isEmpty : fs.inodeLength inode = 0
    · rw [FileSystem.readMapped,
        if_neg (fun both => absurd both.2 (by rw [mapped, inodeMapped]; decide)),
        fs.readData_of_atEnd _ _ _ inRange (by omega), isEmpty]
      exact ⟨rfl, fun _ => ⟨inodeMapped, rfl⟩, fun _ => rfl⟩
    · have count : fs.readCount inode 0 (fs.getFileSize inode) = fs.inodeLength inode := by
        simp only [FileSystem.readCount, FileSystem.getFileSize]
        omega
      have loop := @Copied.forUpTo_reached PhysicalMemory
        (fun i => Copied.assign
          ((kernel.claimProcess id).assignLinear layout fs progImageVaddr) i
          (fs.byteAddress inode (0 + i)))
        (fun i mem => mem.store
          ((kernel.imagePaging id).physicalOf layout (progImageVaddr + i))
          (fs.mem (fs.byteAddress inode i)))
        (kernel.copiesByte layout fs id inode) (fs.inodeLength inode)
        (by
          intro i iLt memory
          simp only [Nat.zero_add]
          exact assign_image fs kernel id inode (by omega) memory)
        (by
          intro i iLt memory
          simp only [Copied.assign, if_true])
        (kernel.claimProcess id).mem
      rw [fs.readMapped_of_inside _ _ _ inRange ((mapped _).trans inodeMapped) (by omega)
        (by omega), count, loop]
      have le := reached_le (kernel.copiesByte layout fs id inode) (fs.inodeLength inode)
      refine ⟨rfl, ?_⟩
      simp only [decide_eq_false_iff_not, inodeMapped, true_and]
      omega
  · rw [if_neg (fun isMapped => inodeMapped ((mapped _).symm.trans isMapped)),
      if_neg inodeMapped]
    refine ⟨rfl, ?_⟩
    simp [inodeMapped]

/-- The memory after `execute` has loaded a program, and when it enters the program. -/
theorem execute_loads (allocates : kernel.Allocates layout fs stale command inode entryPoint)
    (inRange : inode < fs.numInodes) (lengthLe : fs.inodeLength inode ≤ 1023 * 4096)
    (free : kernel.freeProcId = some id) :
    (kernel.execute layout fs stale command).1.mem =
        (kernel.reported command).storeImage layout fs id inode
          (kernel.loadStored layout fs id inode) ∧
      (kernel.execute layout fs stale command).2 ≠ .returned (-1) ∧
      ((kernel.execute layout fs stale command).2 = .running entryPoint ↔
        (kernel.imagePaging id).maps layout (fs.inodePtr inode) = true ∧
          kernel.loadStored layout fs id inode = fs.inodeLength inode) := by
  obtain ⟨arg, ran⟩ := execute_reported allocates
  obtain ⟨printed, isPrinted⟩ := kernel.exists_reported_print command
  obtain ⟨memory, runs⟩ := @loadFor_eq layout fs (kernel.print printed) id inode inRange
    lengthLe
  have stored : (kernel.print printed).loadStored layout fs id inode =
      kernel.loadStored layout fs id inode := rfl
  have paging : (kernel.print printed).imagePaging id = kernel.imagePaging id := rfl
  rw [stored] at memory runs
  rw [paging] at runs
  have stillFree : freeProcIdFrom (kernel.print printed).procIdFlags maxProcesses 0 =
      some id := free
  rw [ran, isPrinted, startProcess_of_free layout fs _ _ _ stillFree, ← memory, ← runs]
  dsimp only
  cases faulted : ((kernel.print printed).loadFor layout fs id inode).faulted with
  | true =>
      rw [if_pos rfl]
      exact ⟨rfl, nofun, nofun, nofun⟩
  | false =>
      rw [if_neg Bool.false_ne_true]
      exact ⟨rfl, nofun, fun _ => rfl, fun _ => rfl⟩

/-- The image page holds what is stored in it. -/
theorem imagePaging_physicalOf (idLe : id ≤ 6) {i : Nat}
    (below : progImageVaddr + i < userImgEnd) :
    (kernel.imagePaging id).maps layout (progImageVaddr + i) = true ∧
      (kernel.imagePaging id).physicalOf layout (progImageVaddr + i) =
        (id + 2) * 0x400000 + (0x48000 + i) := by
  simp only [progImageVaddr, userImgEnd] at below ⊢
  have walked := Paging.mapUserImgPage_walk layout kernel.paging idLe
    (show 0x08000000 ≤ 0x08048000 + i ∧ 0x08048000 + i < 0x08400000 by omega)
  have shifted : 0x08048000 + i - 0x08000000 = 0x48000 + i := by omega
  rw [shifted] at walked
  constructor
  · rw [Paging.maps, imagePaging, walked]
    rfl
  · rw [Paging.physicalOf, imagePaging, walked]
    rfl

end Loads

/-- The bytes of the program, in order, are all that `execute` stores, and it stores
them to the image page. -/
structure FillsImage (layout : KernelLayout) (fs : FileSystem) (stale : StaleLocals)
    (kernel : Kernel) (command : Option (List UInt8)) (id inode entryPoint : Nat) :
    Prop where
  enters : (kernel.execute layout fs stale command).2 = .running entryPoint
  below : ∀ i < kernel.loadStored layout fs id inode, progImageVaddr + i < userImgEnd
  stores : (kernel.execute layout fs stale command).1.mem.stores =
    ((List.range (fs.inodeLength inode)).map fun i =>
      (kernel.imagePaging id).physicalOf layout (progImageVaddr + i)).reverse ++
        (kernel.reported command).mem.stores
  bytes : ∀ i < fs.inodeLength inode,
    (kernel.execute layout fs stale command).1.mem.read
        ((kernel.imagePaging id).physicalOf layout (progImageVaddr + i)) =
      fs.fileByte inode i

/-- A program is loaded to its own page, or `execute` returns -1. -/
def LoadsConfined (layout : KernelLayout) (fs : FileSystem) (stale : StaleLocals)
    (kernel : Kernel) (command : Option (List UInt8)) (inode entryPoint : Nat) : Prop :=
  (kernel.execute layout fs stale command).2 = .returned (-1) ∨
    ∃ id, kernel.freeProcId = some id ∧
      kernel.FillsImage layout fs stale command id inode entryPoint

section Confined

variable {layout : KernelLayout} {fs : FileSystem} {kernel : Kernel}
  {stale : StaleLocals} {command : Option (List UInt8)} {id inode entryPoint : Nat}

/-- A program that ends in the image page fills it. -/
theorem fillsImage_of_fits
    (allocates : kernel.Allocates layout fs stale command inode entryPoint)
    (inRange : inode < fs.numInodes) (wellFormed : fs.WellFormedFile inode)
    (free : kernel.freeProcId = some id)
    (fits : progImageVaddr + fs.inodeLength inode ≤ userImgEnd)
    (readable : kernel.ImageReadable layout fs id inode) :
    kernel.FillsImage layout fs stale command id inode entryPoint := by
  obtain ⟨memory, -, enters⟩ := execute_loads allocates inRange wellFormed.length_le free
  obtain ⟨-, -, idLt⟩ := flag_of_freeProcIdFrom free
  have idLe : id ≤ 6 := by
    simp only [maxProcesses] at idLt
    omega
  obtain ⟨printed, isPrinted⟩ := kernel.exists_reported_print command
  have paging : (kernel.reported command).imagePaging id = kernel.imagePaging id := by
    rw [isPrinted]
    rfl
  have all : kernel.loadStored layout fs id inode = fs.inodeLength inode := by
    rw [loadStored, if_pos readable.inodeMapped, reached_eq_iff]
    intro i iLt
    rw [copiesByte, readable.bytesMapped i iLt, Bool.true_and]
    exact (imagePaging_physicalOf idLe (by omega)).1
  rw [all] at memory
  refine ⟨enters.mpr ⟨readable.inodeMapped, all⟩, ?_, ?_, ?_⟩
  · intro i iLt
    omega
  · rw [memory, storeImage, TracedMemory.storeSequence_stores, paging]
  · intro i iLt
    rw [memory, storeImage, paging, ← fs.mem_byteAddress wellFormed iLt]
    apply TracedMemory.storeSequence_read _ (fun i => fs.mem (fs.byteAddress inode i)) ?_ iLt
    intro first firstLt second secondLt same
    rw [(imagePaging_physicalOf idLe (by omega)).2,
      (imagePaging_physicalOf idLe (by omega)).2] at same
    omega

/-- What `execute` stores while it loads a program, and when that keeps to the image
page: exactly when the program ends before the end of that page, and can be read
through the page tables. -/
theorem load_confined_iff (layout : KernelLayout) (fs : FileSystem) (stale : StaleLocals)
    (kernel : Kernel) (command : Option (List UInt8)) (inode entryPoint : Nat)
    (allocates : kernel.Allocates layout fs stale command inode entryPoint)
    (inRange : inode < fs.numInodes) (wellFormed : fs.WellFormedFile inode) :
    (∀ id, kernel.freeProcId = some id →
      (kernel.execute layout fs stale command).1.mem =
        (kernel.reported command).storeImage layout fs id inode
          (kernel.loadStored layout fs id inode)) ∧
    (LoadsConfined layout fs stale kernel command inode entryPoint ↔
      ∀ id, kernel.freeProcId = some id →
        fs.inodeLength inode ≤ 0x3B8000 ∧ kernel.ImageReadable layout fs id inode) := by
  have lengthLe := wellFormed.length_le
  constructor
  · intro id free
    exact (execute_loads allocates inRange lengthLe free).1
  constructor
  · rintro confined id free
    obtain ⟨-, goesOn, enters⟩ := execute_loads allocates inRange lengthLe free
    rcases confined with refused | ⟨other, found, fills⟩
    · exact absurd refused goesOn
    obtain rfl := Option.some.inj (free.symm.trans found)
    obtain ⟨inodeMapped, all⟩ := enters.mp fills.enters
    have reachesEnd := all
    rw [loadStored, if_pos inodeMapped, reached_eq_iff] at reachesEnd
    refine ⟨?_, inodeMapped, fun i iLt => ?_⟩
    · by_contra long
      have above := fills.below 0x3B8000 (by omega)
      simp only [progImageVaddr, userImgEnd] at above
      omega
    · exact (Bool.and_eq_true_iff.mp (reachesEnd i iLt)).1
  · intro fits
    cases free : kernel.freeProcId with
    | none =>
        left
        obtain ⟨arg, ran⟩ := execute_reported allocates
        obtain ⟨-, sameFlags⟩ := @reported_keeps layout fs kernel command
        rw [freeProcId, ← sameFlags] at free
        rw [ran, startProcess_of_full layout fs _ _ _ free]
    | some id =>
        obtain ⟨short, readable⟩ := fits id free
        refine Or.inr ⟨id, free, fillsImage_of_fits allocates inRange wellFormed free ?_
          readable⟩
        simp only [progImageVaddr, userImgEnd]
        omega

end Confined

end Kernel

/-- Both files of that image have their data in its only block. -/
theorem oversizedImage_wellFormed {inode : Nat} (inodeLt : inode < 2) :
    oversizedImage.WellFormedFile inode := by
  rcases show inode = 0 ∨ inode = 1 by omega with rfl | rfl
  · exact ⟨by decide +kernel, by decide +kernel, by decide +kernel⟩
  · exact ⟨by decide +kernel, by decide +kernel, by decide +kernel⟩

/-- The command names a file with a header that is in the file system's own page. -/
theorem allocates_of_hasHeader {kernel : Kernel} {layout : KernelLayout} {fs : FileSystem}
    {mappings : Mappings} (represents : kernel.paging.Represents layout mappings)
    {stale : StaleLocals} {command : Option (List UInt8)} {inode : Nat}
    (named : fs.NamesInode stale command inode) (hasHeader : fs.HasHeader inode) :
    ∃ entryPoint, kernel.Allocates layout fs stale command inode entryPoint := by
  obtain ⟨headerRuns, headerBytes⟩ := Kernel.readContent_of_hasHeader represents hasHeader
    (show 0 + 4 ≤ 28 by omega) (freshBuffer stale.contentBuf)
  obtain ⟨entryRuns, -⟩ := Kernel.readContent_of_hasHeader represents hasHeader
    (show entryPtwStart + 4 ≤ 28 by decide)
    (kernel.readContent layout fs inode 0 (freshBuffer stale.contentBuf)).memory
  refine ⟨_, named, headerRuns, ?_, entryRuns, rfl⟩
  rw [← hasHeader.header]
  apply Kernel.contentWord_congr
  intro i iLt
  rw [headerBytes i iLt, Nat.zero_add]

/-- The shell of that image is loaded to its own page. -/
theorem load_confined_shell :
    ∃ entryPoint, Kernel.LoadsConfined lowLayout oversizedImage .zero startedKernel
      Kernel.shellCommand 0 entryPoint := by
  obtain ⟨mappings, represents⟩ := startedKernel_boots.serves.holds.represents
  have loadable := oversizedImage_loadable
  have named : oversizedImage.NamesInode .zero Kernel.shellCommand 0 :=
    ⟨_, _, rfl, by decide +kernel,
      Prod.ext (show (oversizedImage.readDentryByName
        (parseCommand ("shell".toList.map fun c =>
          UInt8.ofNat c.toNat)).1.fileNameCommand.read StaleLocals.zero.dentry).1 = 0 by
            decide +kernel) rfl,
      by decide +kernel⟩
  obtain ⟨entryPoint, allocates⟩ :=
    allocates_of_hasHeader represents named loadable.hasHeader
  refine ⟨entryPoint, (Kernel.load_confined_iff lowLayout oversizedImage .zero startedKernel
    Kernel.shellCommand 0 entryPoint allocates loadable.inRange
    (oversizedImage_wellFormed (by decide))).2.mpr fun id free => ?_⟩
  obtain ⟨-, -, idLt⟩ := Kernel.flag_of_freeProcIdFrom free
  have claimed := Kernel.claimProcess_represents represents (show id ≤ 6 by
    simp only [maxProcesses] at idLt
    omega)
  refine ⟨by decide +kernel, ?_, fun i iLt => ?_⟩
  · exact Kernel.mapped_kernelPage claimed loadable.inodeMapped
  · exact Kernel.mapped_kernelPage claimed (loadable.bytesMapped i iLt)

/-- The oversized program passes the header check and takes a process id, and its
load ends in a page fault behind its page. -/
theorem load_leaves_image_page :
    oversizedImage.WellFormedFile 1 ∧
      ∃ entryPoint,
        startedKernel.Allocates lowLayout oversizedImage .zero bigCommand 1 entryPoint ∧
          ¬Kernel.LoadsConfined lowLayout oversizedImage .zero startedKernel bigCommand 1
            entryPoint := by
  obtain ⟨mappings, represents⟩ := startedKernel_boots.serves.holds.represents
  have named : oversizedImage.NamesInode .zero bigCommand 1 :=
    ⟨_, _, rfl, by decide +kernel,
      Prod.ext (show (oversizedImage.readDentryByName
        (parseCommand [0x62, 0x69, 0x67]).1.fileNameCommand.read
          StaleLocals.zero.dentry).1 = 0 by decide +kernel) rfl,
      by decide +kernel⟩
  obtain ⟨entryPoint, allocates⟩ :=
    allocates_of_hasHeader represents named oversizedImage_hasHeader
  have free : Kernel.freeProcIdFrom startedKernel.procIdFlags maxProcesses 0 = some 0 := rfl
  have faults := execute_big represents (show 0 ≤ 6 by omega) free
  refine ⟨oversizedImage_wellFormed (by decide), entryPoint, allocates, ?_⟩
  rintro (refused | ⟨id, -, fills⟩)
  · rw [faults] at refused
    exact nomatch refused
  · have enters := fills.enters
    rw [faults] at enters
    exact nomatch enters

end ChapOS
