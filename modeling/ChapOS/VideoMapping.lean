import ChapOS.ProcessStack

/-!
# The stores of `vidmap`

`vidmap` checks the first of the four bytes it stores and maps the page behind the
user's image before it stores them.  The four stores are followed one linear address
after the other, for page tables that hold anything.
-/

namespace PageWalk

/-- Addresses in one 4KB page are mapped alike. -/
theorem walk_isSome_of_same_page (tables : Tables) {first second : Nat}
    (same : first / 2 ^ 12 = second / 2 ^ 12) :
    (walk tables first).isSome = (walk tables second).isSome := by
  have outer : directoryIndex first = directoryIndex second := by
    simp only [directoryIndex]
    omega
  have inner : tableIndex first = tableIndex second := by
    simp only [tableIndex]
    omega
  simp only [walk, outer, inner]
  split
  · split
    · rfl
    · cases tables.tableAt (frameBase 12 (tables.directory (directoryIndex second))) with
      | none => rfl
      | some table =>
          simp only [Option.bind_some]
          split <;> rfl
  · rfl

/-- A walk reads one entry of the directory and one of a table. -/
theorem walk_congr {first second : Tables} {linear : Nat}
    (outer : first.directory (directoryIndex linear) =
      second.directory (directoryIndex linear))
    (inner : ∀ frame, (first.tableAt frame).map (· (tableIndex linear)) =
      (second.tableAt frame).map (· (tableIndex linear))) :
    walk first linear = walk second linear := by
  simp only [walk, outer]
  split
  · split
    · rfl
    · have same := inner (frameBase 12 (second.directory (directoryIndex linear)))
      generalize first.tableAt _ = table at same ⊢
      generalize second.tableAt _ = other at same ⊢
      cases table with
      | none =>
          cases other with
          | none => rfl
          | some other => cases same
      | some table =>
          cases other with
          | none => cases same
          | some other =>
              have entry : table (tableIndex linear) = other (tableIndex linear) :=
                Option.some.inj same
              simp only [Option.bind_some, entry]
  · rfl

/-- A translation keeps the offset in the page. -/
theorem walk_offset {tables : Tables} {linear : Nat} {translation : Translation}
    (walked : walk tables linear = some translation) :
    translation.physical % 2 ^ 12 = linear % 2 ^ 12 := by
  simp only [walk] at walked
  split at walked
  · split at walked
    · obtain rfl := Option.some.inj walked
      simp only [frameBase]
      omega
    · obtain ⟨table, -, found⟩ := Option.bind_eq_some_iff.mp walked
      split at found
      · obtain rfl := Option.some.inj found
        simp only [frameBase]
        omega
      · cases found
  · cases walked

end PageWalk

namespace ChapOS

open CountedLoops

/-- The physical address of a linear one, and 0 where there is none. -/
def Paging.physicalOf (layout : KernelLayout) (paging : Paging) (linear : Nat) : Nat :=
  ((paging.walk layout linear).map PageWalk.Translation.physical).getD 0

/-- Whether a linear address is mapped. -/
def Paging.maps (layout : KernelLayout) (paging : Paging) (linear : Nat) : Bool :=
  (paging.walk layout linear).isSome

section Stores

variable {layout : KernelLayout} {paging : Paging}

/-- The loop stores to the first linear addresses up to one that is not mapped, where
it faults. -/
theorem assignBytes_eq (start count : Nat) (values : Nat → UInt8) (mem : PhysicalMemory) :
    forUpTo count (fun i => Kernel.assignByte layout paging (start + i) (values i))
        ⟨mem, false⟩ =
      ⟨forUpTo (reached (fun i => paging.maps layout (start + i)) count)
          (fun i current => current.store (paging.physicalOf layout (start + i)) (values i))
          mem,
        decide (reached (fun i => paging.maps layout (start + i)) count < count)⟩ := by
  apply Copied.forUpTo_reached
  · intro i _ memory
    cases walked : paging.walk layout (start + i) with
    | none => simp [Kernel.assignByte, Paging.maps, walked]
    | some translation =>
        simp [Kernel.assignByte, Paging.maps, Paging.physicalOf, walked]
  · intro i _ memory
    simp only [Kernel.assignByte, if_true]

theorem physicalOf_offset {linear : Nat} (mapped : paging.maps layout linear = true) :
    paging.physicalOf layout linear % 2 ^ 12 = linear % 2 ^ 12 := by
  obtain ⟨translation, walked⟩ := Option.isSome_iff_exists.mp mapped
  rw [Paging.physicalOf, walked]
  exact PageWalk.walk_offset walked

/-- A few bytes stored one behind the other are all there afterwards. -/
theorem storeBytes_read {start count : Nat} (few : count ≤ 2 ^ 12) (values : Nat → UInt8)
    (mem : PhysicalMemory)
    (mapped : ∀ i < count, paging.maps layout (start + i) = true) {i : Nat}
    (iLt : i < count) :
    (forUpTo count
        (fun i current => current.store (paging.physicalOf layout (start + i)) (values i))
        mem).read (paging.physicalOf layout (start + i)) = values i := by
  induction count with
  | zero => exact absurd iLt (Nat.not_lt_zero i)
  | succ count ih =>
      rw [forUpTo_succ]
      by_cases last : i = count
      · rw [last, TracedMemory.store_read_self]
      · have before := ih (by omega) (fun j jLt => mapped j (by omega)) (by omega)
        have own := physicalOf_offset (mapped i iLt)
        have other := physicalOf_offset (mapped count (by omega))
        rw [TracedMemory.store_read_of_ne _ _ (by omega), before]

end Stores

namespace Kernel

variable {layout : KernelLayout} {kernel : Kernel} {screenStart : Nat}

/-- The page tables while `vidmap` stores. -/
def videoPaging (layout : KernelLayout) (kernel : Kernel) : Paging :=
  kernel.paging.newUserVIDPage layout userImgEnd

/-- How many of the bytes from `screen_start` on `vidmap` stores to. -/
def vidmapStored (layout : KernelLayout) (kernel : Kernel) (screenStart : Nat) : Nat :=
  if screenStart < userImgStart ∨ userImgEnd ≤ screenStart then 0
  else reached (fun i => (kernel.videoPaging layout).maps layout (screenStart + i)) 4

/-- The memory after the bytes of the pointer have been stored. -/
def storePointer (layout : KernelLayout) (kernel : Kernel) (screenStart count : Nat) :
    PhysicalMemory :=
  forUpTo count
    (fun i mem => mem.store ((kernel.videoPaging layout).physicalOf layout (screenStart + i))
      (FileSystem.littleEndian userImgEnd i)) kernel.mem

theorem vidmap_of_outside
    (outside : screenStart < userImgStart ∨ userImgEnd ≤ screenStart) :
    kernel.vidmap layout screenStart = (kernel, -1) := by
  rw [vidmap, if_pos outside]

theorem vidmap_of_inside
    (inside : ¬(screenStart < userImgStart ∨ userImgEnd ≤ screenStart)) :
    kernel.vidmap layout screenStart =
      ((kernel.setPaging (kernel.videoPaging layout)).afterCopy
        ⟨kernel.storePointer layout screenStart (kernel.vidmapStored layout screenStart),
          decide (kernel.vidmapStored layout screenStart < 4)⟩, (userImgEnd : Int)) := by
  rw [vidmap, if_neg inside, vidmapStored, if_neg inside]
  dsimp only
  rw [assignBytes_eq]
  rfl

/-- The entries of the page behind the image are the only ones that change. -/
theorem videoPaging_entries (layout : KernelLayout) (kernel : Kernel) :
    (∀ index, index ≠ 0x21 →
        (kernel.videoPaging layout).pageDir index = kernel.paging.pageDir index) ∧
      (∀ index, index ≠ 0 →
        (kernel.videoPaging layout).userPageTable index =
          kernel.paging.userPageTable index) ∧
      (kernel.videoPaging layout).pageTable = kernel.paging.pageTable :=
  ⟨fun _ different => Function.update_of_ne different _ _,
    fun _ different => Function.update_of_ne different _ _, rfl⟩

/-- The page behind the image is mapped then. -/
theorem videoPaging_maps_video (layout : KernelLayout) (kernel : Kernel) :
    (kernel.videoPaging layout).maps layout userImgEnd = true := by
  have entry : ((kernel.videoPaging layout).tables layout).directory
      (PageWalk.directoryIndex userImgEnd) = layout.userPageTableAddr ||| 7 := by
    simp [videoPaging, Paging.tables, Paging.newUserVIDPage, Paging.setPageDir,
      Paging.setUserPageTable, PageWalk.directoryIndex]
  have inner : (kernel.videoPaging layout).userPageTable (PageWalk.tableIndex userImgEnd) =
      video ||| enableUserEntry := by
    simp [videoPaging, Paging.newUserVIDPage, Paging.setPageDir, Paging.setUserPageTable,
      PageWalk.tableIndex]
  have walked := PageWalk.walk_of_table (kernel.videoPaging layout).userPageTable entry
    layout.userPageTable_aligned (by decide) (by decide) (by decide)
    (by simp [Paging.tables, layout.distinct])
  rw [Paging.maps, Paging.walk, walked, inner, if_pos (by decide)]
  rfl

/-- The last page of the image is mapped as before. -/
theorem videoPaging_maps_image (layout : KernelLayout) (kernel : Kernel) {linear : Nat}
    (lastPage : linear / 2 ^ 12 = 0x083FF) :
    (kernel.videoPaging layout).maps layout linear = kernel.paging.maps layout linear := by
  obtain ⟨directory, userTable, pageTable⟩ := kernel.videoPaging_entries layout
  have outer : PageWalk.directoryIndex linear = 0x20 := by
    simp only [PageWalk.directoryIndex]
    omega
  have inner : PageWalk.tableIndex linear = 0x3FF := by
    simp only [PageWalk.tableIndex]
    omega
  refine congrArg Option.isSome (PageWalk.walk_congr ?_ fun frame => ?_)
  · rw [outer]
    exact directory 0x20 (by decide)
  · rw [inner]
    simp only [Paging.tables, pageTable]
    split
    · rfl
    split
    · exact congrArg some (userTable 0x3FF (by decide))
    · rfl

/-- What `vidmap` should do with a pointer that it does not refuse: store to the image
page only, leave the address of the video page there, and map no other page. -/
structure StoresPointer (layout : KernelLayout) (kernel : Kernel) (screenStart : Nat) :
    Prop where
  inside : ∀ i < kernel.vidmapStored layout screenStart,
    userImgStart ≤ screenStart + i ∧ screenStart + i < userImgEnd
  pointer : (kernel.vidmap layout screenStart).1.faulting = false →
    (kernel.vidmap layout screenStart).2 = 0x08400000 ∧
      ∀ i < 4, ∃ translation,
        (kernel.vidmap layout screenStart).1.paging.walk layout (screenStart + i) =
            some translation ∧
          (kernel.vidmap layout screenStart).1.mem.read translation.physical =
            FileSystem.littleEndian 0x08400000 i
  pageDir : ∀ index, index ≠ 0x21 →
    (kernel.vidmap layout screenStart).1.paging.pageDir index = kernel.paging.pageDir index
  userPageTable : ∀ index, index ≠ 0 →
    (kernel.vidmap layout screenStart).1.paging.userPageTable index =
      kernel.paging.userPageTable index
  pageTable : (kernel.vidmap layout screenStart).1.paging.pageTable =
    kernel.paging.pageTable

/-- Either the pointer is refused and nothing changes, or it is stored. -/
def VidmapConfined (layout : KernelLayout) (kernel : Kernel) (screenStart : Nat) : Prop :=
  ((kernel.vidmap layout screenStart).2 = -1 ∧
    (kernel.vidmap layout screenStart).1.mem = kernel.mem ∧
    (kernel.vidmap layout screenStart).1.paging = kernel.paging) ∨
  StoresPointer layout kernel screenStart

theorem afterCopy_paging (kernel : Kernel) (copied : Copied PhysicalMemory) :
    (kernel.afterCopy copied).paging = kernel.paging := by
  unfold afterCopy
  split <;> rfl

theorem afterCopy_mem (kernel : Kernel) (copied : Copied PhysicalMemory) :
    (kernel.afterCopy copied).mem = copied.memory := by
  unfold afterCopy
  split <;> rfl

theorem afterCopy_running {kernel : Kernel} {copied : Copied PhysicalMemory}
    (running : (kernel.afterCopy copied).faulting = false) : copied.faulted = false := by
  unfold afterCopy at running
  split at running
  · exact nomatch running
  · exact Bool.eq_false_of_not_eq_true (by assumption)

/-- The pointer that `vidmap` has stored without a page fault. -/
theorem vidmap_pointer
    (inside : ¬(screenStart < userImgStart ∨ userImgEnd ≤ screenStart))
    (running : (kernel.vidmap layout screenStart).1.faulting = false) {i : Nat}
    (iLt : i < 4) :
    ∃ translation,
      (kernel.vidmap layout screenStart).1.paging.walk layout (screenStart + i) =
          some translation ∧
        (kernel.vidmap layout screenStart).1.mem.read translation.physical =
          FileSystem.littleEndian userImgEnd i := by
  rw [vidmap_of_inside inside] at running ⊢
  dsimp only at running ⊢
  have stored := of_decide_eq_false (afterCopy_running running)
  rw [vidmapStored, if_neg inside] at stored
  have le := reached_le
    (fun i => (kernel.videoPaging layout).maps layout (screenStart + i)) 4
  have mapped := reached_eq_iff.mp (Nat.le_antisymm le (Nat.le_of_not_lt stored))
  obtain ⟨translation, walked⟩ := Option.isSome_iff_exists.mp (mapped i iLt)
  have all : kernel.vidmapStored layout screenStart = 4 := by
    rw [vidmapStored, if_neg inside]
    omega
  have read := storeBytes_read (by decide) (FileSystem.littleEndian userImgEnd) kernel.mem
    mapped iLt
  rw [Paging.physicalOf, walked] at read
  refine ⟨translation, ?_, ?_⟩
  · rw [afterCopy_paging]
    exact walked
  · rw [afterCopy_mem, all]
    exact read

theorem storesPointer_of_safe
    (inside : ¬(screenStart < userImgStart ∨ userImgEnd ≤ screenStart))
    (safe : userImgEnd ≤ screenStart + 3 → kernel.paging.maps layout screenStart = false) :
    StoresPointer layout kernel screenStart := by
  obtain ⟨pageDir, userPageTable, pageTable⟩ := kernel.videoPaging_entries layout
  have paging : (kernel.vidmap layout screenStart).1.paging = kernel.videoPaging layout := by
    rw [vidmap_of_inside inside]
    exact afterCopy_paging _ _
  constructor
  · intro i iLt
    rw [vidmapStored, if_neg inside] at iLt
    obtain ⟨below, mapped⟩ := lt_reached_iff.mp iLt
    simp only [userImgStart, userImgEnd] at inside safe ⊢
    by_cases boundary : 0x8400000 ≤ screenStart + 3
    · have first := mapped 0 (Nat.zero_le i)
      rw [Nat.add_zero, kernel.videoPaging_maps_image layout (by omega),
        safe boundary] at first
      exact nomatch first
    · omega
  · intro running
    refine ⟨?_, fun i iLt => vidmap_pointer inside running iLt⟩
    rw [vidmap_of_inside inside]
    rfl
  · rw [paging]
    exact pageDir
  · rw [paging]
    exact userPageTable
  · rw [paging]
    exact pageTable

/-- `vidmap` keeps to the image page unless the pointer starts in its last three bytes,
from where the store runs into the page that `vidmap` has just mapped. -/
theorem vidmap_confined_iff (layout : KernelLayout) (kernel : Kernel) (screenStart : Nat) :
    VidmapConfined layout kernel screenStart ↔
      (0x083FFFFD ≤ screenStart → screenStart ≤ 0x083FFFFF →
        kernel.paging.maps layout screenStart = false) := by
  constructor
  · intro law low high
    have inside : ¬(screenStart < userImgStart ∨ userImgEnd ≤ screenStart) := by
      simp only [userImgStart, userImgEnd]
      omega
    rcases law with ⟨refused, -⟩ | stores
    · rw [vidmap_of_inside inside] at refused
      have accepted : ¬((userImgEnd : Nat) : Int) = -1 := by decide
      exact absurd refused accepted
    · by_contra mapped
      have last : 0x8400000 - screenStart < kernel.vidmapStored layout screenStart := by
        rw [vidmapStored, if_neg inside, lt_reached_iff]
        refine ⟨by omega, fun before beforeLe => ?_⟩
        by_cases same : before = 0x8400000 - screenStart
        · have position : screenStart + before = userImgEnd := by
            simp only [userImgEnd]
            omega
          rw [position]
          exact kernel.videoPaging_maps_video layout
        · rw [kernel.videoPaging_maps_image layout (by omega)]
          rw [← Bool.not_eq_true, not_not] at mapped
          rw [← mapped]
          exact PageWalk.walk_isSome_of_same_page _ (by omega)
      have wrong := (stores.inside _ last).2
      simp only [userImgEnd] at wrong
      omega
  · intro safe
    by_cases inside : screenStart < userImgStart ∨ userImgEnd ≤ screenStart
    · rw [VidmapConfined, vidmap_of_outside inside]
      exact Or.inl ⟨rfl, rfl, rfl⟩
    · refine Or.inr (storesPointer_of_safe inside fun boundary => ?_)
      simp only [userImgStart, userImgEnd] at inside boundary
      exact safe (by omega) (by omega)

/-- A pointer in the last byte of the image: three bytes of the stored pointer go to
the display. -/
theorem vidmap_stores_to_display :
    ¬VidmapConfined lowLayout (startedKernel.claimProcess 0) 0x083FFFFF ∧
      ((startedKernel.claimProcess 0).vidmap lowLayout 0x083FFFFF).2 = 0x08400000 ∧
      ((startedKernel.claimProcess 0).vidmap lowLayout 0x083FFFFF).1.faulting = false ∧
      ((startedKernel.claimProcess 0).vidmap lowLayout 0x083FFFFF).1.mem.read 0xB8001 =
        0x40 := by
  refine ⟨fun confined => ?_, rfl, by decide +kernel, by decide +kernel⟩
  rcases confined with ⟨refused, -⟩ | stores
  · exact absurd refused (by decide +kernel)
  · have wrong := stores.inside 1 (by decide +kernel)
    exact absurd wrong.2 (by decide)

end Kernel

end ChapOS
