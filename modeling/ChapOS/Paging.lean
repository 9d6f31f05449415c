import ChapOS.CountedLoops
import ChapOS.KernelLayout
import ChapOS.MemoryMap
import ChapOS.PageWalk

/-!
# The page tables of `paging.c`

The page directory, the page table of the first 4MB and the page table of the
user-level video pages, with the functions that write their entries.  Every
entry is the raw word the source computes.
-/

namespace ChapOS

open CountedLoops

@[simp] abbrev pageDirectorySize : Nat := 1024
@[simp] abbrev pageTableSize : Nat := 1024
@[simp] abbrev hiPteMask : Nat := 0xFFFFF000
@[simp] abbrev pdEnableEntry : Nat := 0x00000003
@[simp] abbrev makeEntryPresent : Nat := 0x00000001
@[simp] abbrev enableRW : Nat := 0x00000002
@[simp] abbrev pdSet4MB : Nat := 0x00000080
@[simp] abbrev allowUserLevel : Nat := 0x00000004
@[simp] abbrev init4MBKernel : Nat := 0x400083
@[simp] abbrev pdeUserProg : Nat := 0x20
@[simp] abbrev pde8MBPhy : Nat := 0x00800000
@[simp] abbrev mask10Bits : Nat := 0x3ff
@[simp] abbrev enableUserEntry : Nat := 7
@[simp] abbrev maxUserImage : Nat := 6
@[simp] abbrev pageSize4KB : Nat := 4096
@[simp] abbrev msb10Bits : Nat := 22
@[simp] abbrev mid10Bits : Nat := 12
@[simp] abbrev hiVideo : Nat := 0xB8

/-- The arrays `page_dir`, `page_table` and `user_page_table`. -/
structure Paging where
  pageDir : Nat → Nat
  pageTable : Nat → Nat
  userPageTable : Nat → Nat

namespace Paging

/-- `page_dir[index] = entry`. -/
def setPageDir (paging : Paging) (index entry : Nat) : Paging :=
  { paging with pageDir := Function.update paging.pageDir index entry }

/-- `page_table[index] = entry`. -/
def setPageTable (paging : Paging) (index entry : Nat) : Paging :=
  { paging with pageTable := Function.update paging.pageTable index entry }

/-- `user_page_table[index] = entry`. -/
def setUserPageTable (paging : Paging) (index entry : Nat) : Paging :=
  { paging with userPageTable := Function.update paging.userPageTable index entry }

/-- `new_userVID_page`. -/
def newUserVIDPage (layout : KernelLayout) (paging : Paging) (virAddr : Nat) :
    Paging :=
  (paging.setPageDir (virAddr >>> msb10Bits)
      (layout.userPageTableAddr ||| enableUserEntry)).setUserPageTable
    ((virAddr >>> mid10Bits) &&& mask10Bits) (video ||| enableUserEntry)

/-- `mapTermVID`. -/
def mapTermVID (layout : KernelLayout) (paging : Paging) (termId : Nat) :
    Paging × Int :=
  if numTerm ≤ termId then (paging, -1)
  else
    ((paging.setPageDir (termVirAddr >>> msb10Bits)
        (layout.userPageTableAddr ||| enableUserEntry)).setUserPageTable
      ((termVirAddr >>> mid10Bits) &&& mask10Bits)
      ((termPhyAddr + termId * pageSize4KB) ||| enableUserEntry), 0)

/-- The loop of `initialize_paging` that clears all three tables. -/
def clearTables (paging : Paging) : Paging where
  pageDir := forUpTo pageTableSize
    (fun i table => Function.update table i 0) paging.pageDir
  pageTable := forUpTo pageTableSize
    (fun i table => Function.update table i 0) paging.pageTable
  userPageTable := forUpTo pageTableSize
    (fun i table => Function.update table i 0) paging.userPageTable

/-- `initialize_paging`. -/
def initializePaging (layout : KernelLayout) (paging : Paging) : Paging :=
  let cleared := paging.clearTables
  let low := cleared.setPageDir 0
    ((layout.pageTableAddr &&& hiPteMask) ||| enableRW ||| makeEntryPresent)
  let screen := low.setPageTable hiVideo video
  let screenPresent := screen.setPageTable hiVideo
    (screen.pageTable hiVideo ||| (makeEntryPresent ||| enableRW))
  screenPresent.setPageDir 1 (screenPresent.pageDir 1 ||| init4MBKernel)

/-- The directory entry that `mapUserImgPage` writes. -/
def userImgEntry (processId : Nat) : Nat :=
  (processId + 2) * pde8MBPhy / 2 ||| pdSet4MB ||| allowUserLevel ||| pdEnableEntry

/-- `mapUserImgPage`. -/
def mapUserImgPage (paging : Paging) (processId : Int) : Paging × Int :=
  if (maxUserImage : Int) < processId ∨ processId < 0 then (paging, -1)
  else (paging.setPageDir pdeUserProg (userImgEntry processId.toNat), 0)

/-- What the processor finds when it walks the tables. -/
def tables (layout : KernelLayout) (paging : Paging) : PageWalk.Tables where
  directory := paging.pageDir
  tableAt frame :=
    if frame = layout.pageTableAddr then some paging.pageTable
    else if frame = layout.userPageTableAddr then some paging.userPageTable
    else none

/-- Translate a linear address. -/
def walk (layout : KernelLayout) (paging : Paging) (linear : Nat) :
    Option PageWalk.Translation :=
  PageWalk.walk (paging.tables layout) linear

end Paging

end ChapOS
