import ChapOS.KernelFrames

/-!
# Saving and restoring a screen

The copies of `terminal_save` and `terminal_restore` go through the page tables.
Where the tables represent the usual mappings they never fault, and come down to
one copy between the video page and the backing frame of a terminal.
-/

namespace ChapOS

open CountedLoops

/-- The physical address of the frame that `mapTermVID` gives a terminal. -/
def backingFrame (id : Nat) : Nat :=
  0x01C00000 + id * 4096

/-- The addresses at which the screens of the terminals are saved. -/
def savedScreens : Set Nat :=
  { address | ∃ id < 3, backingFrame id ≤ address ∧ address < backingFrame id + 4096 }

/-- The linear addresses from `linear` on translate to the physical addresses
from `physical` on. -/
def Mappings.MapsRange (mappings : Mappings) (linear physical count : Nat) : Prop :=
  ∀ index < count, ∃ translation,
    mappings.translate ((linear + index) % 2 ^ 32) = some translation ∧
      translation.physical = physical + index

namespace Mappings

variable {mappings : Mappings}

theorem translate_screen {linear : Nat} (inPage : 0xB8000 ≤ linear ∧ linear < 0xB9000) :
    mappings.translate linear = some ⟨linear, true, false⟩ := by
  rw [translate, if_neg (by omega), if_pos inPage]

theorem translate_backing {id linear : Nat} (mapped : mappings.terminal = some id)
    (inPage : 0x08401000 ≤ linear ∧ linear < 0x08402000) :
    mappings.translate linear =
      some ⟨0x01C00000 + id * 4096 + (linear - 0x08401000), true, true⟩ := by
  rw [translate, if_neg (by omega), if_neg (by omega), if_neg (by omega),
    if_neg (by omega), if_pos inPage, mapped]
  rfl

theorem mapsRange_screen : mappings.MapsRange 0xB8000 0xB8000 4096 := by
  intro index indexLt
  have same : (0xB8000 + index) % 2 ^ 32 = 0xB8000 + index := by omega
  rw [same]
  exact ⟨_, translate_screen (by omega), rfl⟩

theorem mapsRange_backing {id : Nat} (mapped : mappings.terminal = some id) :
    mappings.MapsRange 0x08401000 (backingFrame id) 4096 := by
  intro index indexLt
  have same : (0x08401000 + index) % 2 ^ 32 = 0x08401000 + index := by omega
  have offset : 0x08401000 + index - 0x08401000 = index := by omega
  rw [same]
  refine ⟨_, translate_backing mapped (by omega), ?_⟩
  rw [offset, backingFrame]

end Mappings

namespace Kernel

variable {layout : KernelLayout} {kernel : Kernel} {mappings : Mappings}

/-- A copy between mapped ranges does not fault. -/
theorem memcpy_eq (represents : kernel.paging.Represents layout mappings)
    {dest src n physicalDest physicalSrc : Nat}
    (target : mappings.MapsRange dest physicalDest n)
    (source : mappings.MapsRange src physicalSrc n) :
    kernel.memcpy layout dest src n =
      kernel.setMem (kernel.mem.copyRange physicalDest physicalSrc n) := by
  have copied (count : Nat) (within : count ≤ n) :
      forUpTo count
        (fun i => copyByte layout kernel.paging ((dest + i) % 2 ^ 32)
          ((src + i) % 2 ^ 32)) ⟨kernel.mem, false⟩ =
        ⟨kernel.mem.copyRange physicalDest physicalSrc count, false⟩ := by
    induction count with
    | zero => rfl
    | succ count ih =>
        obtain ⟨stored, storedMapped, storedPhysical⟩ := target count within
        obtain ⟨read, readMapped, readPhysical⟩ := source count within
        rw [forUpTo_succ, ih (by omega), copyByte,
          represents.walk_eq (Nat.mod_lt _ (by decide)),
          represents.walk_eq (Nat.mod_lt _ (by decide)), storedMapped, readMapped,
          TracedMemory.copyRange_succ, ← storedPhysical, ← readPhysical]
        rfl
  rw [memcpy, copied n (Nat.le_refl n)]
  rfl

theorem mapTermVID_represents (represents : kernel.paging.Represents layout mappings)
    {id : Nat} (idLt : id < 3) :
    (kernel.mapTermVID layout id).paging.Represents layout
      { mappings with terminal := some id } := by
  have called := represents.call (.mapTermVID id)
  rwa [Mappings.call, if_pos idLt] at called

/-- `terminal_save` where nothing faults. -/
def saveScreen (layout : KernelLayout) (kernel : Kernel) (id : Nat) : Kernel :=
  ((kernel.setTerminal id (kernel.savedTerminal id)).mapTermVID layout id).setMem
    (kernel.mem.copyRange (backingFrame id) video pageBytes4KB)

/-- `terminal_restore` where nothing faults. -/
def restoreScreen (layout : KernelLayout) (kernel : Kernel) (id : Nat) : Kernel :=
  (((kernel.placeCursor (kernel.terminals id).x (kernel.terminals id).y).mapTermVID
    layout id).setMem
      (kernel.mem.copyRange video (backingFrame id) pageBytes4KB)).setBufferIndex
        (kernel.terminals id).bufferIndex

@[simp]
theorem setMem_paging (mem : PhysicalMemory) : (kernel.setMem mem).paging = kernel.paging :=
  rfl

@[simp]
theorem setMem_terminals (mem : PhysicalMemory) :
    (kernel.setMem mem).terminals = kernel.terminals :=
  rfl

@[simp]
theorem setMem_faulting (mem : PhysicalMemory) :
    (kernel.setMem mem).faulting = kernel.faulting :=
  rfl

@[simp]
theorem setMem_keyboard (mem : PhysicalMemory) :
    (kernel.setMem mem).tty.keyboard = kernel.tty.keyboard :=
  rfl

@[simp]
theorem setMem_screenX (mem : PhysicalMemory) :
    (kernel.setMem mem).tty.console.screenX = kernel.tty.console.screenX :=
  rfl

@[simp]
theorem setMem_screenY (mem : PhysicalMemory) :
    (kernel.setMem mem).tty.console.screenY = kernel.tty.console.screenY :=
  rfl

@[simp]
theorem setMem_mem (mem : PhysicalMemory) : (kernel.setMem mem).mem = mem :=
  rfl

section Restored

variable (layout : KernelLayout) (kernel : Kernel) (id : Nat)

@[simp]
theorem restoreScreen_terminals :
    (kernel.restoreScreen layout id).terminals = kernel.terminals :=
  rfl

@[simp]
theorem restoreScreen_faulting :
    (kernel.restoreScreen layout id).faulting = kernel.faulting :=
  rfl

theorem restoreScreen_keyboard :
    (kernel.restoreScreen layout id).tty.keyboard =
      { kernel.tty.keyboard with
        bufferIndex := (kernel.terminals id).bufferIndex % 256 } :=
  rfl

@[simp]
theorem restoreScreen_screenX :
    (kernel.restoreScreen layout id).tty.console.screenX = (kernel.terminals id).x :=
  rfl

@[simp]
theorem restoreScreen_screenY :
    (kernel.restoreScreen layout id).tty.console.screenY = (kernel.terminals id).y :=
  rfl

end Restored

theorem saveScreen_represents (represents : kernel.paging.Represents layout mappings)
    {id : Nat} (idLt : id < 3) :
    (kernel.saveScreen layout id).paging.Represents layout
      { mappings with terminal := some id } :=
  mapTermVID_represents represents idLt

theorem restoreScreen_represents
    (represents : kernel.paging.Represents layout mappings) {id : Nat} (idLt : id < 3) :
    (kernel.restoreScreen layout id).paging.Represents layout
      { mappings with terminal := some id } :=
  mapTermVID_represents represents idLt

/-- Saving a terminal copies the video page to its backing frame. -/
theorem terminalSave_eq (represents : kernel.paging.Represents layout mappings)
    {id : Nat} (idLt : id < 3)
    (backing : (kernel.terminals id).termVidMem = termVirAddr) :
    kernel.terminalSave layout id = (kernel.saveScreen layout id, 0) := by
  have mapped : ((kernel.setTerminal id (kernel.savedTerminal id)).mapTermVID
      layout id).paging.Represents layout { mappings with terminal := some id } :=
    mapTermVID_represents represents idLt
  rw [terminalSave, if_neg (Nat.not_le_of_lt idLt), backing,
    memcpy_eq mapped (Mappings.mapsRange_backing rfl) Mappings.mapsRange_screen]
  rfl

/-- Restoring a terminal copies its backing frame to the video page. -/
theorem terminalRestore_eq (represents : kernel.paging.Represents layout mappings)
    {id : Nat} (idLt : id < 3)
    (backing : (kernel.terminals id).termVidMem = termVirAddr)
    (running : kernel.faulting = false) :
    kernel.terminalRestore layout id = (kernel.restoreScreen layout id, 0) := by
  have mapped : ((kernel.placeCursor (kernel.terminals id).x
      (kernel.terminals id).y).mapTermVID layout id).paging.Represents layout
        { mappings with terminal := some id } :=
    mapTermVID_represents represents idLt
  rw [terminalRestore, if_neg (Nat.not_le_of_lt idLt), backing,
    memcpy_eq mapped Mappings.mapsRange_screen (Mappings.mapsRange_backing rfl)]
  unfold unlessFaulting
  rw [if_neg]
  · rfl
  · exact Bool.eq_false_iff.mp running

theorem unlessFaulting_of_running {Value : Type} (faulted : Value)
    (next : Kernel → Kernel × Value) (running : kernel.faulting = false) :
    kernel.unlessFaulting faulted next = next kernel := by
  rw [unlessFaulting, running]
  rfl

/-- Setting the colour of a whole screen does not fault. -/
theorem colorScreen_eq (represents : kernel.paging.Represents layout mappings)
    {id count : Nat} (mapped : mappings.terminal = some id) (within : count ≤ 2048) :
    ∃ mem, kernel.colorScreen layout count = kernel.setMem mem := by
  have running : (forUpTo count
      (fun k => assignByte layout kernel.paging (termVirAddr + 2 * k + 1) terminalAttrib)
      ⟨kernel.mem, false⟩).faulted = false := by
    apply forUpTo_invariant fun _ (copied : Copied PhysicalMemory) =>
      copied.faulted = false
    · rfl
    · intro k kLt copied notFaulted
      rw [assignByte, notFaulted, represents.walk_eq (by simp only [termVirAddr]; omega),
        Mappings.translate_backing mapped (by simp only [termVirAddr]; omega)]
      rfl
  rw [colorScreen, afterCopy, running]
  exact ⟨_, rfl⟩

/-- The terminals below `count` are as the first loop of `init_terminals` leaves
them. -/
structure Cleared (layout : KernelLayout) (mappings : Mappings) (start kernel : Kernel)
    (count : Nat) : Prop where
  running : kernel.faulting = false
  represents : ∃ terminal,
    kernel.paging.Represents layout { mappings with terminal := terminal }
  terminals : ∀ id < count, kernel.terminals id = freshTerminal id
  console : kernel.tty = { start.tty with
    console := { start.tty.console with mem := kernel.mem } }

theorem cleared_initTerminal {start : Kernel} {count : Nat}
    (cleared : Cleared layout mappings start kernel count) (countLt : count < 3) :
    Cleared layout mappings start (initTerminal layout count kernel) (count + 1) := by
  obtain ⟨running, ⟨terminal, represents⟩, terminals, console⟩ := cleared
  have mapped : ((kernel.setTerminal count (freshTerminal count)).mapTermVID layout
      count).paging.Represents layout { mappings with terminal := some count } :=
    mapTermVID_represents represents countLt
  obtain ⟨mem, colored⟩ := colorScreen_eq mapped rfl
    (show numRows * numCols ≤ 2048 by decide)
  have notFaulting : ¬kernel.faulting = true := by rw [running]; exact Bool.noConfusion
  rw [initTerminal, if_neg notFaulting, colored]
  refine ⟨running, ⟨_, mapped⟩, ?_, ?_⟩
  · intro id idLt
    show Function.update kernel.terminals count (freshTerminal count) id = _
    by_cases last : id = count
    · rw [last, Function.update_self]
    · rw [Function.update_of_ne last]
      exact terminals id (by omega)
  · show ({ kernel.tty with console := { kernel.tty.console with mem := mem } } : Tty) = _
    rw [console]
    rfl

/-- The kernel where `init_terminals` starts the first shell. -/
structure Prepared (layout : KernelLayout) (mappings : Mappings) (kernel : Kernel) :
    Prop where
  running : kernel.faulting = false
  represents : kernel.paging.Represents layout { mappings with terminal := some 0 }
  backing : ∀ id < 3, (kernel.terminals id).termVidMem = termVirAddr
  inUse : ∀ id < 3, (kernel.terminals id).isInUseFlag = decide (id = 0)
  saved : ∀ id < 3, (kernel.terminals id).x = 0 ∧ (kernel.terminals id).y = 0 ∧
    (kernel.terminals id).bufferIndex = 0
  curTermId : kernel.tty.keyboard.curTermId = 0
  bufferIndex : kernel.tty.keyboard.bufferIndex = 0
  screenX : kernel.tty.console.screenX = 0
  screenY : kernel.tty.console.screenY = 0

/-- The first loop of `init_terminals`. -/
theorem cleared_terminals (represents : kernel.paging.Represents layout mappings)
    (running : kernel.faulting = false) :
    Cleared layout mappings kernel (forUpTo numTerm (initTerminal layout) kernel)
      numTerm := by
  apply forUpTo_invariant fun count current =>
    Cleared layout mappings kernel current count
  · exact ⟨running, ⟨_, represents⟩, fun _ idLt => absurd idLt (Nat.not_lt_zero _), rfl⟩
  · intro count countLt current cleared
    exact cleared_initTerminal cleared countLt

theorem prepareTerminals_prepared
    (represents : kernel.paging.Represents layout mappings)
    (running : kernel.faulting = false) :
    Prepared layout mappings (kernel.prepareTerminals layout).1 := by
  have cleared := cleared_terminals represents running
  rw [prepareTerminals]
  generalize forUpTo numTerm (initTerminal layout) kernel = filled at cleared
  obtain ⟨notFaulted, ⟨terminal, filledRepresents⟩, terminals, console⟩ := cleared
  rw [unlessFaulting_of_running _ _ notFaulted, displayFirst]
  have selected (id : Nat) (idLt : id < 3) : filled.selectFirst.terminals id =
      { freshTerminal id with isInUseFlag := decide (id = 0) } := by
    show Function.update filled.terminals 0
      { filled.terminals 0 with isInUseFlag := true } id = _
    by_cases isFirst : id = 0
    · rw [isFirst, Function.update_self, terminals 0 (by decide)]
      rfl
    · rw [Function.update_of_ne isFirst, terminals id idLt, decide_eq_false isFirst]
      rfl
  have backing : (filled.selectFirst.terminals terminalId0).termVidMem = termVirAddr := by
    rw [selected 0 (by decide)]
    rfl
  have selectedRepresents : filled.selectFirst.paging.Represents layout
      { mappings with terminal := terminal } := filledRepresents
  have placed : filled.selectFirst.terminals terminalId0 =
      { freshTerminal 0 with isInUseFlag := true } := selected 0 (by decide)
  rw [terminalRestore_eq selectedRepresents (by decide) backing notFaulted]
  have restored := restoreScreen_represents selectedRepresents
    (show terminalId0 < 3 by decide)
  rw [unlessFaulting_of_running _ _ (by rw [restoreScreen_faulting]; exact notFaulted),
    restoreScreen_terminals, backing, memcpy_eq restored Mappings.mapsRange_screen
    (Mappings.mapsRange_backing rfl)]
  refine ⟨?_, ?_, ?_, ?_, ?_, ?_, ?_, ?_, ?_⟩
  · rw [setMem_faulting, restoreScreen_faulting]
    exact notFaulted
  · rw [setMem_paging]
    exact restored
  · intro id idLt
    rw [setMem_terminals, restoreScreen_terminals, selected id idLt]
    rfl
  · intro id idLt
    rw [setMem_terminals, restoreScreen_terminals, selected id idLt]
  · intro id idLt
    rw [setMem_terminals, restoreScreen_terminals, selected id idLt]
    exact ⟨rfl, rfl, rfl⟩
  · rw [setMem_keyboard, restoreScreen_keyboard]
    rfl
  · rw [setMem_keyboard, restoreScreen_keyboard, placed]
    rfl
  · rw [setMem_screenX, restoreScreen_screenX, placed]
    rfl
  · rw [setMem_screenY, restoreScreen_screenY, placed]
    rfl

/-- The first shell is started on a prepared kernel. -/
theorem initTerminals_eq (fs : FileSystem) (stale : StaleLocals)
    (prepared : Prepared layout mappings (kernel.prepareTerminals layout).1) :
    kernel.initTerminals layout fs stale =
      returnZero
        ((kernel.prepareTerminals layout).1.execute layout fs stale shellCommand) := by
  rw [initTerminals, unlessFaulting_of_running _ _ prepared.running]

/-- Neither the terminals nor which of them is displayed has changed. -/
def SameMarks (before after : Kernel) : Prop :=
  after.terminals = before.terminals ∧
    after.tty.keyboard.curTermId = before.tty.keyboard.curTermId

theorem memcpy_sameMarks (layout : KernelLayout) (kernel : Kernel) (dest src n : Nat) :
    SameMarks kernel (kernel.memcpy layout dest src n) := by
  rw [memcpy, afterCopy]
  split
  · exact ⟨rfl, rfl⟩
  · exact ⟨rfl, rfl⟩

theorem SameMarks.restored {restored : Kernel} (marks : SameMarks kernel restored)
    (index : Nat) :
    SameMarks kernel
      (restored.unlessFaulting (-1 : Int) fun copied =>
        (copied.setBufferIndex index, 0)).1 := by
  unfold unlessFaulting
  split
  · exact marks
  · exact marks

/-- Restoring a terminal neither marks nor displays one, also where it faults. -/
theorem terminalRestore_sameMarks (layout : KernelLayout) (kernel : Kernel) (id : Nat) :
    SameMarks kernel (kernel.terminalRestore layout id).1 := by
  unfold terminalRestore
  split
  · exact ⟨rfl, rfl⟩
  · have copied := memcpy_sameMarks layout ((kernel.placeCursor (kernel.terminals id).x
      (kernel.terminals id).y).mapTermVID layout id) video (kernel.terminals id).termVidMem
        pageBytes4KB
    exact SameMarks.restored copied _

end Kernel

end ChapOS
