import ChapOS.KeyEffects
import ChapOS.MemoryIsolation

/-!
# The terminals that are not displayed

While a terminal is not displayed, its screen is in its backing frame, its cursor
and `buffer_index` are in its entry of `terminals`, and nobody touches its key
buffer.  Saving puts what is displayed there, and restoring brings it back.
-/

namespace ChapOS

open CountedLoops

/-- The displayed terminal. -/
abbrev Kernel.displayed (kernel : Kernel) : Nat :=
  kernel.tty.keyboard.curTermId

/-- Everything but the saved screens of the terminals that are not displayed. -/
def displayedRegion (displayed : Nat) : Set Nat :=
  { address | ∀ id < 3, id ≠ displayed →
    address < backingFrame id ∨ backingFrame id + 4096 ≤ address }

theorem screenRegion_displayed (displayed : Nat) :
    screenRegion ⊆ displayedRegion displayed := by
  rintro address ⟨-, high⟩ id idLt -
  simp only [video] at high
  rw [backingFrame]
  omega

theorem displayedRegion_of_not_saved {displayed address : Nat}
    (notSaved : address ∉ savedScreens) : address ∈ displayedRegion displayed := by
  intro id idLt _
  by_cases inside : backingFrame id ≤ address ∧ address < backingFrame id + 4096
  · exact absurd ⟨id, idLt, inside⟩ notSaved
  · omega

/-- The terminals that are not displayed stay as they are saved. -/
structure KeepsHidden (kernel next : Kernel) : Prop where
  displayed : next.displayed = kernel.displayed
  terminals : next.terminals = kernel.terminals
  keys : ∀ id, id ≠ kernel.displayed →
    next.tty.keyboard.bufferKey id = kernel.tty.keyboard.bufferKey id
  memory : TracedMemory.StoresOnly (displayedRegion kernel.displayed) kernel.mem next.mem
  fits : next.tty.Fits

namespace KeepsHidden

variable {layout : KernelLayout} {fs : FileSystem} {first middle last kernel next : Kernel}

theorem refl (fits : kernel.tty.Fits) : KeepsHidden kernel kernel :=
  ⟨rfl, rfl, fun _ _ => rfl, .refl _ _, fits⟩

theorem trans (before : KeepsHidden first middle) (after : KeepsHidden middle last) :
    KeepsHidden first last where
  displayed := after.displayed.trans before.displayed
  terminals := after.terminals.trans before.terminals
  keys id hidden :=
    (after.keys id (before.displayed ▸ hidden)).trans (before.keys id hidden)
  memory := by
    have later := after.memory
    rw [before.displayed] at later
    exact before.memory.trans later
  fits := after.fits

/-- Only the keyboard, the screen and the saved terminals count. -/
theorem of_edits (edits : kernel.tty.Edits next.tty)
    (terminals : next.terminals = kernel.terminals) : KeepsHidden kernel next where
  displayed := edits.curTermId
  terminals := terminals
  keys := edits.keys
  memory := edits.memory.mono (screenRegion_displayed kernel.displayed)
  fits := edits.fits

theorem setMem (fits : kernel.tty.Fits) {mem : PhysicalMemory}
    (memory : TracedMemory.StoresOnly (displayedRegion kernel.displayed) kernel.mem mem) :
    KeepsHidden kernel (kernel.setMem mem) :=
  ⟨rfl, rfl, fun _ _ => rfl, memory,
    ⟨⟨fits.onScreen.left, fits.onScreen.right, fits.onScreen.top, fits.onScreen.bottom⟩,
      fits.bufferIndex⟩⟩

theorem print (fits : kernel.tty.Fits) (bytes : List UInt8) :
    KeepsHidden kernel (kernel.print bytes) :=
  of_edits (.putAll fits bytes) rfl

/-- A translation outside slot 5, with the displayed terminal's page mapped, leads to
no saved screen of another terminal. -/
theorem translate_displayed {mappings : Mappings} {displayed id linear : Nat}
    {translation : PageWalk.Translation}
    (translated : mappings.translate linear = some translation)
    (terminal : mappings.terminal = some displayed) (image : mappings.image = some id)
    (idLe : id ≤ 2) :
    translation.physical ∈ displayedRegion displayed := by
  intro other otherLt hidden
  rw [Mappings.translate, image, terminal] at translated
  simp only [backingFrame]
  split at translated
  · obtain rfl := Option.some.inj translated
    dsimp only
    omega
  split at translated
  · obtain rfl := Option.some.inj translated
    dsimp only
    omega
  split at translated
  · obtain rfl := Option.some.inj translated
    dsimp only
    omega
  split at translated
  · split at translated
    · obtain rfl := Option.some.inj translated
      dsimp only
      omega
    · cases translated
  split at translated
  · obtain rfl := Option.some.inj translated
    dsimp only
    omega
  · cases translated

/-- Loading a program for one of the first three slots. -/
theorem loadFor_storesOnly {mappings : Mappings}
    (represents : kernel.paging.Represents layout mappings)
    (terminal : mappings.terminal = some kernel.displayed) {id : Nat} (idLe : id ≤ 2)
    (fs : FileSystem) (inode : Nat) :
    TracedMemory.StoresOnly (displayedRegion kernel.displayed) kernel.mem
      (kernel.loadFor layout fs id inode).memory := by
  have claimed := Kernel.claimProcess_represents represents (show id ≤ 6 by omega)
  rw [Kernel.loadFor, Kernel.loadProgram]
  split
  · rw [FileSystem.readMapped]
    split
    · exact .refl _ _
    apply fs.readData_invariant fun (copied : Copied PhysicalMemory) =>
      TracedMemory.StoresOnly (displayedRegion kernel.displayed) kernel.mem copied.memory
    · intro i _ source current before
      refine Copied.assign_preserves (fun next assigned stored => ?_) before
      rw [Kernel.assignLinear, claimed.walk_eq (Nat.mod_lt _ (by decide))] at assigned
      split at assigned
      · obtain ⟨translation, translated, rfl⟩ := Option.map_eq_some_iff.mp assigned
        exact stored.andStore _ (translate_displayed translated terminal rfl idLe)
      · cases assigned
    · exact .refl _ _
  · exact .refl _ _

/-- `execute`, where it takes one of the first three slots. -/
theorem execute {mappings : Mappings}
    (represents : kernel.paging.Represents layout mappings)
    (terminal : mappings.terminal = some kernel.displayed) (fits : kernel.tty.Fits)
    (low : ∀ id, kernel.freeProcId = some id → id ≤ 2) (fs : FileSystem)
    (stale : StaleLocals) (command : Option (List UInt8)) :
    KeepsHidden kernel (kernel.execute layout fs stale command).1 := by
  have done := kernel.execute_cases layout fs stale command
  generalize kernel.execute layout fs stale command = result at done ⊢
  have loaded (bytes : List UInt8) (id inode : Nat) (idLe : id ≤ 2) :
      KeepsHidden kernel ((kernel.print bytes).setMem
        ((kernel.print bytes).loadFor layout fs id inode).memory) := by
    have printed := print fits bytes
    have printedRepresents : (kernel.print bytes).paging.Represents layout mappings :=
      represents
    have printedTerminal : mappings.terminal = some (kernel.print bytes).displayed :=
      terminal
    exact printed.trans (setMem printed.fits
      (loadFor_storesOnly printedRepresents printedTerminal idLe fs inode))
  cases done with
  | refused bytes => exact print fits bytes
  | headerFault bytes =>
      have printed := print fits bytes
      exact ⟨rfl, rfl, fun _ _ => rfl, printed.memory, printed.fits⟩
  | loadFault bytes inode id program free faulted =>
      have keeps := loaded bytes id inode (low id free)
      generalize ((kernel.print bytes).loadFor layout fs id inode).memory = mem at keeps ⊢
      exact ⟨rfl, rfl, fun _ _ => rfl, keeps.memory, keeps.fits⟩
  | started bytes inode id entryPoint arg program free isLoaded =>
      have keeps := loaded bytes id inode (low id free)
      generalize ((kernel.print bytes).loadFor layout fs id inode).memory = mem at keeps ⊢
      exact ⟨rfl, rfl, fun _ _ => rfl, keeps.memory, keeps.fits⟩

/-- `write` prints at most. -/
theorem write (fits : kernel.tty.Fits) (stale : StaleLocals) (fd : Int)
    (buf : Option CString) (nbytes : Int) :
    KeepsHidden kernel (kernel.write stale fd buf nbytes).1 := by
  rcases kernel.write_result stale fd buf nbytes with ⟨devices, wrote⟩ | ⟨bytes, wrote⟩
  · rw [wrote]
    exact of_edits (.refl fits) rfl
  · rw [wrote]
    exact of_edits (.putAll fits bytes) rfl

/-- A store of the program that misses the saved screens. -/
theorem userStore (fits : kernel.tty.Fits) {linear : Nat} (value : UInt8)
    (misses : ∀ translation, kernel.paging.walk layout linear = some translation →
      translation.physical ∉ savedScreens) :
    KeepsHidden kernel (kernel.userStore layout linear value) := by
  unfold Kernel.userStore
  cases walked : kernel.paging.walk layout linear with
  | none => exact refl fits
  | some translation =>
      dsimp only
      split
      · exact setMem fits (TracedMemory.store_storesOnly kernel.mem value
          (displayedRegion_of_not_saved (misses translation walked)))
      · exact refl fits

end KeepsHidden

section Saved

variable {layout : KernelLayout} {shown kernel next : Kernel} {id : Nat}

/-- The display is the same: the 4KB of video memory, the cursor, `buffer_index` and
the line before it. -/
structure SameDisplay (before after : Kernel) : Prop where
  screen : ∀ offset < 4096,
    after.mem.read (video + offset) = before.mem.read (video + offset)
  screenX : after.tty.console.screenX = before.tty.console.screenX
  screenY : after.tty.console.screenY = before.tty.console.screenY
  bufferIndex : after.tty.keyboard.bufferIndex = before.tty.keyboard.bufferIndex
  line : ∀ index < before.tty.keyboard.bufferIndex,
    after.tty.line index = before.tty.line index

/-- What another state displayed is saved for a terminal. -/
structure Saves (shown : Kernel) (id : Nat) (kernel : Kernel) : Prop where
  inUse : (kernel.terminals id).isInUseFlag = true
  screen : ∀ offset < 4096,
    kernel.mem.read (backingFrame id + offset) = shown.mem.read (video + offset)
  screenX : ((kernel.terminals id).x : Int) = shown.tty.console.screenX
  screenY : ((kernel.terminals id).y : Int) = shown.tty.console.screenY
  bufferIndex : (kernel.terminals id).bufferIndex = shown.tty.keyboard.bufferIndex
  line : ∀ index < shown.tty.keyboard.bufferIndex,
    (kernel.tty.keyboard.bufferKey id).read index = shown.tty.line index

/-- Its entry, its backing frame and its key buffer are all that counts. -/
theorem Saves.of_same (saves : Saves shown id kernel)
    (terminal : next.terminals id = kernel.terminals id)
    (screen : ∀ offset < 4096,
      next.mem.read (backingFrame id + offset) = kernel.mem.read (backingFrame id + offset))
    (keys : next.tty.keyboard.bufferKey id = kernel.tty.keyboard.bufferKey id) :
    Saves shown id next where
  inUse := by rw [terminal]; exact saves.inUse
  screen offset offsetLt := (screen offset offsetLt).trans (saves.screen offset offsetLt)
  screenX := by rw [terminal]; exact saves.screenX
  screenY := by rw [terminal]; exact saves.screenY
  bufferIndex := by rw [terminal]; exact saves.bufferIndex
  line index below := by rw [keys]; exact saves.line index below

/-- It stays saved while the terminal is not displayed. -/
theorem Saves.keepsHidden (saves : Saves shown id kernel) (idLt : id < 3)
    (hidden : id ≠ kernel.displayed) (keeps : KeepsHidden kernel next) :
    Saves shown id next := by
  apply saves.of_same
  · rw [keeps.terminals]
  · intro offset offsetLt
    apply keeps.memory.read_eq
    intro inRegion
    have outside := inRegion id idLt hidden
    omega
  · exact keeps.keys id hidden

/-- Saving the displayed terminal. -/
theorem saves_saveScreen (layout : KernelLayout) (same : SameDisplay shown kernel)
    (fits : kernel.tty.Fits)
    (inUse : (kernel.terminals kernel.displayed).isInUseFlag = true) :
    Saves shown kernel.displayed (kernel.saveScreen layout kernel.displayed) := by
  have ⟨left, right, top, bottom⟩ := fits.onScreen
  have terminals : (kernel.saveScreen layout kernel.displayed).terminals
      kernel.displayed = kernel.savedTerminal kernel.displayed :=
    Function.update_self _ _ _
  have bufferIndex : (kernel.savedTerminal kernel.displayed).bufferIndex =
      kernel.tty.keyboard.bufferIndex := rfl
  refine ⟨?_, ?_, ?_, ?_, ?_, ?_⟩
  · rw [terminals]
    exact inUse
  · intro offset offsetLt
    rw [← same.screen offset offsetLt]
    apply kernel.mem.copyRange_read _ offsetLt
    right
    simp only [video, backingFrame]
    omega
  · rw [terminals, ← same.screenX]
    show ((kernel.tty.console.screenX % 256).toNat : Int) = _
    omega
  · rw [terminals, ← same.screenY]
    show ((kernel.tty.console.screenY % 256).toNat : Int) = _
    omega
  · rw [terminals, bufferIndex, same.bufferIndex]
  · intro index below
    exact same.line index below

/-- Saving another terminal. -/
theorem Saves.saveScreen (saves : Saves shown id kernel) (layout : KernelLayout)
    {other : Nat} (different : id ≠ other) :
    Saves shown id (kernel.saveScreen layout other) := by
  apply saves.of_same
  · exact Function.update_of_ne different _ _
  · intro offset offsetLt
    apply (kernel.mem.copyRange_storesOnly (backingFrame other) video
      pageBytes4KB).read_eq
    rintro ⟨low, high⟩
    simp only [backingFrame, pageBytes4KB] at low high
    omega
  · rfl

/-- Restoring some terminal. -/
theorem Saves.restoreScreen (saves : Saves shown id kernel) (layout : KernelLayout)
    (other : Nat) : Saves shown id (kernel.restoreScreen layout other) := by
  apply saves.of_same
  · rfl
  · intro offset offsetLt
    apply (kernel.mem.copyRange_storesOnly video (backingFrame other)
      pageBytes4KB).read_eq
    rintro ⟨low, high⟩
    simp only [backingFrame, video, pageBytes4KB] at low high
    omega
  · rfl

/-- Marking another terminal as launched. -/
theorem Saves.markLaunched (saves : Saves shown id kernel) {other : Nat}
    (different : id ≠ other) : Saves shown id (kernel.markLaunched other) := by
  apply saves.of_same
  · exact Function.update_of_ne different _ _
  · intro offset _
    rfl
  · rfl

/-- Restoring the terminal and making it the displayed one. -/
theorem Saves.redisplayed (saves : Saves shown id kernel) (layout : KernelLayout)
    (bufferIndexLt : (kernel.terminals id).bufferIndex < 256) :
    SameDisplay shown ((kernel.restoreScreen layout id).setCurTermId id) := by
  refine ⟨?_, saves.screenX, saves.screenY, ?_, saves.line⟩
  · intro offset offsetLt
    rw [← saves.screen offset offsetLt]
    apply kernel.mem.copyRange_read _ offsetLt
    left
    simp only [video, backingFrame]
    omega
  · rw [← saves.bufferIndex]
    exact Nat.mod_eq_of_lt bufferIndexLt

end Saved

end ChapOS
