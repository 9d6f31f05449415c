import ChapOS.HiddenTerminals
import ChapOS.SlotRuns

/-!
# Switching terminals

Launching a terminal and changing to one both save the terminal that is displayed
before they restore the other, so that every terminal in use is displayed or saved.
Saved cursors fit their bytes, and a new terminal always finds a process id low
enough for its shell's image not to meet the saved screens.
-/

namespace ChapOS

open CountedLoops

section Switching

variable {layout : KernelLayout} {fs : FileSystem} {shown kernel next : Kernel}
  {id target : Nat}

/-- The number of terminals in use. -/
def launched (terminals : Nat → Term) : Nat :=
  (terminals 0).isInUseFlag.toNat + (terminals 1).isInUseFlag.toNat +
    (terminals 2).isInUseFlag.toNat

/-- Where a screen is saved or restored, its pages are mapped. -/
structure ScreensMapped (layout : KernelLayout) (kernel : Kernel) : Prop where
  represents : ∃ mappings, kernel.paging.Represents layout mappings
  backing : HasBacking kernel
  displayedLt : kernel.displayed < 3

/-- What all events of the terminals keep: no more processes live than terminals are
in use, and what is saved fits its bytes. -/
structure Switching (layout : KernelLayout) (kernel : Kernel) : Prop where
  represents : ∃ mappings, kernel.paging.Represents layout mappings
  backing : HasBacking kernel
  displayedLt : kernel.displayed < 3
  inUse : (kernel.terminals kernel.displayed).isInUseFlag = true
  fits : kernel.tty.Fits
  saved : ∀ id < 3, (kernel.terminals id).x < 80 ∧ (kernel.terminals id).y < 25 ∧
    (kernel.terminals id).bufferIndex < 256
  free : ∀ id, launched kernel.terminals ≤ id → kernel.procIdFlags id = 0

/-- What an event does to the terminals: one that is not displayed after it is saved
as it was displayed or saved before, and one that comes to be displayed is displayed
as it was saved. -/
structure Switches (kernel next : Kernel) : Prop where
  saves : ∀ shown, ∀ id < 3, id ≠ next.displayed →
    (id = kernel.displayed → SameDisplay shown kernel) →
    (id ≠ kernel.displayed → Saves shown id kernel) → Saves shown id next
  shows : ∀ shown, next.displayed ≠ kernel.displayed →
    Saves shown next.displayed kernel → SameDisplay shown next

theorem KeepsHidden.switches (keeps : KeepsHidden kernel next) :
    Switches kernel next := by
  refine ⟨fun shown id idLt hidden _ saves => ?_, fun shown different _ => ?_⟩
  · rw [keeps.displayed] at hidden
    exact (saves hidden).keepsHidden idLt hidden keeps
  · exact absurd keeps.displayed different

theorem Switching.keeps (switching : Switching layout kernel)
    (hidden : KeepsHidden kernel next)
    (represents : ∃ mappings, next.paging.Represents layout mappings)
    (free : ∀ id, launched kernel.terminals ≤ id → next.procIdFlags id = 0) :
    Switching layout next where
  represents := represents
  backing := by rw [HasBacking, hidden.terminals]; exact switching.backing
  displayedLt := by rw [hidden.displayed]; exact switching.displayedLt
  inUse := by rw [hidden.displayed, hidden.terminals]; exact switching.inUse
  fits := hidden.fits
  saved := by rw [hidden.terminals]; exact switching.saved
  free := by rw [hidden.terminals]; exact free

/-- The first process id that is free is not above one that is free. -/
theorem freeProcId_le {free : Nat} (isFree : kernel.procIdFlags free = 0)
    (found : kernel.freeProcId = some id) : id ≤ free := by
  have scan (remaining i : Nat) (low : i ≤ free)
      (found : Kernel.freeProcIdFrom kernel.procIdFlags remaining i = some id) :
      id ≤ free := by
    induction remaining generalizing i with
    | zero => exact nomatch found
    | succ remaining ih =>
        rw [Kernel.freeProcIdFrom] at found
        split at found
        · exact Option.some.inj found ▸ low
        · rename_i taken
          have notFree : i ≠ free := fun same => taken (same ▸ isFree)
          exact ih (i + 1) (by omega) found
  exact scan maxProcesses 0 (Nat.zero_le free) found

/-- `execute` takes the first free process id at most. -/
theorem execute_free (layout : KernelLayout) (fs : FileSystem) (stale : StaleLocals)
    (command : Option (List UInt8)) {count : Nat}
    (free : ∀ id, count ≤ id → kernel.procIdFlags id = 0) :
    ∀ id, count + 1 ≤ id →
      (kernel.execute layout fs stale command).1.procIdFlags id = 0 := by
  intro id above
  have done := kernel.execute_cases layout fs stale command
  generalize kernel.execute layout fs stale command = result at done ⊢
  have claims {taken : Nat} (found : kernel.freeProcId = some taken) :
      Function.update kernel.procIdFlags taken 1 id = 0 := by
    have low := freeProcId_le (free count (Nat.le_refl count)) found
    rw [Function.update_of_ne (by omega)]
    exact free id (by omega)
  cases done with
  | refused bytes => exact free id (by omega)
  | headerFault bytes => exact free id (by omega)
  | loadFault bytes inode taken program found faulted => exact claims found
  | started bytes inode taken entryPoint arg program found loaded => exact claims found

theorem saveScreen_isInUseFlag (layout : KernelLayout) (kernel : Kernel) (saved id : Nat) :
    ((kernel.saveScreen layout saved).terminals id).isInUseFlag =
      (kernel.terminals id).isInUseFlag := by
  show (Function.update kernel.terminals saved (kernel.savedTerminal saved)
    id).isInUseFlag = _
  rw [Function.update_apply]
  split
  · rename_i same
    rw [same]
    rfl
  · rfl

theorem launched_saveScreen (layout : KernelLayout) (kernel : Kernel) (saved : Nat) :
    launched (kernel.saveScreen layout saved).terminals = launched kernel.terminals := by
  rw [launched, saveScreen_isInUseFlag, saveScreen_isInUseFlag, saveScreen_isInUseFlag,
    launched]

theorem Switching.screensMapped (switching : Switching layout kernel) :
    ScreensMapped layout kernel :=
  ⟨switching.represents, switching.backing, switching.displayedLt⟩

theorem ScreensMapped.saveScreen (mapped : ScreensMapped layout kernel) :
    ScreensMapped layout (kernel.saveScreen layout kernel.displayed) := by
  obtain ⟨mappings, represents⟩ := mapped.represents
  refine ⟨⟨_, Kernel.saveScreen_represents represents mapped.displayedLt⟩,
    fun id idLt => ?_, mapped.displayedLt⟩
  show (Function.update kernel.terminals kernel.displayed
    (kernel.savedTerminal kernel.displayed) id).termVidMem = termVirAddr
  rw [Function.update_apply]
  split
  · exact mapped.backing kernel.displayed mapped.displayedLt
  · exact mapped.backing id idLt

/-- The saved terminals once the displayed one is saved. -/
theorem Switching.saveScreen (switching : Switching layout kernel) :
    Switching layout (kernel.saveScreen layout kernel.displayed) := by
  have mapped := @ScreensMapped.saveScreen layout kernel switching.screensMapped
  have ⟨left, right, top, bottom⟩ := switching.fits.onScreen
  have terminals : (kernel.saveScreen layout kernel.displayed).terminals =
      Function.update kernel.terminals kernel.displayed
        (kernel.savedTerminal kernel.displayed) := rfl
  refine
    { represents := mapped.represents
      backing := mapped.backing
      displayedLt := mapped.displayedLt
      inUse := (saveScreen_isInUseFlag layout kernel _ _).trans switching.inUse
      fits := ⟨⟨left, right, top, bottom⟩, switching.fits.bufferIndex⟩
      saved := fun id idLt => ?_
      free := ?_ }
  · rw [terminals, Function.update_apply]
    split
    · refine ⟨?_, ?_, switching.fits.bufferIndex⟩
      · show (kernel.tty.console.screenX % 256).toNat < 80
        omega
      · show (kernel.tty.console.screenY % 256).toNat < 25
        omega
    · exact switching.saved id idLt
  · rw [launched_saveScreen]
    exact switching.free

/-- Once the displayed terminal is saved, they all are. -/
theorem Switching.saves_displayed (switching : Switching layout kernel)
    (displays : id = kernel.displayed → SameDisplay shown kernel)
    (saves : id ≠ kernel.displayed → Saves shown id kernel) :
    Saves shown id (kernel.saveScreen layout kernel.displayed) := by
  by_cases isDisplayed : id = kernel.displayed
  · subst isDisplayed
    exact saves_saveScreen layout (displays rfl) switching.fits switching.inUse
  · exact (saves isDisplayed).saveScreen layout isDisplayed

/-- Restoring a terminal, whose cursor was on the screen when it was saved. -/
theorem Switching.restoreScreen (switching : Switching layout kernel)
    (targetLt : target < 3) : Switching layout (kernel.restoreScreen layout target) := by
  obtain ⟨mappings, represents⟩ := switching.represents
  have ⟨xLt, yLt, bufferIndexLt⟩ := switching.saved target targetLt
  refine
    { represents := ⟨_, Kernel.restoreScreen_represents represents targetLt⟩
      backing := switching.backing
      displayedLt := switching.displayedLt
      inUse := switching.inUse
      fits := ⟨⟨?_, ?_, ?_, ?_⟩, ?_⟩
      saved := switching.saved
      free := switching.free }
  · rw [Kernel.restoreScreen_screenX]
    omega
  · rw [Kernel.restoreScreen_screenX]
    omega
  · rw [Kernel.restoreScreen_screenY]
    omega
  · rw [Kernel.restoreScreen_screenY]
    omega
  · rw [Kernel.restoreScreen_keyboard]
    exact Nat.mod_lt _ (by decide)

/-- Displaying another terminal in use. -/
theorem Switching.setCurTermId (switching : Switching layout kernel)
    (targetLt : target < 3) (inUse : (kernel.terminals target).isInUseFlag = true) :
    Switching layout (kernel.setCurTermId target) where
  represents := switching.represents
  backing := switching.backing
  displayedLt := targetLt
  inUse := inUse
  fits := ⟨switching.fits.onScreen, switching.fits.bufferIndex⟩
  saved := switching.saved
  free := switching.free

theorem Switching.mapTermVID (switching : Switching layout kernel)
    (targetLt : target < 3) : Switching layout (kernel.mapTermVID layout target) where
  represents := by
    obtain ⟨mappings, represents⟩ := switching.represents
    exact ⟨_, Kernel.mapTermVID_represents represents targetLt⟩
  backing := switching.backing
  displayedLt := switching.displayedLt
  inUse := switching.inUse
  fits := ⟨switching.fits.onScreen, switching.fits.bufferIndex⟩
  saved := switching.saved
  free := switching.free

/-- The kernel once the displayed terminal is saved and another one displayed. -/
def Kernel.switched (layout : KernelLayout) (kernel : Kernel) (target : Nat) : Kernel :=
  (((kernel.saveScreen layout kernel.displayed).restoreScreen layout target).setCurTermId
    target).mapTermVID layout target

theorem terminalChange_eq (mapped : ScreensMapped layout kernel)
    (running : kernel.faulting = false) (targetLt : target < 3) :
    kernel.terminalChange layout target =
      (kernel.switched layout target, .returned 0) := by
  obtain ⟨mappings, represents⟩ := mapped.represents
  have displayedLt := mapped.displayedLt
  have saved := Kernel.saveScreen_represents represents displayedLt
  have savedRunning : (kernel.saveScreen layout kernel.displayed).faulting = false :=
    running
  have restoredRunning : ((kernel.saveScreen layout kernel.displayed).restoreScreen layout
      target).faulting = false := running
  have notFailed : ¬(0 : Int) = -1 := by decide
  rw [Kernel.terminalChange, if_neg (Nat.not_le_of_lt targetLt),
    Kernel.terminalSave_eq represents displayedLt
      (mapped.backing kernel.displayed displayedLt),
    Kernel.unlessFaulting_of_running _ _ savedRunning, if_neg notFailed,
    Kernel.changeSaved, Kernel.terminalRestore_eq saved targetLt
      (mapped.saveScreen.backing target targetLt) savedRunning,
    Kernel.unlessFaulting_of_running _ _ restoredRunning, if_neg notFailed]
  rfl

/-- Changing to a terminal in use. -/
theorem Switching.change (switching : Switching layout kernel)
    (running : kernel.faulting = false) (targetLt : target < 3)
    (different : target ≠ kernel.displayed)
    (inUse : (kernel.terminals target).isInUseFlag = true) :
    Switching layout (kernel.terminalChange layout target).1 ∧
      Switches kernel (kernel.terminalChange layout target).1 := by
  rw [terminalChange_eq switching.screensMapped running targetLt]
  have saved := switching.saveScreen
  have restored := saved.restoreScreen targetLt
  refine ⟨?_, ?_, ?_⟩
  · refine (restored.setCurTermId targetLt ?_).mapTermVID targetLt
    exact (saveScreen_isInUseFlag layout kernel _ _).trans inUse
  · intro shown id idLt hidden displays saves
    have kept := switching.saves_displayed displays saves
    exact (kept.restoreScreen layout target).of_same rfl (fun _ _ => rfl) rfl
  · intro shown _ saves
    have kept : Saves shown target (kernel.saveScreen layout kernel.displayed) :=
      saves.saveScreen layout different
    have same := kept.redisplayed layout (saved.saved target targetLt).2.2
    exact ⟨same.screen, same.screenX, same.screenY, same.bufferIndex, same.line⟩

/-- The kernel where `terminal_launch` starts its shell. -/
def Kernel.launching (layout : KernelLayout) (kernel : Kernel) (target : Nat) : Kernel :=
  let restored := ((kernel.saveScreen layout kernel.displayed).markLaunched
    target).restoreScreen layout target
  restored.setDevices (restored.devices.enableIrq keyboardIrq)

theorem launching_displayed (layout : KernelLayout) (kernel : Kernel) (target : Nat) :
    (kernel.launching layout target).displayed = target := by
  generalize isSaved : kernel.saveScreen layout kernel.displayed = saved
  rw [Kernel.launching, isSaved]
  show (((saved.markLaunched target).restoreScreen layout target).tty.keyboard).curTermId =
    target
  rw [Kernel.restoreScreen_keyboard]
  rfl

theorem terminalLaunch_eq (mapped : ScreensMapped layout kernel)
    (running : kernel.faulting = false) (targetLt : target < 3)
    (different : target ≠ kernel.displayed) (fs : FileSystem) (stale : StaleLocals) :
    kernel.terminalLaunch layout fs stale target =
      Kernel.returnZero ((kernel.launching layout target).execute layout fs stale
        Kernel.shellCommand) := by
  obtain ⟨mappings, represents⟩ := mapped.represents
  have displayedLt := mapped.displayedLt
  have saved : ((kernel.saveScreen layout kernel.displayed).markLaunched
      target).paging.Represents layout { mappings with terminal := some kernel.displayed } :=
    Kernel.saveScreen_represents represents displayedLt
  have savedRunning : (kernel.saveScreen layout kernel.displayed).faulting = false :=
    running
  have markedRunning : ((kernel.saveScreen layout kernel.displayed).markLaunched
      target).faulting = false := running
  have restoredRunning : (((kernel.saveScreen layout kernel.displayed).markLaunched
      target).restoreScreen layout target).faulting = false := running
  have backing : (((kernel.saveScreen layout kernel.displayed).markLaunched
      target).terminals target).termVidMem = termVirAddr := by
    show (Function.update (kernel.saveScreen layout kernel.displayed).terminals target _
      target).termVidMem = _
    rw [Function.update_self]
    exact mapped.saveScreen.backing target targetLt
  have notFailed : ¬(0 : Int) = -1 := by decide
  have inRange : ¬(numTerm ≤ target ∨ numTerm ≤ kernel.displayed) := by
    simp only [numTerm]
    omega
  rw [Kernel.terminalLaunch, if_neg different, if_neg inRange,
    Kernel.terminalSave_eq represents displayedLt
      (mapped.backing kernel.displayed displayedLt),
    Kernel.unlessFaulting_of_running _ _ savedRunning, if_neg notFailed,
    Kernel.launchSaved, Kernel.terminalRestore_eq saved targetLt backing markedRunning,
    Kernel.unlessFaulting_of_running _ _ restoredRunning]
  rfl

theorem launched_le_three (terminals : Nat → Term) : launched terminals ≤ 3 := by
  have first := Bool.toNat_le (terminals 0).isInUseFlag
  have second := Bool.toNat_le (terminals 1).isInUseFlag
  have third := Bool.toNat_le (terminals 2).isInUseFlag
  rw [launched]
  omega

theorem launched_update {terminals : Nat → Term} (targetLt : target < 3)
    (unused : (terminals target).isInUseFlag = false) {terminal : Term}
    (used : terminal.isInUseFlag = true) :
    launched (Function.update terminals target terminal) = launched terminals + 1 := by
  rcases show target = 0 ∨ target = 1 ∨ target = 2 by omega with rfl | rfl | rfl
  · simp [launched, used, unused]
    omega
  · simp [launched, used, unused]
    omega
  · simp [launched, used, unused]

/-- Marking a terminal as launched, which is one more in use. -/
theorem Switching.markLaunched (switching : Switching layout kernel)
    (targetLt : target < 3) (unused : (kernel.terminals target).isInUseFlag = false) :
    Switching layout (kernel.markLaunched target) := by
  have terminals : (kernel.markLaunched target).terminals =
      Function.update kernel.terminals target
        { kernel.terminals target with isInUseFlag := true } := rfl
  refine
    { represents := switching.represents
      backing := fun id idLt => ?_
      displayedLt := targetLt
      inUse := ?_
      fits := ⟨switching.fits.onScreen, switching.fits.bufferIndex⟩
      saved := fun id idLt => ?_
      free := fun id above => ?_ }
  · rw [terminals, Function.update_apply]
    split
    · exact switching.backing target targetLt
    · exact switching.backing id idLt
  · show ((kernel.markLaunched target).terminals target).isInUseFlag = true
    rw [terminals, Function.update_self]
  · rw [terminals, Function.update_apply]
    split
    · exact switching.saved target targetLt
    · exact switching.saved id idLt
  · rw [terminals, launched_update targetLt unused rfl] at above
    exact switching.free id (by omega)

theorem Switching.setDevices (switching : Switching layout kernel) (devices : Devices) :
    Switching layout (kernel.setDevices devices) where
  represents := switching.represents
  backing := switching.backing
  displayedLt := switching.displayedLt
  inUse := switching.inUse
  fits := ⟨switching.fits.onScreen, switching.fits.bufferIndex⟩
  saved := switching.saved
  free := switching.free

theorem execute_represents (represents : ∃ mappings,
      kernel.paging.Represents layout mappings) (fs : FileSystem) (stale : StaleLocals)
    (command : Option (List UInt8)) :
    ∃ mappings, (kernel.execute layout fs stale command).1.paging.Represents layout
      mappings := by
  have done := kernel.execute_cases layout fs stale command
  generalize kernel.execute layout fs stale command = result at done ⊢
  have claimed {id : Nat} (free : kernel.freeProcId = some id) :
      ∃ mappings, (kernel.claimProcess id).paging.Represents layout mappings := by
    obtain ⟨mappings, represents⟩ := represents
    obtain ⟨-, -, idLt⟩ := Kernel.flag_of_freeProcIdFrom free
    simp only [maxProcesses] at idLt
    exact ⟨_, Kernel.claimProcess_represents represents (show id ≤ 6 by omega)⟩
  cases done with
  | refused bytes => exact represents
  | headerFault bytes => exact represents
  | loadFault bytes inode id program free faulted => exact claimed free
  | started bytes inode id entryPoint arg program free loaded => exact claimed free

/-- Starting a program, while one terminal more is in use than processes live. -/
theorem Switching.execute (switching : Switching layout kernel)
    (mapped : ∃ mappings, kernel.paging.Represents layout mappings ∧
      mappings.terminal = some kernel.displayed)
    {count : Nat} (free : ∀ id, count ≤ id → kernel.procIdFlags id = 0)
    (ahead : launched kernel.terminals = count + 1) (fs : FileSystem)
    (stale : StaleLocals) (command : Option (List UInt8)) :
    Switching layout (kernel.execute layout fs stale command).1 ∧
      KeepsHidden kernel (kernel.execute layout fs stale command).1 := by
  obtain ⟨mappings, represents, terminal⟩ := mapped
  have atMost : launched kernel.terminals ≤ 3 := launched_le_three kernel.terminals
  have hidden : KeepsHidden kernel (kernel.execute layout fs stale command).1 := by
    apply KeepsHidden.execute represents terminal switching.fits
    intro id found
    have low := freeProcId_le (free count (Nat.le_refl count)) found
    omega
  refine ⟨switching.keeps hidden ?_ ?_, hidden⟩
  · exact execute_represents switching.represents fs stale command
  · rw [ahead]
    exact execute_free layout fs stale command free

/-- Launching a terminal that is not in use. -/
theorem Switching.launch (switching : Switching layout kernel)
    (running : kernel.faulting = false) (targetLt : target < 3)
    (unused : (kernel.terminals target).isInUseFlag = false) (fs : FileSystem)
    (stale : StaleLocals) :
    Switching layout (kernel.terminalLaunch layout fs stale target).1 ∧
      Switches kernel (kernel.terminalLaunch layout fs stale target).1 := by
  have different : target ≠ kernel.displayed := by
    rintro rfl
    rw [switching.inUse] at unused
    exact nomatch unused
  have saved := switching.saveScreen
  have savedUnused := (saveScreen_isInUseFlag layout kernel kernel.displayed
    target).trans unused
  have marked := saved.markLaunched targetLt savedUnused
  have restored := marked.restoreScreen targetLt
  have launching : Switching layout (kernel.launching layout target) :=
    restored.setDevices _
  have ahead : launched (kernel.launching layout target).terminals =
      launched kernel.terminals + 1 := by
    rw [← launched_saveScreen layout kernel kernel.displayed]
    exact launched_update targetLt savedUnused rfl
  have mapped : ∃ mappings, (kernel.launching layout target).paging.Represents layout
      mappings ∧ mappings.terminal = some (kernel.launching layout target).displayed := by
    rw [launching_displayed, Kernel.launching]
    generalize kernel.saveScreen layout kernel.displayed = saved at marked ⊢
    obtain ⟨mappings, represents⟩ := marked.represents
    exact ⟨_, Kernel.restoreScreen_represents represents targetLt, rfl⟩
  have started := launching.execute mapped switching.free ahead fs stale
    Kernel.shellCommand
  rw [terminalLaunch_eq switching.screensMapped running targetLt different, Kernel.returnZero_kernel]
  refine ⟨started.1, ?_, ?_⟩
  · intro shown id idLt hidden displays saves
    have displayed := started.2.displayed
    rw [launching_displayed] at displayed
    rw [displayed] at hidden
    have kept := (switching.saves_displayed displays saves).markLaunched hidden
    have later : Saves shown id (kernel.launching layout target) :=
      (kept.restoreScreen layout target).of_same rfl (fun _ _ => rfl) rfl
    exact later.keepsHidden idLt (by rwa [launching_displayed]) started.2
  · intro shown _ saves
    rw [started.2.displayed, launching_displayed] at saves
    exact absurd (saves.inUse.symm.trans unused) Bool.noConfusion

/-- A request for the terminal displayed, or for one that does not exist, changes
nothing. -/
theorem terminalLoS_of_no_request (layout : KernelLayout) (fs : FileSystem)
    (stale : StaleLocals) (request : target = kernel.displayed ∨ 3 ≤ target) :
    (kernel.terminalLoS layout fs stale target).1 = kernel := by
  unfold Kernel.terminalLoS
  split
  · rfl
  · rename_i inRange
    have same : target = kernel.displayed := by
      simp only [numTerm] at inRange
      omega
    rw [if_pos same]

/-- Any request for a terminal. -/
theorem Switching.terminalLoS (switching : Switching layout kernel)
    (running : kernel.faulting = false) (fs : FileSystem) (stale : StaleLocals)
    (target : Nat) :
    Switching layout (kernel.terminalLoS layout fs stale target).1 ∧
      Switches kernel (kernel.terminalLoS layout fs stale target).1 := by
  by_cases request : target = kernel.displayed ∨ 3 ≤ target
  · rw [terminalLoS_of_no_request layout fs stale request]
    exact ⟨switching, (KeepsHidden.refl switching.fits).switches⟩
  · have targetLt : target < 3 := by omega
    have different : target ≠ kernel.displayed := by omega
    rw [Kernel.terminalLoS, if_neg (Nat.not_le_of_lt targetLt), if_neg different]
    split
    · rename_i inUse
      exact switching.change running targetLt different inUse
    · rename_i unused
      exact switching.launch running targetLt (Bool.eq_false_of_not_eq_true unused) fs stale

end Switching

section Runs

variable {layout : KernelLayout} {fs : FileSystem} {boot kernel next : Kernel}
  {event : Event} {outcome : Outcome}

/-- Keys other than Ctrl+C, writes of the programs, and what interrupts and system
calls take to get in and out of the kernel.  A program stores to no saved screen. -/
def Kernel.TerminalEvent (layout : KernelLayout) (kernel : Kernel) : Event → Prop
  | .keyboard key _ => (kernel.tty.handleKey key).2 ≠ .halt
  | .fileCall (.write _ _ _) _ => True
  | .userStore linear _ =>
      ∀ translation, kernel.paging.walk layout linear = some translation →
        translation.physical ∉ savedScreens
  | .trap | .iret | .moveStack _ _ | .print _ | .rtcInterrupt | .pitInterrupt => True
  | _ => False

/-- A step of the terminals. -/
def Kernel.SwitchStep (layout : KernelLayout) (fs : FileSystem) (kernel : Kernel)
    (label : Event × Outcome) (next : Kernel) : Prop :=
  kernel.Step layout fs label next ∧ kernel.TerminalEvent layout label.1

/-- Such a step while a terminal is not displayed. -/
def Kernel.AwayStep (layout : KernelLayout) (fs : FileSystem) (terminal : Nat)
    (kernel : Kernel) (label : Event × Outcome) (next : Kernel) : Prop :=
  kernel.SwitchStep layout fs label next ∧ kernel.displayed ≠ terminal

theorem Switching.hidden (switching : Switching layout kernel)
    (hidden : KeepsHidden kernel next) (keeps : KeepsProcesses layout kernel next) :
    Switching layout next ∧ Switches kernel next := by
  refine ⟨switching.keeps hidden ?_ ?_, hidden.switches⟩
  · obtain ⟨mappings, represents⟩ := switching.represents
    obtain ⟨after, afterRepresents, -⟩ := keeps.mappings mappings represents
    exact ⟨after, afterRepresents⟩
  · rw [keeps.procIdFlags]
    exact switching.free

theorem Switching.moves (switching : Switching layout kernel) (esp ebp : Nat)
    (userMode : Bool) :
    Switching layout { kernel with esp := esp, ebp := ebp, userMode := userMode } ∧
      Switches kernel { kernel with esp := esp, ebp := ebp, userMode := userMode } := by
  have hidden : KeepsHidden kernel
      { kernel with esp := esp, ebp := ebp, userMode := userMode } :=
    ⟨rfl, rfl, fun _ _ => rfl, .refl _ _, switching.fits⟩
  exact ⟨switching.keeps hidden switching.represents switching.free, hidden.switches⟩

/-- The devices do not count. -/
theorem Switches.of_setDevices {before after : Devices}
    (switches : Switches (kernel.setDevices before) next) :
    Switches kernel (next.setDevices after) where
  saves shown id idLt hidden displays saves :=
    (switches.saves shown id idLt hidden
      (fun same => ⟨(displays same).screen, (displays same).screenX,
        (displays same).screenY, (displays same).bufferIndex, (displays same).line⟩)
      (fun different => (saves different).of_same rfl (fun _ _ => rfl) rfl)).of_same
        rfl (fun _ _ => rfl) rfl
  shows shown different saves := by
    have same := switches.shows shown different (saves.of_same rfl (fun _ _ => rfl) rfl)
    exact ⟨same.screen, same.screenX, same.screenY, same.bufferIndex, same.line⟩

/-- A key that requests a terminal. -/
theorem keyboard_of_request {key id : Nat} (stale : StaleLocals)
    (requested : kernel.tty.handleKey key = (kernel.tty, .terminalLoS id)) :
    ∃ before after left, kernel.keyboardIntHandler layout fs stale key =
      (((kernel.setDevices before).terminalLoS layout fs stale id).1.setDevices after,
        left) := by
  have handled : kernel.keyboardIntHandler layout fs stale key =
      Kernel.finishInterrupt ((kernel.setDevices
        ((kernel.devices.disableIrq keyboardIrq).sendEoi keyboardIrq)).terminalLoS layout
          fs stale id) := by
    rw [Kernel.keyboardIntHandler_eq, requested]
    rfl
  obtain ⟨devices, left, finished, -⟩ := Kernel.finishInterrupt_eq
    ((kernel.setDevices
      ((kernel.devices.disableIrq keyboardIrq).sendEoi keyboardIrq)).terminalLoS layout fs
        stale id)
  exact ⟨_, devices, left, handled.trans finished⟩

/-- Any key but Ctrl+C. -/
theorem Switching.keyboard (switching : Switching layout kernel)
    (running : kernel.faulting = false) (fs : FileSystem) (stale : StaleLocals)
    {key : Nat} (stays : (kernel.tty.handleKey key).2 ≠ .halt) :
    Switching layout (kernel.keyboardIntHandler layout fs stale key).1 ∧
      Switches kernel (kernel.keyboardIntHandler layout fs stale key).1 := by
  cases action : (kernel.tty.handleKey key).2 with
  | halt => exact absurd action stays
  | done =>
      obtain ⟨devices, handled⟩ := @keyboard_of_done layout fs kernel key stale action
      rw [handled]
      have hidden : KeepsHidden kernel
          ((kernel.setTty (kernel.tty.handleKey key).1).setDevices devices) :=
        .of_edits (Tty.handleKey_edits switching.fits key) rfl
      exact ⟨switching.keeps hidden switching.represents switching.free, hidden.switches⟩
  | terminalLoS id =>
      obtain ⟨requested, idLt⟩ := Tty.handleKey_of_terminalLoS action
      obtain ⟨before, after, left, handled⟩ :=
        @keyboard_of_request layout fs kernel key id stale requested
      rw [handled]
      have done := (switching.setDevices before).terminalLoS running fs stale id
      exact ⟨done.1.setDevices after, done.2.of_setDevices⟩

/-- What a step of the terminals does to them. -/
theorem Switching.step (switching : Switching layout kernel)
    (step : kernel.SwitchStep layout fs (event, outcome) next) :
    Switching layout next ∧ Switches kernel next := by
  obtain ⟨⟨admits, handled⟩, terminal⟩ := step
  have reached : next = (kernel.handle layout fs event).1 := by rw [handled]
  subst reached
  cases event with
  | trap => exact switching.moves kernel.trapStack kernel.ebp false
  | iret => exact switching.moves kernel.esp kernel.ebp true
  | moveStack esp ebp => exact switching.moves esp ebp kernel.userMode
  | initTerminals stale => exact terminal.elim
  | execute command stale => exact terminal.elim
  | halt status stale => exact terminal.elim
  | exception message stale => exact terminal.elim
  | fileCall request stale =>
      cases request with
      | write fd buf nbytes =>
          exact switching.hidden (.write switching.fits stale fd buf nbytes)
            (kernel.keeps_fileCall layout fs ⟨.write fd buf nbytes, stale⟩)
      | «open» filename => exact terminal.elim
      | close fd => exact terminal.elim
      | read fd buf nbytes woken => exact terminal.elim
  | vidmap screenStart => exact terminal.elim
  | keyboard key stale => exact switching.keyboard admits.1 fs stale terminal
  | rtcInterrupt =>
      exact switching.hidden (.of_edits (.refl switching.fits) rfl)
        (kernel.keeps_setDevices layout _).toKeepsProcesses
  | pitInterrupt =>
      exact switching.hidden (.of_edits (.refl switching.fits) rfl)
        (kernel.keeps_setDevices layout _).toKeepsProcesses
  | print bytes =>
      exact switching.hidden (.print switching.fits bytes)
        (kernel.keeps_print layout bytes).toKeepsProcesses
  | terminalSave id => exact terminal.elim
  | terminalRestore id => exact terminal.elim
  | userStore linear value =>
      exact switching.hidden (.userStore switching.fits value terminal)
        (kernel.keeps_userStore layout linear value).toKeepsProcesses

/-- The terminals once `init_terminals` has prepared them. -/
theorem Kernel.Prepared.switching {mappings : Mappings}
    (prepared : Prepared layout mappings kernel)
    (free : ∀ id, kernel.procIdFlags id = 0) :
    Switching layout kernel ∧ launched kernel.terminals = 1 := by
  have displayed : kernel.displayed = 0 := prepared.curTermId
  refine
    ⟨{ represents := ⟨_, prepared.represents⟩
       backing := prepared.backing
       displayedLt := by omega
       inUse := ?_
       fits := ⟨⟨?_, ?_, ?_, ?_⟩, ?_⟩
       saved := ?_
       free := fun id _ => free id }, ?_⟩
  · rw [displayed]
    exact prepared.inUse 0 (by decide)
  · rw [prepared.screenX]
  · rw [prepared.screenX]
    decide
  · rw [prepared.screenY]
  · rw [prepared.screenY]
    decide
  · rw [prepared.bufferIndex]
    decide
  · intro id idLt
    have ⟨x, y, bufferIndex⟩ := prepared.saved id idLt
    omega
  · rw [launched, prepared.inUse 0 (by decide), prepared.inUse 1 (by decide),
      prepared.inUse 2 (by decide)]
    rfl

/-- The terminals once the first shell has been started. -/
theorem switching_initTerminals (booted : boot.Boots layout) {stale : StaleLocals}
    (step : boot.Step layout fs (.initTerminals stale, outcome) next) :
    Switching layout next := by
  obtain ⟨mappings, ready, prepared, keeps, rfl⟩ := initTerminals_reaches booted step
  have noneActive : boot.procIdFlags = fun _ => 0 := by
    obtain ⟨begin, report, atEntry, rfl⟩ := booted
    exact atEntry.procIdFlags
  have free (id : Nat) : ready.procIdFlags id = 0 := by
    rw [keeps.procIdFlags, noneActive]
  have mapped : ∃ mappings, ready.paging.Represents layout mappings ∧
      mappings.terminal = some ready.displayed := by
    refine ⟨_, prepared.represents, ?_⟩
    rw [Kernel.displayed, prepared.curTermId]
  obtain ⟨switching, one⟩ := prepared.switching free
  exact (switching.execute mapped (fun id _ => free id)
    (show launched ready.terminals = 0 + 1 from one) fs stale Kernel.shellCommand).1

theorem switching_of_run (booted : boot.Boots layout) {stale : StaleLocals}
    {first : Kernel} {labels : List (Event × Outcome)}
    (prepares : boot.Step layout fs (.initTerminals stale, outcome) first)
    (run : Run (Kernel.SwitchStep layout fs) first labels kernel) :
    Switching layout kernel := by
  refine run.invariant (fun state => Switching layout state) ?_
    (switching_initTerminals booted prepares)
  rintro state ⟨event, outcome⟩ next switching step
  exact (switching.step step).1

/-- From when a terminal is left to when it is displayed again, whatever happens on the
other terminals, its display is saved; and in no state does a request for the terminal
displayed, or for one that does not exist, change anything. -/
theorem switching_loses_nothing (booted : boot.Boots layout) {stale : StaleLocals}
    {first left away back : Kernel} {initial : Outcome}
    {before others : List (Event × Outcome)} {leaving : Event × Outcome}
    (prepares : boot.Step layout fs (.initTerminals stale, initial) first)
    (reaches : Run (Kernel.SwitchStep layout fs) first before left)
    (leaves : left.SwitchStep layout fs leaving away)
    (isAway : away.displayed ≠ left.displayed)
    (elsewhere : Run (Kernel.AwayStep layout fs left.displayed) away others back)
    (returns : back.displayed = left.displayed) :
    SameDisplay left back ∧
      ∀ (reached : Kernel) (program : StaleLocals) (target : Nat),
        target = reached.displayed ∨ 3 ≤ target →
          (reached.terminalLoS layout fs program target).1 = reached := by
  refine ⟨?_, fun reached program target => terminalLoS_of_no_request layout fs program⟩
  have switching := switching_of_run booted prepares reaches
  have left_saves : Switching layout away ∧ Saves left left.displayed away := by
    obtain ⟨after, switches⟩ := switching.step leaves
    refine ⟨after, switches.saves left left.displayed switching.displayedLt
      (Ne.symm isAway) (fun _ => ?_) (fun different => absurd rfl different)⟩
    exact ⟨fun _ _ => rfl, rfl, rfl, rfl, fun _ _ => rfl⟩
  -- A terminal is saved for as long as it is not displayed, and displayed as saved.
  have reached : Switching layout back ∧
      (back.displayed ≠ left.displayed → Saves left left.displayed back) ∧
      (back.displayed = left.displayed → SameDisplay left back) := by
    refine elsewhere.invariant
      (fun state => Switching layout state ∧
        (state.displayed ≠ left.displayed → Saves left left.displayed state) ∧
        (state.displayed = left.displayed → SameDisplay left state)) ?_ ?_
    · rintro state ⟨event, outcome⟩ next ⟨holds, saves, -⟩ ⟨step, hidden⟩
      obtain ⟨after, switches⟩ := holds.step step
      refine ⟨after, fun still => ?_, fun shown => ?_⟩
      · exact switches.saves left left.displayed switching.displayedLt (Ne.symm still)
          (fun same => absurd same.symm hidden) (fun _ => saves hidden)
      · have saved := saves hidden
        rw [← shown] at saved
        exact switches.shows left (fun same => hidden (same.symm.trans shown)) saved
    · exact ⟨left_saves.1, fun _ => left_saves.2, fun same => absurd same isAway⟩
  exact reached.2.2 returns

/-- A program is interrupted by Alt. -/
theorem press_alt (userMode : kernel.userMode = true) (running : kernel.faulting = false)
    (layout : KernelLayout) (fs : FileSystem) :
    ∃ left, Run (Kernel.SwitchStep layout fs) kernel
        [(.trap, .returned 0), (.keyboard altDown .zero, .returned 0)] left ∧
      left.userMode = false ∧ left.faulting = false ∧
      left.tty.keyboard.altFlag = true ∧ left.displayed = kernel.displayed ∧
      left.terminals = kernel.terminals ∧ left.procIdFlags = kernel.procIdFlags ∧
      left.paging = kernel.paging := by
  have pressed (tty : Tty) : tty.handleKey altDown = (tty.setAltFlag altDown, .done) := rfl
  generalize isTrapped : ({ kernel with esp := kernel.trapStack, userMode := false } :
    Kernel) = trapped
  have trap : kernel.SwitchStep layout fs (.trap, .returned 0) trapped :=
    ⟨⟨⟨running, userMode⟩, by rw [← isTrapped]; rfl⟩, True.intro⟩
  have kernelMode : trapped.userMode = false := by rw [← isTrapped]
  have stillRunning : trapped.faulting = false := by rw [← isTrapped]; exact running
  have done : (trapped.tty.handleKey altDown).2 = .done := by rw [pressed]
  obtain ⟨devices, handled⟩ := @keyboard_of_done layout fs trapped altDown .zero done
  have alt : trapped.SwitchStep layout fs (.keyboard altDown .zero, .returned 0)
      ((trapped.setTty (trapped.tty.handleKey altDown).1).setDevices devices) :=
    ⟨⟨⟨stillRunning, kernelMode⟩, handled⟩, by rw [Kernel.TerminalEvent, done]; nofun⟩
  refine ⟨_, Run.cons trap (Run.cons alt (Run.nil _)), kernelMode, stillRunning, rfl, ?_,
    ?_, ?_, ?_⟩
  · show trapped.displayed = _
    rw [← isTrapped]
  · show trapped.terminals = _
    rw [← isTrapped]
  · show trapped.procIdFlags = _
    rw [← isTrapped]
  · show trapped.paging = _
    rw [← isTrapped]

/-- With Alt down, F1 to F3 request a terminal. -/
theorem press_function {key id : Nat} (kernelMode : kernel.userMode = false)
    (running : kernel.faulting = false)
    (requested : kernel.tty.handleKey key = (kernel.tty, .terminalLoS id))
    (layout : KernelLayout) (fs : FileSystem) :
    ∃ before after left, kernel.SwitchStep layout fs (.keyboard key .zero, left)
      (((kernel.setDevices before).terminalLoS layout fs .zero id).1.setDevices after) := by
  obtain ⟨before, after, left, handled⟩ :=
    @keyboard_of_request layout fs kernel key id .zero requested
  refine ⟨before, after, left, ⟨⟨running, kernelMode⟩, handled⟩, ?_⟩
  rw [Kernel.TerminalEvent, requested]
  nofun

theorem handleKey_f1 {tty : Tty} (alt : tty.keyboard.altFlag = true) :
    tty.handleKey f1Down = (tty, .terminalLoS 0) := by
  show tty.pressFunctionKey 0 = _
  rw [Tty.pressFunctionKey, if_pos alt]

theorem handleKey_f2 {tty : Tty} (alt : tty.keyboard.altFlag = true) :
    tty.handleKey f2Down = (tty, .terminalLoS 1) := by
  show tty.pressFunctionKey 1 = _
  rw [Tty.pressFunctionKey, if_pos alt]

theorem launching_kept (layout : KernelLayout) (kernel : Kernel) (target : Nat) :
    (kernel.launching layout target).faulting = kernel.faulting ∧
      (kernel.launching layout target).procIdFlags = kernel.procIdFlags ∧
      (kernel.launching layout target).tty.keyboard.altFlag =
        kernel.tty.keyboard.altFlag := by
  have faulting : (kernel.saveScreen layout kernel.displayed).faulting =
      kernel.faulting := rfl
  have procIdFlags : (kernel.saveScreen layout kernel.displayed).procIdFlags =
      kernel.procIdFlags := rfl
  have altFlag : (kernel.saveScreen layout kernel.displayed).tty.keyboard.altFlag =
      kernel.tty.keyboard.altFlag := rfl
  rw [Kernel.launching, ← faulting, ← procIdFlags, ← altFlag]
  generalize kernel.saveScreen layout kernel.displayed = saved
  refine ⟨rfl, rfl, ?_⟩
  show (((saved.markLaunched target).restoreScreen layout target).tty.keyboard).altFlag = _
  rw [Kernel.restoreScreen_keyboard]
  rfl

/-- The shell of a launched terminal. -/
theorem launch_enters (switching : Switching layout kernel)
    (running : kernel.faulting = false) {target id : Nat} (targetLt : target < 3)
    (unused : (kernel.terminals target).isInUseFlag = false)
    (shell : fs.HasShell) (stale : StaleLocals) (free : kernel.freeProcId = some id) :
    ∃ next, (kernel.terminalLoS layout fs stale target).1 = next ∧
      next.userMode = true ∧ next.faulting = false ∧ next.displayed = target ∧
      next.tty.keyboard.altFlag = kernel.tty.keyboard.altFlag := by
  have different : target ≠ kernel.displayed := by
    rintro rfl
    rw [switching.inUse] at unused
    exact nomatch unused
  obtain ⟨faulting, procIdFlags, altFlag⟩ := launching_kept layout kernel target
  have launchingFree : (kernel.launching layout target).freeProcId = some id := by
    rw [Kernel.freeProcId, procIdFlags]
    exact free
  have displayed := launching_displayed layout kernel target
  have represents : ∃ mappings,
      (kernel.launching layout target).paging.Represents layout mappings := by
    have savedUnused := (saveScreen_isInUseFlag layout kernel kernel.displayed
      target).trans unused
    have marked := switching.saveScreen.markLaunched targetLt savedUnused
    exact ((marked.restoreScreen targetLt).setDevices _).represents
  have launches := terminalLaunch_eq switching.screensMapped running targetLt different
    fs stale
  generalize kernel.launching layout target = launching at *
  obtain ⟨entryPoint, next, executed, entered⟩ :=
    execute_shell_enters represents shell stale launchingFree
  refine ⟨next, ?_, entered.userMode, entered.faulting.trans (faulting.trans running), ?_,
    ?_⟩
  · have notUsed : ¬(kernel.terminals target).isInUseFlag = true := by
      rw [unused]
      exact Bool.noConfusion
    rw [Kernel.terminalLoS, if_neg (Nat.not_le_of_lt targetLt), if_neg different,
      if_neg notUsed, launches, executed]
    rfl
  · rw [Kernel.displayed, entered.keyboard]
    exact displayed
  · rw [entered.keyboard]
    exact altFlag

/-- A terminal in use is displayed when it is requested. -/
theorem change_displays (switching : Switching layout kernel)
    (running : kernel.faulting = false) {target : Nat} (targetLt : target < 3)
    (different : target ≠ kernel.displayed)
    (inUse : (kernel.terminals target).isInUseFlag = true) (stale : StaleLocals) :
    (kernel.terminalLoS layout fs stale target).1.displayed = target := by
  rw [Kernel.terminalLoS, if_neg (Nat.not_le_of_lt targetLt), if_neg different,
    if_pos inUse, terminalChange_eq switching.screensMapped running targetLt]
  rfl

/-- The first program is interrupted by Alt. -/
theorem firstShell_interrupted {ready first : Kernel} {entryPoint : Nat}
    (starts : FirstShell fs ready first entryPoint) :
    ∃ labels left, Run (Kernel.SwitchStep lowLayout fs) first labels left ∧
      Switching lowLayout left ∧ left.userMode = false ∧ left.faulting = false ∧
      left.tty.keyboard.altFlag = true ∧ left.displayed = 0 ∧
      (left.terminals 1).isInUseFlag = false ∧ left.freeProcId = some 1 := by
  obtain ⟨_, prepared⟩ := starts.prepared
  have entered := starts.entered
  have terminals : first.terminals = ready.terminals := by
    have kept := execute_terminals lowLayout fs ready .zero Kernel.shellCommand
    rwa [starts.executed] at kept
  obtain ⟨left, reaches, kernelMode, running, alt, displayed, sameTerminals, sameFlags, -⟩ :=
    press_alt entered.userMode (entered.faulting.trans prepared.running) lowLayout fs
  refine ⟨_, left, reaches, ?_, kernelMode, running, alt, ?_, ?_, ?_⟩
  · exact switching_of_run startedKernel_boots starts.step reaches
  · rw [displayed, Kernel.displayed, entered.keyboard, prepared.curTermId]
  · rw [sameTerminals, terminals]
    exact prepared.inUse 1 (by decide)
  · rw [Kernel.freeProcId, sameFlags, entered.procIdFlags, starts.keeps.procIdFlags]
    rfl

/-- Another program is interrupted, with Alt down, by F1. -/
theorem returns_to_first {away : Kernel} (switching : Switching layout away)
    (userMode : away.userMode = true) (running : away.faulting = false)
    (alt : away.tty.keyboard.altFlag = true) (isAway : away.displayed ≠ 0)
    (inUse : (away.terminals 0).isInUseFlag = true) :
    ∃ labels back, Run (Kernel.AwayStep layout fs 0) away labels back ∧
      back.displayed = 0 := by
  generalize isTrapped : ({ away with esp := away.trapStack, userMode := false } :
    Kernel) = trapped
  have trap : away.SwitchStep layout fs (.trap, .returned 0) trapped :=
    ⟨⟨⟨running, userMode⟩, by rw [← isTrapped]; rfl⟩, True.intro⟩
  have trappedSwitching := (switching.step trap).1
  have trappedMode : trapped.userMode = false := by rw [← isTrapped]
  have trappedRunning : trapped.faulting = false := by rw [← isTrapped]; exact running
  have sameTty : trapped.tty = away.tty := by rw [← isTrapped]
  have trappedAway : trapped.displayed ≠ 0 := by
    rw [Kernel.displayed, sameTty]
    exact isAway
  have trappedInUse : (trapped.terminals 0).isInUseFlag = true := by
    rw [← isTrapped]
    exact inUse
  obtain ⟨before, after, left, returning⟩ := press_function trappedMode trappedRunning
    (handleKey_f1 (by rw [sameTty]; exact alt)) layout fs
  have goes : away.AwayStep layout fs 0 _ trapped := ⟨trap, isAway⟩
  refine ⟨_, _, Run.cons goes (Run.cons ⟨returning, trappedAway⟩ (Run.nil _)), ?_⟩
  exact change_displays (trappedSwitching.setDevices before) trappedRunning (by decide)
    (Ne.symm trappedAway) trappedInUse .zero

/-- Alt, F2 and F1 leave the first terminal and come back to it. -/
theorem switching_loses_nothing_two_terminals :
    ∃ (left away back : Kernel) (leaving : Event × Outcome)
        (others : List (Event × Outcome)),
      left.SwitchStep lowLayout stockedImage leaving away ∧
      away.displayed ≠ left.displayed ∧
      Run (Kernel.AwayStep lowLayout stockedImage left.displayed) away others back ∧
      SameDisplay left back := by
  obtain ⟨ready, first, entryPoint, starts⟩ := exists_firstShell stockedImage_hasShell
  obtain ⟨before, left, reaches, switching, kernelMode, running, alt, displays, unused,
    free⟩ := firstShell_interrupted starts
  obtain ⟨devices, later, outcome, leaves⟩ :=
    press_function kernelMode running (handleKey_f2 alt) lowLayout stockedImage
  obtain ⟨launched, isLaunched, launchedMode, launchedRunning, launchedDisplays,
    launchedAlt⟩ := launch_enters (switching.setDevices devices) running
      (show 1 < 3 by decide) unused stockedImage_hasShell .zero free
  rw [isLaunched] at leaves
  have isAway : (launched.setDevices later).displayed ≠ 0 := by
    show launched.displayed ≠ 0
    omega
  obtain ⟨awaySwitching, switches⟩ := switching.step leaves
  have saves : Saves left 0 (launched.setDevices later) := by
    apply switches.saves left 0 (by decide) (Ne.symm isAway)
    · exact fun _ => ⟨fun _ _ => rfl, rfl, rfl, rfl, fun _ _ => rfl⟩
    · exact fun different => absurd displays.symm different
  obtain ⟨others, back, elsewhere, returns⟩ := @returns_to_first lowLayout stockedImage _
    awaySwitching launchedMode launchedRunning (launchedAlt.trans alt) isAway saves.inUse
  rw [← displays] at isAway elsewhere returns
  exact ⟨left, _, back, _, others, leaves, isAway, elsewhere,
    (switching_loses_nothing startedKernel_boots starts.step reaches leaves isAway elsewhere
      returns).1⟩

end Runs

end ChapOS
