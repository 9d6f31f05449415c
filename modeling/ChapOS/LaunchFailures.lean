import ChapOS.FailedExecutes
import ChapOS.TerminalSwitching

/-!
# Launching a terminal whose shell cannot be started

`terminal_launch` drops the value that `execute` returns.  The terminal whose shell
has failed stays displayed and marked as in use, and no later request launches it.
-/

namespace ChapOS

open CountedLoops

namespace Kernel

/-- The kernel when `keyboard_int_handler` calls `terminal_LoS`. -/
def requesting (kernel : Kernel) : Kernel :=
  kernel.setDevices ((kernel.devices.disableIrq keyboardIrq).sendEoi keyboardIrq)

/-- The kernel when `terminal_launch` calls `execute`. -/
def launchPoint (layout : KernelLayout) (kernel : Kernel) (target : Nat) : Kernel :=
  let saved := (kernel.terminalSave layout kernel.displayed).1
  let restored := ((saved.markLaunched target).terminalRestore layout target).1
  restored.setDevices (restored.devices.enableIrq keyboardIrq)

/-- A terminal that has not been launched is requested, and the `execute` of its shell
fails. -/
structure LaunchFails (layout : KernelLayout) (fs : FileSystem) (stale : StaleLocals)
    (kernel : Kernel) (target : Nat) : Prop where
  targetLt : target < numTerm
  unused : (kernel.terminals target).isInUseFlag = false
  different : target ≠ kernel.displayed
  displayedLt : kernel.displayed < numTerm
  saves : (kernel.terminalSave layout kernel.displayed).1.faulting = false
  restores : (kernel.launchPoint layout target).faulting = false
  fails : ((kernel.launchPoint layout target).execute layout fs stale shellCommand).2 =
    .returned (-1)

/-- The terminals are as they were before the key was pressed. -/
structure LaunchUndone (before after : Kernel) : Prop where
  displayed : after.displayed = before.displayed
  isInUseFlag : ∀ id,
    (after.terminals id).isInUseFlag = (before.terminals id).isInUseFlag
  screen : ∀ address ∈ screenRegion, after.mem.read address = before.mem.read address
  screenX : after.tty.console.screenX = before.tty.console.screenX
  screenY : after.tty.console.screenY = before.tty.console.screenY
  bufferIndex : after.tty.keyboard.bufferIndex = before.tty.keyboard.bufferIndex

section Launches

variable {layout : KernelLayout} {fs : FileSystem} {stale : StaleLocals}
  {kernel : Kernel} {key target : Nat}

/-- Saving a terminal in range does not return -1. -/
theorem terminalSave_returns {id : Nat} (idLt : id < numTerm) :
    (kernel.terminalSave layout id).2 = 0 := by
  rw [terminalSave, if_neg (Nat.not_le_of_lt idLt)]

/-- The value of `execute` is dropped. -/
theorem LaunchFails.terminalLaunch_eq (fails : kernel.LaunchFails layout fs stale target) :
    kernel.terminalLaunch layout fs stale target =
      (((kernel.launchPoint layout target).execute layout fs stale shellCommand).1,
        .returned 0) := by
  have saved := @terminalSave_returns layout kernel _ fails.displayedLt
  have notFailed : ¬(0 : Int) = -1 := by decide
  have inRange : ¬(numTerm ≤ target ∨ numTerm ≤ kernel.displayed) := by
    have targetLt := fails.targetLt
    have displayedLt := fails.displayedLt
    omega
  have restores := fails.restores
  have failed := fails.fails
  have unfolded : kernel.launchPoint layout target =
      let restored := (((kernel.terminalSave layout kernel.displayed).1.markLaunched
        target).terminalRestore layout target).1
      restored.setDevices (restored.devices.enableIrq keyboardIrq) := rfl
  have marked : (((kernel.terminalSave layout kernel.displayed).1.markLaunched
      target).terminalRestore layout target).1.faulting = false := restores
  rw [terminalLaunch, if_neg fails.different, if_neg inRange,
    unlessFaulting_of_running _ _ fails.saves, saved, if_neg notFailed, launchSaved,
    unlessFaulting_of_running _ _ marked]
  rw [unfolded] at failed ⊢
  rw [returnZero]
  dsimp only at failed ⊢
  rw [failed]

/-- Where `terminal_launch` calls `execute`, the new terminal is displayed and marked
as in use. -/
theorem launchPoint_marks (kernel : Kernel) (target : Nat) :
    (kernel.launchPoint layout target).displayed = target ∧
      ((kernel.launchPoint layout target).terminals target).isInUseFlag = true := by
  obtain ⟨terminals, displayed⟩ := terminalRestore_sameMarks layout
    ((kernel.terminalSave layout kernel.displayed).1.markLaunched target) target
  refine ⟨displayed, ?_⟩
  have marked : (kernel.launchPoint layout target).terminals target = _ :=
    congrFun terminals target
  rw [marked, markLaunched]
  generalize (kernel.terminalSave layout kernel.displayed).1 = saved
  exact congrArg Term.isInUseFlag (Function.update_self target _ saved.terminals)

/-- The key that requests the terminal. -/
theorem LaunchFails.pressed (fails : kernel.requesting.LaunchFails layout fs stale target)
    (requested : (kernel.tty.handleKey key).2 = .terminalLoS target) :
    ∃ after, kernel.keyboardIntHandler layout fs stale key = (after, .returned 0) ∧
      after.displayed = target ∧ (after.terminals target).isInUseFlag = true := by
  have launched := fails.terminalLaunch_eq
  obtain ⟨request, -⟩ := Tty.handleKey_of_terminalLoS requested
  obtain ⟨displayed, marked⟩ := @launchPoint_marks layout kernel.requesting target
  have ends := execute_cases layout fs stale (kernel.requesting.launchPoint layout target)
    shellCommand
  have failed := fails.fails
  generalize (kernel.requesting.launchPoint layout target).execute layout fs stale
    shellCommand = done at launched ends failed
  cases ends with
  | headerFault bytes => exact nomatch failed
  | loadFault bytes inode id program free faulted => exact nomatch failed
  | started bytes inode id entryPoint arg program free loaded => exact nomatch failed
  | refused bytes =>
      generalize kernel.requesting.launchPoint layout target = atPoint at *
      have asked : kernel.requesting.terminalLoS layout fs stale target =
          (atPoint.print bytes, .returned 0) := by
        have unused : ¬(kernel.requesting.terminals target).isInUseFlag = true := by
          rw [fails.unused]
          exact Bool.noConfusion
        rw [terminalLoS, if_neg (Nat.not_le_of_lt fails.targetLt),
          if_neg fails.different, if_neg unused, launched]
      have handled : kernel.keyboardIntHandler layout fs stale key =
          finishInterrupt (atPoint.print bytes, .returned 0) := by
        rw [keyboardIntHandler_eq, request, ← asked]
        rfl
      exact ⟨_, handled, displayed, marked⟩

/-- No failed launch is undone: `terminal_launch` returns 0 and leaves the terminal
displayed and marked as in use, and the next request for it does nothing. -/
theorem failed_launch_kept (layout : KernelLayout) (fs : FileSystem) (stale : StaleLocals)
    (kernel : Kernel) (key target : Nat)
    (requested : (kernel.tty.handleKey key).2 = .terminalLoS target)
    (fails : kernel.requesting.LaunchFails layout fs stale target) :
    (kernel.requesting.terminalLaunch layout fs stale target).2 = .returned 0 ∧
    ¬LaunchUndone kernel (kernel.keyboardIntHandler layout fs stale key).1 ∧
    (kernel.keyboardIntHandler layout fs stale key).1.displayed = target ∧
    ((kernel.keyboardIntHandler layout fs stale key).1.terminals target).isInUseFlag =
      true ∧
    ∀ later, (kernel.keyboardIntHandler layout fs stale key).1.terminalLoS layout fs later
      target = ((kernel.keyboardIntHandler layout fs stale key).1, .returned 0) := by
  have launched := fails.terminalLaunch_eq
  obtain ⟨after, handled, displayed, marked⟩ := fails.pressed requested
  rw [launched, handled]
  refine ⟨rfl, ?_, displayed, marked, fun later => ?_⟩
  · intro undone
    exact fails.different (displayed.symm.trans undone.displayed)
  · have current : target = after.displayed := displayed.symm
    rw [terminalLoS, if_neg (Nat.not_le_of_lt fails.targetLt), if_pos current]

/-- Where the page tables and the terminals are in order, `terminal_launch` gets to
its call of `execute`. -/
theorem launchPoint_eq {mappings : Mappings}
    (represents : kernel.paging.Represents layout mappings) (backing : HasBacking kernel)
    (displayedLt : kernel.displayed < 3) (running : kernel.faulting = false)
    (targetLt : target < 3) (different : target ≠ kernel.displayed) :
    (kernel.terminalSave layout kernel.displayed).1.faulting = false ∧
      kernel.launchPoint layout target = kernel.launching layout target := by
  have saved := terminalSave_eq represents displayedLt
    (backing kernel.displayed displayedLt)
  have marked : ((kernel.saveScreen layout kernel.displayed).markLaunched
      target).paging.Represents layout { mappings with terminal := some kernel.displayed } :=
    saveScreen_represents represents displayedLt
  have markedRunning : ((kernel.saveScreen layout kernel.displayed).markLaunched
      target).faulting = false := running
  have kept : (kernel.saveScreen layout kernel.displayed).terminals target =
      kernel.terminals target := Function.update_of_ne different _ _
  have markedBacking : (((kernel.saveScreen layout kernel.displayed).markLaunched
      target).terminals target).termVidMem = termVirAddr := by
    show (Function.update (kernel.saveScreen layout kernel.displayed).terminals target _
      target).termVidMem = _
    rw [Function.update_self, kept]
    exact backing target targetLt
  have savedRunning : (kernel.saveScreen layout kernel.displayed).faulting = false :=
    running
  constructor
  · rw [saved]
    exact savedRunning
  · rw [launchPoint, saved, terminalRestore_eq marked targetLt markedBacking markedRunning]
    rfl

/-- The shell is not started while all process slots are taken. -/
theorem execute_shell_of_full {mappings : Mappings}
    (represents : kernel.paging.Represents layout mappings) (shell : fs.HasShell)
    (full : kernel.freeProcId = none) (stale : StaleLocals) :
    kernel.execute layout fs stale shellCommand =
      (kernel.printfPlain "Too many processes\n", .returned (-1)) := by
  obtain ⟨index, found, loadable⟩ := shell
  have parsed : (parseCommand
      ("shell".toList.map fun c => UInt8.ofNat c.toNat)).2 = .endOfCommand := by
    decide +kernel
  obtain ⟨entryPoint, started⟩ := executeFile_of_hasHeader stale
    (parseCommand ("shell".toList.map fun c => UInt8.ofNat c.toNat)).1.argCommand.read
    represents loadable.hasHeader
  have executed := kernel.execute_of_found layout stale parsed
    (by rw [shellCommand_name]; exact found)
  rw [shellCommand, executed, started, startProcess_of_full layout fs _ _ _ full]

/-- With six processes alive, every launch fails. -/
theorem launchFails_of_full {mappings : Mappings}
    (represents : kernel.paging.Represents layout mappings) (backing : HasBacking kernel)
    (displayedLt : kernel.displayed < 3) (running : kernel.faulting = false)
    (targetLt : target < 3) (different : target ≠ kernel.displayed)
    (unused : (kernel.terminals target).isInUseFlag = false) (shell : fs.HasShell)
    (full : kernel.freeProcId = none) (stale : StaleLocals) :
    kernel.LaunchFails layout fs stale target := by
  obtain ⟨saves, atPoint⟩ :=
    launchPoint_eq represents backing displayedLt running targetLt different
  obtain ⟨faulting, procIdFlags, -⟩ := launching_kept layout kernel target
  have saved : ((kernel.saveScreen layout kernel.displayed).markLaunched
      target).paging.Represents layout { mappings with terminal := some kernel.displayed } :=
    saveScreen_represents represents displayedLt
  have launching : (kernel.launching layout target).paging.Represents layout
      { mappings with terminal := some target } := by
    rw [Kernel.launching]
    generalize kernel.saveScreen layout kernel.displayed = saving at saved ⊢
    exact restoreScreen_represents saved targetLt
  have stillFull : (kernel.launching layout target).freeProcId = none := by
    rw [freeProcId, procIdFlags]
    exact full
  refine ⟨targetLt, unused, different, displayedLt, saves, ?_, ?_⟩
  · rw [atPoint, faulting, running]
  · rw [atPoint, execute_shell_of_full launching shell stillFull stale]

end Launches

end Kernel

section Runs

variable {layout : KernelLayout} {fs : FileSystem} {kernel next : Kernel} {k : Nat}

/-- Shells started in shells: nothing but their number changes the terminals. -/
theorem nested_shells (runs : RunsProgram layout kernel k) (shell : fs.HasShell)
    {more : Nat} (room : k + more ≤ 6) :
    ∃ labels next, Run (Kernel.Step layout fs) kernel labels next ∧
      RunsProgram layout next (k + more) ∧ Kernel.SameMarks kernel next := by
  induction more with
  | zero => exact ⟨[], kernel, Run.nil kernel, runs, rfl, rfl⟩
  | succ more ih =>
      obtain ⟨labels, last, reaches, lastRuns, terminals, displayed⟩ := ih (by omega)
      obtain ⟨trapped, trap, serves, -⟩ := @RunsProgram.trap layout fs last _ lastRuns
      obtain ⟨entryPoint, next, executed, nextRuns⟩ :=
        serves.execute_shell (show k + more < 6 by omega) shell .zero
      have isTrapped : trapped = { last with esp := last.trapStack, userMode := false } :=
        (congrArg Prod.fst trap.2).symm
      have trappedMarks : Kernel.SameMarks last trapped := by
        rw [isTrapped]
        exact ⟨rfl, rfl⟩
      have executedMarks : Kernel.SameMarks trapped next := by
        have done := trapped.execute_cases layout fs .zero Kernel.shellCommand
        rw [executed] at done
        cases done with
        | started bytes inode id entryPoint arg program free loaded => exact ⟨rfl, rfl⟩
      have execute : trapped.Step layout fs
          (.execute Kernel.shellCommand .zero, .running entryPoint) next :=
        ⟨⟨serves.running, serves.kernelMode⟩, executed⟩
      refine ⟨_, next, reaches.append (Run.cons trap (Run.cons execute (Run.nil next))),
        nextRuns, ?_, ?_⟩
      · rw [executedMarks.1, trappedMarks.1, terminals]
      · exact executedMarks.2.trans (trappedMarks.2.trans displayed)

/-- Five shells started in the first shell take all process slots; then Alt and F2 are
pressed. -/
theorem exists_full_table :
    ∃ labels full, Run (Kernel.Step lowLayout oversizedImage) startedKernel labels full ∧
      full.faulting = false ∧ full.userMode = false ∧
      (full.tty.handleKey f2Down).2 = .terminalLoS 1 ∧
      full.requesting.LaunchFails lowLayout oversizedImage .zero 1 := by
  have serves := startedKernel_boots.serves
  obtain ⟨ready, first, entryPoint, starts⟩ := exists_firstShell oversizedImage_hasShell
  obtain ⟨_, prepared⟩ := starts.prepared
  obtain ⟨entryPoint', first', initial, runs⟩ :=
    serves.initTerminals oversizedImage_hasShell .zero
  obtain ⟨rfl, -⟩ := Prod.mk.inj (starts.step.2.symm.trans initial.2)
  obtain ⟨labels, last, reaches, lastRuns, terminals, displayed⟩ :=
    nested_shells runs oversizedImage_hasShell (show 1 + 5 ≤ 6 by omega)
  obtain ⟨left, pressed, kernelMode, running, alt, leftDisplayed, leftTerminals, leftFlags,
    leftPaging⟩ := press_alt lastRuns.userMode lastRuns.running lowLayout oversizedImage
  have firstTerminals : first.terminals = ready.terminals := by
    have kept := execute_terminals lowLayout oversizedImage ready .zero Kernel.shellCommand
    rwa [starts.executed] at kept
  have firstDisplayed : first.displayed = 0 := by
    rw [Kernel.displayed, starts.entered.keyboard, prepared.curTermId]
  have isDisplayed : left.displayed = 0 := by
    rw [leftDisplayed, ← firstDisplayed]
    exact displayed
  have sameTerminals : left.terminals = ready.terminals := by
    rw [leftTerminals, terminals, firstTerminals]
  obtain ⟨mappings, represents⟩ := lastRuns.holds.represents
  have isFull : left.freeProcId = none := by
    rw [Kernel.freeProcId, leftFlags]
    exact lastRuns.holds.freeProcId_eq
  refine ⟨_, left, Run.cons starts.step (reaches.append (pressed.mono ?_)), running,
    kernelMode, by rw [handleKey_f2 alt], ?_⟩
  · intro state label next step
    exact step.1
  · have backing : HasBacking left := by
      rw [HasBacking, sameTerminals]
      exact prepared.backing
    have unused : (left.terminals 1).isInUseFlag = false := by
      rw [sameTerminals]
      exact prepared.inUse 1 (by decide)
    have displayedLt : left.displayed < 3 := by omega
    have different : 1 ≠ left.displayed := by omega
    rw [← leftPaging] at represents
    exact @Kernel.launchFails_of_full lowLayout oversizedImage left.requesting 1 mappings
      represents backing displayedLt running (by decide) different unused
      oversizedImage_hasShell isFull .zero

/-- Alt and F2 while all process slots are taken. -/
theorem failed_launch_kept_full_table :
    ∃ labels full, Run (Kernel.Step lowLayout oversizedImage) startedKernel labels full ∧
      (full.requesting.terminalLaunch lowLayout oversizedImage .zero 1).2 = .returned 0 ∧
      ¬Kernel.LaunchUndone full
        (full.keyboardIntHandler lowLayout oversizedImage .zero f2Down).1 := by
  obtain ⟨labels, full, reaches, -, -, requested, fails⟩ := exists_full_table
  have kept := full.failed_launch_kept lowLayout oversizedImage .zero f2Down 1 requested
    fails
  exact ⟨labels, full, reaches, kept.1, kept.2.1⟩

/-- The first terminal is not displayed again when the shell of the second fails. -/
theorem full_table_shows_second_terminal :
    ∃ labels full, Run (Kernel.Step lowLayout oversizedImage) startedKernel labels full ∧
      full.faulting = false ∧ full.userMode = false ∧
      (full.tty.handleKey f2Down).2 = .terminalLoS 1 ∧
      full.requesting.LaunchFails lowLayout oversizedImage .zero 1 ∧
      (full.requesting.terminalLaunch lowLayout oversizedImage .zero 1).2 ≠
        .returned (-1) ∧
      (full.keyboardIntHandler lowLayout oversizedImage .zero f2Down).1.displayed ≠
        full.displayed := by
  obtain ⟨labels, full, reaches, running, kernelMode, requested, fails⟩ :=
    exists_full_table
  obtain ⟨after, handled, displayed, -⟩ := fails.pressed requested
  refine ⟨labels, full, reaches, running, kernelMode, requested, fails, ?_, ?_⟩
  · rw [fails.terminalLaunch_eq]
    exact fun same => absurd (Outcome.returned.inj same) (by decide)
  · rw [handled, displayed]
    exact fails.different

end Runs

end ChapOS
