import ChapOS.LaunchFailures
import ChapOS.Modifiers

/-!
# The cursor in every run

`putc`, the editing keys, Ctrl+L and the restores of terminals all end in
`move_curser` with the cursor on the screen, and nothing else moves it.  The saved
cursors are copies of one that was on the screen, or zero.
-/

namespace ChapOS

open CountedLoops

namespace Console

/-- The position last sent to the VGA registers is that of the cursor. -/
def Located (console : Console) : Prop :=
  (console.cursorLocation : Int) = 80 * console.screenY + console.screenX

/-- On the screen the clamp of `move_curser` is not used. -/
theorem moveCurser_located {console : Console} (onScreen : console.OnScreen) :
    console.moveCurser.Located := by
  obtain ⟨left, right, top, bottom⟩ := onScreen
  have cell : (console.screenX + console.screenY * numCols) % 0x10000 =
      console.screenX + console.screenY * 80 :=
    Int.emod_eq_of_lt (by simp only [numCols, Nat.cast_ofNat]; omega)
      (by simp only [numCols, Nat.cast_ofNat]; omega)
  have small : ¬(console.screenX + console.screenY * 80).toNat ≥ numCols * numRows := by
    simp only [numCols, numRows]
    omega
  simp only [Located, moveCurser, cell, if_neg small]
  omega

theorem putc_located {console : Console} (onScreen : console.OnScreen) (c : UInt8) :
    (console.putc c).Located := by
  have after := putc_onScreen onScreen c
  unfold putc at after ⊢
  split at after
  · rename_i breaks
    rw [if_pos breaks]
    exact moveCurser_located ⟨after.left, after.right, after.top, after.bottom⟩
  · rename_i noBreak
    rw [if_neg noBreak]
    exact moveCurser_located ⟨after.left, after.right, after.top, after.bottom⟩

theorem putAll_located {console : Console} (onScreen : console.OnScreen)
    (located : console.Located) (bytes : List UInt8) :
    (console.putAll bytes).Located := by
  induction bytes generalizing console with
  | nil => exact located
  | cons c bytes ih => exact ih (putc_onScreen onScreen c) (putc_located onScreen c)

end Console

namespace Tty

variable {tty : Tty}

theorem pressBskp_located (fits : tty.Fits) : tty.pressBskp.console.Located := by
  have after := (pressBskp_edits fits).fits.onScreen
  unfold pressBskp at after ⊢
  exact Console.moveCurser_located ⟨after.left, after.right, after.top, after.bottom⟩

theorem clearScreen_located (tty : Tty) : tty.clearScreen.console.Located := by
  unfold clearScreen
  apply Console.moveCurser_located
  exact ⟨Int.le_refl 0, show (0 : Int) < 80 by decide, Int.le_refl 0,
    show (0 : Int) < 25 by decide⟩

theorem pressOtherKey_located (fits : tty.Fits) (located : tty.console.Located)
    (key : Nat) : (tty.pressOtherKey key).1.console.Located := by
  unfold pressOtherKey
  split
  · exact located
  dsimp only
  split
  · exact located
  split
  · split
    · exact Console.putc_located fits.onScreen _
    · exact located
  · have cleared :
        (if scancodeArray tty.keyboard.keyboardMode key = 0x6C ∨
            scancodeArray tty.keyboard.keyboardMode key = 0x4C then tty.clearScreen
          else tty).console.Located := by
      split
      · exact tty.clearScreen_located
      · exact located
    split
    · exact cleared
    · exact cleared

/-- Every key leaves the VGA position at the cursor. -/
theorem handleKey_located (fits : tty.Fits) (located : tty.console.Located) (key : Nat) :
    (tty.handleKey key).1.console.Located := by
  apply @handleKey_cases (fun handled => handled.1.console.Located)
  · intro mode ctrl alt
    exact located
  · exact Console.putc_located fits.onScreen newLine
  · exact pressBskp_located fits
  · intro id _
    exact located
  · exact pressOtherKey_located fits located key

end Tty

namespace Kernel

/-- The saved cursors are on the screen. -/
def SavedOnScreen (kernel : Kernel) : Prop :=
  ∀ id < numTerm, (kernel.terminals id).x < 80 ∧ (kernel.terminals id).y < 25

/-- The cursor is on the screen and at its VGA position, and the saved cursors are on
the screen. -/
structure CursorKept (kernel : Kernel) : Prop where
  onScreen : kernel.tty.console.OnScreen
  located : kernel.tty.console.Located
  bufferIndex : kernel.tty.keyboard.bufferIndex < 256
  saved : kernel.SavedOnScreen

/-- Neither the cursor nor a saved one has moved. -/
structure SameCursor (before after : Kernel) : Prop where
  screenX : after.tty.console.screenX = before.tty.console.screenX
  screenY : after.tty.console.screenY = before.tty.console.screenY
  location : after.tty.console.cursorLocation = before.tty.console.cursorLocation
  bufferIndex : after.tty.keyboard.bufferIndex = before.tty.keyboard.bufferIndex
  terminals : after.terminals = before.terminals

variable {layout : KernelLayout} {fs : FileSystem} {kernel next : Kernel}

theorem SameCursor.of_tty (tty : next.tty = kernel.tty)
    (terminals : next.terminals = kernel.terminals) : SameCursor kernel next := by
  constructor
  · rw [tty]
  · rw [tty]
  · rw [tty]
  · rw [tty]
  · exact terminals

theorem afterCopy_sameCursor (kernel : Kernel) (copied : Copied PhysicalMemory) :
    SameCursor kernel (kernel.afterCopy copied) := by
  unfold afterCopy
  split
  · exact ⟨rfl, rfl, rfl, rfl, rfl⟩
  · exact ⟨rfl, rfl, rfl, rfl, rfl⟩

theorem SavedOnScreen.setTerminal (saved : kernel.SavedOnScreen) (id : Nat)
    {terminal : Term} (xLt : terminal.x < 80) (yLt : terminal.y < 25) :
    (kernel.setTerminal id terminal).SavedOnScreen := by
  intro other otherLt
  show (Function.update kernel.terminals id terminal other).x < 80 ∧
    (Function.update kernel.terminals id terminal other).y < 25
  rw [Function.update_apply]
  split
  · exact ⟨xLt, yLt⟩
  · exact saved other otherLt

theorem selectFirst_saved (saved : kernel.SavedOnScreen) :
    kernel.selectFirst.SavedOnScreen := by
  obtain ⟨xLt, yLt⟩ := saved terminalId0 (by decide)
  exact saved.setTerminal terminalId0 xLt yLt

namespace CursorKept

theorem fits (kept : kernel.CursorKept) : kernel.tty.Fits :=
  ⟨kept.onScreen, kept.bufferIndex⟩

theorem of_same (kept : kernel.CursorKept) (same : SameCursor kernel next) :
    next.CursorKept := by
  obtain ⟨screenX, screenY, location, bufferIndex, terminals⟩ := same
  obtain ⟨⟨left, right, top, bottom⟩, located, index, saved⟩ := kept
  constructor
  · rw [← screenX] at left right
    rw [← screenY] at top bottom
    exact ⟨left, right, top, bottom⟩
  · rw [Console.Located, screenX, screenY, location]
    exact located
  · rw [bufferIndex]
    exact index
  · rw [SavedOnScreen, terminals]
    exact saved

/-- Output keeps the cursor. -/
theorem print (kept : kernel.CursorKept) (bytes : List UInt8) :
    (kernel.print bytes).CursorKept :=
  ⟨Console.putAll_onScreen kept.onScreen bytes,
    Console.putAll_located kept.onScreen kept.located bytes, kept.bufferIndex, kept.saved⟩

theorem setTerminal (kept : kernel.CursorKept) (id : Nat) {terminal : Term}
    (xLt : terminal.x < 80) (yLt : terminal.y < 25) :
    (kernel.setTerminal id terminal).CursorKept :=
  ⟨kept.onScreen, kept.located, kept.bufferIndex, kept.saved.setTerminal id xLt yLt⟩

/-- A cursor that is placed on the screen need not have been there before. -/
theorem placeCursor (bufferIndex : kernel.tty.keyboard.bufferIndex < 256)
    (saved : kernel.SavedOnScreen) {x y : Nat} (xLt : x < 80) (yLt : y < 25) :
    (kernel.placeCursor x y).CursorKept := by
  have placed : ({ kernel.tty.console with screenX := x, screenY := y } :
      Console).OnScreen :=
    ⟨Int.natCast_nonneg x, show (x : Int) < 80 by omega, Int.natCast_nonneg y,
      show (y : Int) < 25 by omega⟩
  exact ⟨⟨placed.left, placed.right, placed.top, placed.bottom⟩,
    Console.moveCurser_located placed, bufferIndex, saved⟩

theorem setBufferIndex (kept : kernel.CursorKept) (index : Nat) :
    (kernel.setBufferIndex index).CursorKept :=
  ⟨kept.onScreen, kept.located, Nat.mod_lt index (by decide), kept.saved⟩

theorem unlessFaulting {Value : Type} {faulted : Value} {after : Kernel → Kernel × Value}
    (kept : kernel.CursorKept) (goesOn : (after kernel).1.CursorKept) :
    (kernel.unlessFaulting faulted after).1.CursorKept := by
  unfold Kernel.unlessFaulting
  split
  · exact kept
  · exact goesOn

theorem afterCopy (kept : kernel.CursorKept) (copied : Copied PhysicalMemory) :
    (kernel.afterCopy copied).CursorKept :=
  kept.of_same (afterCopy_sameCursor kernel copied)

theorem memcpy (kept : kernel.CursorKept) (layout : KernelLayout) (dest src n : Nat) :
    (kernel.memcpy layout dest src n).CursorKept := by
  rw [Kernel.memcpy]
  exact kept.afterCopy _

theorem colorScreen (kept : kernel.CursorKept) (layout : KernelLayout) (count : Nat) :
    (kernel.colorScreen layout count).CursorKept :=
  kept.afterCopy _

theorem mapTermVID (kept : kernel.CursorKept) (layout : KernelLayout) (id : Nat) :
    (kernel.mapTermVID layout id).CursorKept :=
  kept.of_same ⟨rfl, rfl, rfl, rfl, rfl⟩

theorem setDevices (kept : kernel.CursorKept) (devices : Devices) :
    (kernel.setDevices devices).CursorKept :=
  kept.of_same ⟨rfl, rfl, rfl, rfl, rfl⟩

theorem setCurTermId (kept : kernel.CursorKept) (id : Nat) :
    (kernel.setCurTermId id).CursorKept :=
  kept.of_same ⟨rfl, rfl, rfl, rfl, rfl⟩

theorem moves (kept : kernel.CursorKept) (esp ebp : Nat) (userMode : Bool) :
    ({ kernel with esp := esp, ebp := ebp, userMode := userMode } : Kernel).CursorKept :=
  kept.of_same ⟨rfl, rfl, rfl, rfl, rfl⟩

/-- The coordinates of a cursor on the screen survive in their bytes. -/
theorem terminalSave (kept : kernel.CursorKept) (layout : KernelLayout) (id : Nat) :
    (kernel.terminalSave layout id).1.CursorKept := by
  obtain ⟨left, right, top, bottom⟩ := kept.onScreen
  unfold Kernel.terminalSave
  split
  · exact kept
  · have xLt : (kernel.savedTerminal id).x < 80 := by
      show (kernel.tty.console.screenX % 256).toNat < 80
      omega
    have yLt : (kernel.savedTerminal id).y < 25 := by
      show (kernel.tty.console.screenY % 256).toNat < 25
      omega
    exact ((kept.setTerminal id xLt yLt).mapTermVID layout id).memcpy layout _ _ _

theorem of_terminalRestore (bufferIndex : kernel.tty.keyboard.bufferIndex < 256)
    (saved : kernel.SavedOnScreen) (layout : KernelLayout) {id : Nat}
    (inRange : id < numTerm) : (kernel.terminalRestore layout id).1.CursorKept := by
  obtain ⟨xLt, yLt⟩ := saved id inRange
  have copied := ((placeCursor bufferIndex saved xLt yLt).mapTermVID layout id).memcpy
    layout video (kernel.terminals id).termVidMem pageBytes4KB
  rw [Kernel.terminalRestore, if_neg (Nat.not_le_of_lt inRange)]
  exact copied.unlessFaulting (copied.setBufferIndex _)

theorem terminalRestore (kept : kernel.CursorKept) (layout : KernelLayout) (id : Nat) :
    (kernel.terminalRestore layout id).1.CursorKept := by
  by_cases inRange : id < numTerm
  · exact of_terminalRestore kept.bufferIndex kept.saved layout inRange
  · rw [Kernel.terminalRestore, if_pos (Nat.le_of_not_lt inRange)]
    exact kept

theorem vidmap (kept : kernel.CursorKept) (layout : KernelLayout) (screenStart : Nat) :
    (kernel.vidmap layout screenStart).1.CursorKept := by
  unfold Kernel.vidmap
  split
  · exact kept
  · have mapped : (kernel.setPaging
        (kernel.paging.newUserVIDPage layout userImgEnd)).CursorKept :=
      kept.of_same ⟨rfl, rfl, rfl, rfl, rfl⟩
    exact mapped.afterCopy _

theorem userStore (kept : kernel.CursorKept) (layout : KernelLayout) (linear : Nat)
    (value : UInt8) : (kernel.userStore layout linear value).CursorKept := by
  unfold Kernel.userStore
  split
  · exact kept
  split
  · exact kept.of_same ⟨rfl, rfl, rfl, rfl, rfl⟩
  · exact kept

theorem terminalChange (kept : kernel.CursorKept) (target : Nat) :
    (kernel.terminalChange layout target).1.CursorKept := by
  have saved := kept.terminalSave layout kernel.tty.keyboard.curTermId
  unfold Kernel.terminalChange
  split
  · exact kept
  apply saved.unlessFaulting
  split
  · exact saved
  have restored := saved.terminalRestore layout target
  apply restored.unlessFaulting
  split
  · exact restored
  · exact (restored.setCurTermId target).mapTermVID layout target

/-- `execute` prints, and leaves the rest of the terminal alone. -/
theorem execute (kept : kernel.CursorKept) (stale : StaleLocals)
    (command : Option (List UInt8)) :
    (kernel.execute layout fs stale command).1.CursorKept := by
  have done := kernel.execute_cases layout fs stale command
  generalize kernel.execute layout fs stale command = result at done ⊢
  cases done with
  | refused bytes => exact kept.print bytes
  | headerFault bytes => exact (kept.print bytes).of_same ⟨rfl, rfl, rfl, rfl, rfl⟩
  | loadFault bytes inode id program free faulted =>
      exact (kept.print bytes).of_same ⟨rfl, rfl, rfl, rfl, rfl⟩
  | started bytes inode id entryPoint arg program free loaded =>
      exact (kept.print bytes).of_same ⟨rfl, rfl, rfl, rfl, rfl⟩

theorem markLaunched (kept : kernel.CursorKept) {target : Nat} (inRange : target < numTerm) :
    (kernel.markLaunched target).CursorKept := by
  obtain ⟨xLt, yLt⟩ := kept.saved target inRange
  have marked := kept.setTerminal target
    (show ({ kernel.terminals target with isInUseFlag := true } : Term).x < 80 from xLt) yLt
  exact marked.setCurTermId target

theorem launchSaved (kept : kernel.CursorKept) (stale : StaleLocals) {target : Nat}
    (inRange : target < numTerm) :
    (kernel.launchSaved layout fs stale target).1.CursorKept := by
  have restored := (kept.markLaunched inRange).terminalRestore layout target
  apply restored.unlessFaulting
  rw [returnZero_kernel]
  exact (restored.setDevices _).execute stale shellCommand

theorem terminalLoS (kept : kernel.CursorKept) (stale : StaleLocals) (target : Nat) :
    (kernel.terminalLoS layout fs stale target).1.CursorKept := by
  unfold Kernel.terminalLoS
  split
  · exact kept
  rename_i inRange
  split
  · exact kept
  split
  · exact kept.terminalChange target
  unfold Kernel.terminalLaunch
  split
  · exact kept
  split
  · rw [printfPlain_eq]
    exact kept.print _
  have saved := kept.terminalSave layout kernel.tty.keyboard.curTermId
  apply saved.unlessFaulting
  split
  · exact saved
  · exact saved.launchSaved stale (Nat.lt_of_not_le inRange)

theorem leaveProcess (kept : kernel.CursorKept) : kernel.leaveProcess.CursorKept := by
  apply kept.of_same
  apply SameCursor.of_tty
  · exact ignoresCalls_tty.closeFiles kernel
  · exact ignoresCalls_terminals.closeFiles kernel

theorem halt (kept : kernel.CursorKept) (stale : StaleLocals) (status : Nat) :
    (kernel.halt layout fs stale status).1.CursorKept := by
  have left := kept.leaveProcess
  by_cases isRoot : kernel.activeProcNum = 0
  · rw [halt_of_root layout fs stale status isRoot, returnZero_kernel]
    exact left.execute stale shellCommand
  · rw [halt_of_child layout fs stale status isRoot]
    exact left.of_same ⟨rfl, rfl, rfl, rfl, rfl⟩

theorem write (kept : kernel.CursorKept) (stale : StaleLocals) (fd : Int)
    (buf : Option CString) (nbytes : Int) :
    (kernel.write stale fd buf nbytes).1.CursorKept := by
  rcases kernel.write_result stale fd buf nbytes with ⟨devices, wrote⟩ | ⟨bytes, wrote⟩
  · rw [wrote]
    exact kept.setDevices devices
  · rw [wrote]
    exact kept.print bytes

/-- Of the calls on descriptors only `write` reaches the terminal. -/
theorem fileCall (kept : kernel.CursorKept) (request : FileRequest) (stale : StaleLocals) :
    (kernel.fileCall fs ⟨request.wokenIn kernel.tty, stale⟩).1.CursorKept := by
  cases request with
  | «open» filename =>
      apply kept.of_same
      exact .of_tty (ignoresCalls_tty.open fs kernel stale filename)
        (ignoresCalls_terminals.open fs kernel stale filename)
  | close fd =>
      apply kept.of_same
      exact .of_tty (ignoresCalls_tty.close kernel fd)
        (ignoresCalls_terminals.close kernel fd)
  | read fd buf nbytes woken =>
      apply kept.of_same
      exact .of_tty (ignoresCalls_tty.read fs kernel stale fd _ nbytes)
        (ignoresCalls_terminals.read fs kernel stale fd _ nbytes)
  | write fd buf nbytes => exact kept.write stale fd buf nbytes

theorem finishInterrupt {done : Kernel × Outcome} (kept : done.1.CursorKept) :
    (Kernel.finishInterrupt done).1.CursorKept := by
  obtain ⟨devices, outcome, finished, -⟩ := finishInterrupt_eq done
  rw [finished]
  exact kept.setDevices devices

/-- A key is handled in place, by `halt` or by `terminal_LoS`. -/
theorem keyboardIntHandler (kept : kernel.CursorKept) (stale : StaleLocals) (key : Nat) :
    (kernel.keyboardIntHandler layout fs stale key).1.CursorKept := by
  have edits := kernel.tty.handleKey_edits kept.fits key
  have edited : ((kernel.setDevices (kernel.devices.disableIrq keyboardIrq)).setTty
      (kernel.tty.handleKey key).1).CursorKept :=
    ⟨edits.fits.onScreen, Tty.handleKey_located kept.fits kept.located key,
      edits.fits.bufferIndex, kept.saved⟩
  rw [keyboardIntHandler_eq]
  apply finishInterrupt
  cases (kernel.tty.handleKey key).2 with
  | done => exact edited
  | halt => exact (edited.setDevices _).halt stale 0
  | terminalLoS id => exact (edited.setDevices _).terminalLoS stale id

theorem initTerminal (kept : kernel.CursorKept) (layout : KernelLayout) (id : Nat) :
    (Kernel.initTerminal layout id kernel).CursorKept := by
  unfold Kernel.initTerminal
  split
  · exact kept
  · have xLt : (freshTerminal id).x < 80 := Nat.zero_lt_succ 79
    have yLt : (freshTerminal id).y < 25 := Nat.zero_lt_succ 24
    have fresh := kept.setTerminal id xLt yLt
    exact (fresh.mapTermVID layout id).colorScreen layout _

/-- The end of `init_terminals`, once the saved terminals are set up. -/
theorem displayFirst (saved : kernel.SavedOnScreen) (layout : KernelLayout) :
    (kernel.displayFirst layout).1.CursorKept := by
  have index : kernel.selectFirst.tty.keyboard.bufferIndex < 256 :=
    Nat.mod_lt _ (by decide)
  have restored := of_terminalRestore index (selectFirst_saved saved) layout
    (show terminalId0 < numTerm by decide)
  unfold Kernel.displayFirst
  apply restored.unlessFaulting
  exact restored.memcpy layout video _ _

theorem prepareTerminals (kept : kernel.CursorKept) (layout : KernelLayout) :
    (kernel.prepareTerminals layout).1.CursorKept := by
  have filled : (forUpTo numTerm (Kernel.initTerminal layout) kernel).CursorKept := by
    apply forUpTo_invariant fun _ (current : Kernel) => current.CursorKept
    · exact kept
    · intro id _ current before
      exact before.initTerminal layout id
  unfold Kernel.prepareTerminals
  apply filled.unlessFaulting
  exact displayFirst filled.saved layout

theorem initTerminals (prepared : (kernel.prepareTerminals layout).1.CursorKept)
    (stale : StaleLocals) :
    (kernel.initTerminals layout fs stale).1.CursorKept := by
  unfold Kernel.initTerminals
  apply prepared.unlessFaulting
  rw [returnZero_kernel]
  exact prepared.execute stale shellCommand

/-- Every event keeps the cursor. -/
theorem handle (kept : kernel.CursorKept) (event : Event) :
    (kernel.handle layout fs event).1.CursorKept := by
  cases event with
  | trap => exact kept.moves kernel.trapStack kernel.ebp false
  | iret => exact kept.moves kernel.esp kernel.ebp true
  | moveStack esp ebp => exact kept.moves esp ebp kernel.userMode
  | initTerminals stale => exact initTerminals (kept.prepareTerminals layout) stale
  | execute command stale => exact kept.execute stale command
  | halt status stale => exact kept.halt stale status
  | exception message stale =>
      have cleared : ({ kernel with faulting := false } : Kernel).CursorKept :=
        kept.of_same ⟨rfl, rfl, rfl, rfl, rfl⟩
      exact (cleared.print message).halt stale exceptRetval
  | fileCall request stale => exact kept.fileCall request stale
  | vidmap screenStart => exact kept.vidmap layout screenStart
  | keyboard key stale => exact kept.keyboardIntHandler stale key
  | rtcInterrupt => exact kept.setDevices _
  | pitInterrupt => exact kept.setDevices _
  | print bytes => exact kept.print bytes
  | terminalSave id => exact kept.terminalSave layout id
  | terminalRestore id => exact kept.terminalRestore layout id
  | userStore linear value => exact kept.userStore layout linear value

end CursorKept

/-- The first loop of `init_terminals` sets every saved cursor, and its end places the
cursor there, wherever it was. -/
theorem prepareTerminals_cursorKept {mappings : Mappings}
    (represents : kernel.paging.Represents layout mappings)
    (running : kernel.faulting = false) :
    (kernel.prepareTerminals layout).1.CursorKept := by
  have cleared := cleared_terminals represents running
  rw [prepareTerminals, unlessFaulting_of_running _ _ cleared.running]
  apply CursorKept.displayFirst
  intro id idLt
  rw [cleared.terminals id idLt]
  exact ⟨Nat.zero_lt_succ 79, Nat.zero_lt_succ 24⟩

/-- The cursor is on the screen, its VGA position is its own, the saved cursors are on
the screen, and what output and keys store next stays on the screen. -/
structure CursorHolds (kernel : Kernel) : Prop where
  column : 0 ≤ kernel.tty.console.screenX ∧ kernel.tty.console.screenX < 80
  row : 0 ≤ kernel.tty.console.screenY ∧ kernel.tty.console.screenY < 25
  saved : ∀ id < numTerm, (kernel.terminals id).x < 80 ∧ (kernel.terminals id).y < 25
  location : (kernel.tty.console.cursorLocation : Int) =
    80 * kernel.tty.console.screenY + kernel.tty.console.screenX
  unclamped : kernel.tty.console.cursorLocation < numCols * numRows
  putc : ∀ bytes, TracedMemory.StoresOnly screenRegion kernel.mem
    (kernel.tty.console.putAll bytes).mem
  moveScreenUp : TracedMemory.StoresOnly screenRegion kernel.mem
    kernel.tty.console.moveScreenUp.mem
  pressBskp : TracedMemory.StoresOnly screenRegion kernel.mem
    kernel.tty.pressBskp.console.mem
  handleKey : ∀ key, TracedMemory.StoresOnly screenRegion kernel.mem
    (kernel.tty.handleKey key).1.console.mem

theorem CursorKept.holds (kept : kernel.CursorKept) : kernel.CursorHolds where
  column := ⟨kept.onScreen.left, kept.onScreen.right⟩
  row := ⟨kept.onScreen.top, kept.onScreen.bottom⟩
  saved := kept.saved
  location := kept.located
  unclamped := by
    obtain ⟨left, right, top, bottom⟩ := kept.onScreen
    have located := kept.located
    unfold Console.Located at located
    simp only [numCols, numRows]
    omega
  putc bytes := Console.putAll_storesOnly kept.onScreen bytes
  moveScreenUp := kernel.tty.console.moveScreenUp_storesOnly
  pressBskp := (Tty.pressBskp_edits kept.fits).memory
  handleKey key := (kernel.tty.handleKey_edits kept.fits key).memory

/-- From `init_terminals` on the cursor is kept in every run, also while the shell of a
terminal is launched. -/
theorem cursor_of_run {boot first : Kernel} {labels : List (Event × Outcome)}
    {stale : StaleLocals} {outcome : Outcome} (booted : boot.Boots layout)
    (initialised : boot.Step layout fs (.initTerminals stale, outcome) first)
    (run : Run (Kernel.Step layout fs) first labels kernel) :
    kernel.CursorHolds ∧
      ∀ target < numTerm, (kernel.requesting.launchPoint layout target).CursorHolds := by
  have serves := booted.serves
  obtain ⟨mappings, represents⟩ := serves.holds.represents
  have start : first.CursorKept := by
    have prepared := prepareTerminals_cursorKept represents serves.running
    have started := @CursorKept.initTerminals layout fs boot prepared stale
    have handled : boot.initTerminals layout fs stale = (first, outcome) := initialised.2
    rw [handled] at started
    exact started
  have kept : kernel.CursorKept := by
    apply run.invariant Kernel.CursorKept _ start
    rintro state label next before ⟨-, handled⟩
    have after := @CursorKept.handle layout fs state before label.1
    rw [handled] at after
    exact after
  refine ⟨kept.holds, fun target inRange => ?_⟩
  have requesting : kernel.requesting.CursorKept := kept.setDevices _
  have saved := requesting.terminalSave layout kernel.displayed
  have restored := (saved.markLaunched inRange).terminalRestore layout target
  exact (restored.setDevices _).holds

/-- The cursor where a shell that the first one has executed is halted with Ctrl and
c. -/
theorem cursor_of_first_shell :
    ∃ labels outcome first kernel,
      startedKernel.Step lowLayout stockedImage (.initTerminals .zero, outcome) first ∧
      labels.map Prod.fst = nestedMoves.map Move.event ∧
      Run (Kernel.Step lowLayout stockedImage) first labels kernel ∧
      kernel.CursorHolds ∧
      ∀ target < numTerm, (kernel.requesting.launchPoint lowLayout target).CursorHolds := by
  obtain ⟨after, labels, outcome, first, kernel, -, events, firstStep, rest, -⟩ :=
    exists_nestedMoves
  have run := rest.mono fun _ _ _ step => step.1
  exact ⟨labels, outcome, first, kernel, firstStep.1, events, run,
    cursor_of_run startedKernel_boots firstStep.1 run⟩

end Kernel

end ChapOS
