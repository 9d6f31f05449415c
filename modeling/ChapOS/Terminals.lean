import ChapOS.Processes

/-!
# The terminals of `keyboard.c`

Only one terminal is displayed; the screens of the others are saved in backing
pages that take turns at one virtual address.  Saving, restoring, launching and
changing terminals copy through the page tables.
-/

namespace ChapOS

open CountedLoops

@[simp] abbrev pageBytes4KB : Nat := 0x1000
@[simp] abbrev terminalAttrib : UInt8 := 0x02
@[simp] abbrev terminalId0 : Nat := 0

namespace Kernel

/-- `*dest = *src` in a copy between linear addresses. -/
def copyByte (layout : KernelLayout) (paging : Paging) (dest src : Nat)
    (copied : Copied PhysicalMemory) : Copied PhysicalMemory :=
  if copied.faulted then copied
  else
    match paging.walk layout src, paging.walk layout dest with
    | some source, some target =>
        ⟨copied.memory.store target.physical (copied.memory.read source.physical), false⟩
    | _, _ => ⟨copied.memory, true⟩

/-- `*dest = value` in a loop over linear addresses. -/
def assignByte (layout : KernelLayout) (paging : Paging) (dest : Nat) (value : UInt8)
    (copied : Copied PhysicalMemory) : Copied PhysicalMemory :=
  if copied.faulted then copied
  else
    match paging.walk layout dest with
    | some target => ⟨copied.memory.store target.physical value, false⟩
    | none => ⟨copied.memory, true⟩

/-- The kernel after a copy, which may have ended in a page fault. -/
def afterCopy (kernel : Kernel) (copied : Copied PhysicalMemory) : Kernel :=
  if copied.faulted then (kernel.setMem copied.memory).fault
  else kernel.setMem copied.memory

/-- `memcpy`. -/
@[irreducible]
def memcpy (layout : KernelLayout) (kernel : Kernel) (dest src n : Nat) : Kernel :=
  kernel.afterCopy
    (forUpTo n
      (fun i => copyByte layout kernel.paging ((dest + i) % 2 ^ 32) ((src + i) % 2 ^ 32))
      ⟨kernel.mem, false⟩)

/-- Go on unless a page fault is pending. -/
def unlessFaulting {Value : Type} (kernel : Kernel) (faulted : Value)
    (next : Kernel → Kernel × Value) : Kernel × Value :=
  if kernel.faulting then (kernel, faulted) else next kernel

/-- Overwrite one saved terminal. -/
def setTerminal (kernel : Kernel) (id : Nat) (terminal : Term) : Kernel :=
  { kernel with terminals := Function.update kernel.terminals id terminal }

/-- `buffer_index = index`. -/
def setBufferIndex (kernel : Kernel) (index : Nat) : Kernel :=
  kernel.setTty (kernel.tty.setBufferIndex index)

/-- `set_cur_term_id`. -/
def setCurTermId (kernel : Kernel) (id : Nat) : Kernel :=
  kernel.setTty
    { kernel.tty with keyboard := { kernel.tty.keyboard with curTermId := id } }

/-- `set_coordX`, `set_coordY` and `move_curser`. -/
def placeCursor (kernel : Kernel) (x y : Nat) : Kernel :=
  kernel.setConsole { kernel.tty.console with screenX := x, screenY := y }.moveCurser

/-- `mapTermVID`. -/
def mapTermVID (layout : KernelLayout) (kernel : Kernel) (id : Nat) : Kernel :=
  kernel.setPaging (kernel.paging.mapTermVID layout id).1

/-- `terminal_restore`. -/
def terminalRestore (layout : KernelLayout) (kernel : Kernel) (id : Nat) :
    Kernel × Int :=
  if numTerm ≤ id then (kernel, -1)
  else
    (((kernel.placeCursor (kernel.terminals id).x (kernel.terminals id).y).mapTermVID
        layout id).memcpy layout video (kernel.terminals id).termVidMem
          pageBytes4KB).unlessFaulting (-1) fun copied =>
      (copied.setBufferIndex (kernel.terminals id).bufferIndex, 0)

/-- The saved terminal that `terminal_save` writes. -/
def savedTerminal (kernel : Kernel) (id : Nat) : Term :=
  { kernel.terminals id with
    x := (kernel.tty.console.screenX % 256).toNat
    y := (kernel.tty.console.screenY % 256).toNat
    bufferIndex := kernel.tty.keyboard.bufferIndex }

/-- `terminal_save`. -/
def terminalSave (layout : KernelLayout) (kernel : Kernel) (id : Nat) : Kernel × Int :=
  if numTerm ≤ id then (kernel, -1)
  else
    (((kernel.setTerminal id (kernel.savedTerminal id)).mapTermVID layout id).memcpy
      layout (kernel.terminals id).termVidMem video pageBytes4KB, 0)

/-- Make a terminal that has not been launched the current one. -/
def markLaunched (kernel : Kernel) (target : Nat) : Kernel :=
  (kernel.setTerminal target
    { kernel.terminals target with isInUseFlag := true }).setCurTermId target

/-- `terminal_launch` once the current terminal is saved. -/
def launchSaved (layout : KernelLayout) (fs : FileSystem) (stale : StaleLocals)
    (target : Nat) (kernel : Kernel) : Kernel × Outcome :=
  ((kernel.markLaunched target).terminalRestore layout target).1.unlessFaulting
    .pageFault fun restored =>
      returnZero
        ((restored.setDevices (restored.devices.enableIrq keyboardIrq)).execute layout
          fs stale shellCommand)

/-- `terminal_launch`. -/
def terminalLaunch (layout : KernelLayout) (fs : FileSystem) (stale : StaleLocals)
    (kernel : Kernel) (target : Nat) : Kernel × Outcome :=
  if target = kernel.tty.keyboard.curTermId then (kernel, .returned 0)
  else if numTerm ≤ target ∨ numTerm ≤ kernel.tty.keyboard.curTermId then
    (kernel.printfPlain "launch fail", .returned (-1))
  else
    (kernel.terminalSave layout kernel.tty.keyboard.curTermId).1.unlessFaulting
      .pageFault fun saved =>
        if (kernel.terminalSave layout kernel.tty.keyboard.curTermId).2 = -1 then
          (saved, .returned (-1))
        else saved.launchSaved layout fs stale target

/-- `terminal_change` once the current terminal is saved. -/
def changeSaved (layout : KernelLayout) (target : Nat) (kernel : Kernel) :
    Kernel × Outcome :=
  (kernel.terminalRestore layout target).1.unlessFaulting .pageFault fun restored =>
    if (kernel.terminalRestore layout target).2 = -1 then (restored, .returned (-1))
    else ((restored.setCurTermId target).mapTermVID layout target, .returned 0)

/-- `terminal_change`. -/
def terminalChange (layout : KernelLayout) (kernel : Kernel) (target : Nat) :
    Kernel × Outcome :=
  if numTerm ≤ target then (kernel, .returned (-1))
  else
    (kernel.terminalSave layout kernel.tty.keyboard.curTermId).1.unlessFaulting
      .pageFault fun saved =>
        if (kernel.terminalSave layout kernel.tty.keyboard.curTermId).2 = -1 then
          (saved, .returned (-1))
        else saved.changeSaved layout target

/-- `terminal_LoS`. -/
def terminalLoS (layout : KernelLayout) (fs : FileSystem) (stale : StaleLocals)
    (kernel : Kernel) (target : Nat) : Kernel × Outcome :=
  if numTerm ≤ target then (kernel, .returned (-1))
  else if target = kernel.tty.keyboard.curTermId then (kernel, .returned 0)
  else if (kernel.terminals target).isInUseFlag then
    kernel.terminalChange layout target
  else kernel.terminalLaunch layout fs stale target

/-- A terminal as `init_terminals` leaves it in its first loop. -/
def freshTerminal (id : Nat) : Term where
  termId := id
  activeFlag := false
  termVidMem := termVirAddr
  x := 0
  y := 0
  bufferIndex := 0
  isInUseFlag := false

/-- Set the colour of a whole screen. -/
def colorScreen (layout : KernelLayout) (kernel : Kernel) (count : Nat) : Kernel :=
  kernel.afterCopy
    (forUpTo count
      (fun k => assignByte layout kernel.paging (termVirAddr + 2 * k + 1) terminalAttrib)
      ⟨kernel.mem, false⟩)

/-- One round of the first loop of `init_terminals`. -/
def initTerminal (layout : KernelLayout) (id : Nat) (kernel : Kernel) : Kernel :=
  if kernel.faulting then kernel
  else
    ((kernel.setTerminal id (freshTerminal id)).mapTermVID layout id).colorScreen layout
      (numRows * numCols)

/-- The assignments of `init_terminals` after its first loop. -/
def selectFirst (kernel : Kernel) : Kernel :=
  ((kernel.setBufferIndex (kernel.terminals terminalId0).bufferIndex).setCurTermId
    terminalId0).setTerminal terminalId0
      { kernel.terminals terminalId0 with isInUseFlag := true }

/-- `init_terminals` from the end of its first loop to the call of `execute`. -/
def displayFirst (layout : KernelLayout) (kernel : Kernel) : Kernel × Int :=
  (kernel.selectFirst.terminalRestore layout terminalId0).1.unlessFaulting 0
    fun restored =>
      (restored.memcpy layout video (restored.terminals terminalId0).termVidMem
        pageBytes4KB, 0)

/-- `init_terminals` before it starts the first shell. -/
def prepareTerminals (layout : KernelLayout) (kernel : Kernel) : Kernel × Int :=
  (forUpTo numTerm (initTerminal layout) kernel).unlessFaulting 0 (displayFirst layout)

/-- `init_terminals`. -/
def initTerminals (layout : KernelLayout) (fs : FileSystem) (stale : StaleLocals)
    (kernel : Kernel) : Kernel × Outcome :=
  (kernel.prepareTerminals layout).1.unlessFaulting .pageFault fun prepared =>
    returnZero (prepared.execute layout fs stale shellCommand)

/-- The end of `keyboard_int_handler` after a function that returned. -/
def finishInterrupt (done : Kernel × Outcome) : Kernel × Outcome :=
  match done.2 with
  | .returned _ =>
      (done.1.setDevices
        ((done.1.devices.sendEoi keyboardIrq).enableIrq keyboardIrq), .returned 0)
  | _ => done

/-- `keyboard_int_handler` for a scancode read from the keyboard. -/
def keyboardIntHandler (layout : KernelLayout) (fs : FileSystem) (stale : StaleLocals)
    (kernel : Kernel) (key : Nat) : Kernel × Outcome :=
  let masked := kernel.setDevices (kernel.devices.disableIrq keyboardIrq)
  let handled := masked.tty.handleKey key
  let edited := masked.setTty handled.1
  finishInterrupt
    (match handled.2 with
    | .done => (edited, .returned 0)
    | .halt =>
        (edited.setDevices
          ((edited.devices.sendEoi keyboardIrq).enableIrq keyboardIrq)).halt
            layout fs stale 0
    | .terminalLoS id =>
        (edited.setDevices (edited.devices.sendEoi keyboardIrq)).terminalLoS
          layout fs stale id)

/-- `vidmap`. -/
def vidmap (layout : KernelLayout) (kernel : Kernel) (screenStart : Nat) :
    Kernel × Int :=
  if screenStart < userImgStart ∨ userImgEnd ≤ screenStart then (kernel, -1)
  else
    let mapping := kernel.setPaging (kernel.paging.newUserVIDPage layout userImgEnd)
    (mapping.afterCopy
      (forUpTo 4
        (fun i => assignByte layout mapping.paging (screenStart + i)
          (FileSystem.littleEndian userImgEnd i))
        ⟨mapping.mem, false⟩), userImgEnd)

end Kernel

end ChapOS
