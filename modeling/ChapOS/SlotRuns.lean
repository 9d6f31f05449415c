import ChapOS.ClockFrames

/-!
# Runs of shells over process slots

What becomes of the process slots while shells start each other, halt, open the
clock and start a program that does not fit, computed on a view of the kernel:
the flags and PCBs of the six slots, the running process, and the slot on whose
kernel stack ESP is.  Every move of the view is a step of the kernel, also where
the slots are out of order.
-/

namespace ChapOS

open CountedLoops

/-- What is followed of a PCB.  `home` is the slot on whose kernel stack the saved
ESP lies, and `file` what descriptor 2 is open on. -/
structure SlotView where
  procNum : Nat
  parentProcNum : Nat
  home : Nat
  file : Option FileOps
  deriving DecidableEq, Repr

/-- Who runs: a program, the kernel, or the handler of the kernel's page fault. -/
inductive Mode where
  | program
  | kernel
  | faulting
  deriving DecidableEq, Repr

structure KernelView where
  flags : Nat → Nat
  active : Nat
  block : Nat
  mode : Mode
  ctrl : Bool
  slots : Nat → SlotView
  regA : UInt8

inductive Move where
  | trap
  | iret
  /-- The shell is executed. -/
  | shell
  /-- A program is executed that does not fit the image page. -/
  | big
  /-- The clock is opened. -/
  | openClock
  /-- 1024 Hz are written to the clock. -/
  | setRate
  | halt
  /-- The handler of the page fault. -/
  | exception
  | pressCtrl
  | pressC
  deriving DecidableEq, Repr

namespace KernelView

/-- `halt` up to the switch back. -/
def leave (view : KernelView) : KernelView :=
  let own := view.slots view.block
  { view with
    flags := Function.update view.flags view.active 0
    active := own.parentProcNum
    slots := Function.update view.slots view.block { own with file := none }
    regA := if own.file = some .rtcOpsTbl then idleRate view.regA else view.regA }

/-- A shell starts in the first free slot. -/
def enter (view : KernelView) : Option KernelView :=
  (Kernel.freeProcIdFrom view.flags maxProcesses 0).map fun id =>
    { view with
      flags := Function.update view.flags id 1
      active := id
      mode := .program
      slots := Function.update view.slots id
        { procNum := id
          parentProcNum := if id = 0 then 0 else (view.slots (id - 1)).procNum
          home := view.block
          file := (view.slots id).file } }

/-- `halt`; a PCB that never held a process leads nowhere. -/
def halt (view : KernelView) : Option KernelView :=
  let own := view.slots view.block
  if own.parentProcNum < 6 ∧ own.home < 6 then
    if view.active = 0 then view.leave.enter
    else some { view.leave with block := own.home, mode := .kernel }
  else none

/-- What a move does to the view, where it is followed. -/
def next (view : KernelView) : Move → Option KernelView
  | .trap =>
      if view.mode = .program then
        some { view with block := view.active, mode := .kernel }
      else none
  | .iret => if view.mode = .kernel then some { view with mode := .program } else none
  | .shell => if view.mode = .kernel then view.enter else none
  | .big =>
      if view.mode = .kernel then
        (Kernel.freeProcIdFrom view.flags maxProcesses 0).map fun id =>
          { view with flags := Function.update view.flags id 1, mode := .faulting }
      else none
  | .openClock =>
      let own := view.slots view.block
      if view.mode = .kernel ∧ own.file = none ∧ view.flags view.active ≠ 0 then
        some { view with
          slots := Function.update view.slots view.block
            { own with file := some .rtcOpsTbl }
          regA := idleRate view.regA }
      else none
  | .setRate =>
      if view.mode = .kernel ∧ (view.slots view.block).file = some .rtcOpsTbl ∧
          view.flags view.active ≠ 0 then
        some { view with regA := (view.regA &&& 0xF0) ||| 0x06 }
      else none
  | .halt => if view.mode = .kernel then view.halt else none
  | .exception => if view.mode = .faulting then view.halt else none
  | .pressCtrl =>
      if view.mode = .kernel then some { view with ctrl := true } else none
  | .pressC => if view.mode = .kernel ∧ view.ctrl = true then view.halt else none

/-- A sequence of moves. -/
def run : KernelView → List Move → Option KernelView
  | view, [] => some view
  | view, move :: moves => (view.next move).bind fun after => after.run moves

/-- The first shell runs, and no other PCB has been used. -/
def firstShell (home : Nat) (regA : UInt8) : KernelView where
  flags := Function.update (fun _ => 0) 0 1
  active := 0
  block := 0
  mode := .program
  ctrl := false
  slots id := if id = 0 then ⟨0, 0, home, none⟩ else ⟨0, 0, 0x3FF, none⟩
  regA := regA

end KernelView

/-- A PCB is as the view has it. -/
structure SlotView.Shows (slot : SlotView) (pcb : Pcb) : Prop where
  procNum : pcb.procNum = slot.procNum
  parentProcNum : pcb.parentProcNum = slot.parentProcNum
  home : pcb.ksp / stack8KB = stackBlock slot.home
  opened : ∀ ops, slot.file = some ops →
    (pcb.fDescs 2).flags = flagActive ∧ (pcb.fDescs 2).fopsJmpTbPtr = ops
  closed : slot.file = none → (pcb.fDescs 2).flags ≠ flagActive
  others : ∀ fd < 8, fd ≠ 2 → ¬(pcb.fDescs fd).IsClock

/-- The kernel is as the view has it. -/
structure KernelView.Shows (layout : KernelLayout) (view : KernelView)
    (kernel : Kernel) : Prop where
  represents : ∃ mappings, kernel.paging.Represents layout mappings
  userMode : kernel.userMode = decide (view.mode = .program)
  faulting : kernel.faulting = decide (view.mode = .faulting)
  procIdFlags : kernel.procIdFlags = view.flags
  activeProcNum : kernel.activeProcNum = view.active
  activeLt : view.active < 6
  tssEsp0 : kernel.tssEsp0 = Kernel.kernelStackTop view.active
  onStack : view.mode ≠ .program → kernel.esp / stack8KB = stackBlock view.block
  blockLt : view.block < 6
  ctrl : view.ctrl = true → kernel.tty.keyboard.ctrlFlag = true
  slots : ∀ id < 6, (view.slots id).Shows (kernel.pcbAt (pcbAddress id))
  regA : kernel.devices.rtcRegA = view.regA

/-- The image has what the moves execute and open. -/
structure FileSystem.Stocked (fs : FileSystem) : Prop where
  shell : fs.HasShell
  big : ∃ index, fs.findEntry (parseCommand [0x62, 0x69, 0x67]).1.fileNameCommand.read =
      some index ∧
    fs.HasHeader (fs.entryInode index) ∧ 0x3BA000 < fs.inodeLength (fs.entryInode index)
  clock : ∃ index, fs.findEntry (literal "rtc") = some index ∧ fs.entryType index = 0

/-- The event of a move. -/
def Move.event : Move → Event
  | .trap => .trap
  | .iret => .iret
  | .shell => .execute Kernel.shellCommand .zero
  | .big => .execute bigCommand .zero
  | .openClock => .fileCall (.open (some (literal "rtc"))) .zero
  | .setRate =>
      .fileCall (.write 2 (some (cString [0x00, 0x04, 0x00, 0x00])) 4) .zero
  | .halt => .halt 0 .zero
  | .exception => .exception pageFaultMessage .zero
  | .pressCtrl => .keyboard ctrlDown .zero
  | .pressC => .keyboard 0x2E .zero

/-- The kernel can follow a move. -/
def Kernel.Follows (layout : KernelLayout) (fs : FileSystem) (kernel : Kernel)
    (move : Move) (after : KernelView) : Prop :=
  ∃ outcome next, kernel.Step layout fs (move.event, outcome) next ∧
    after.Shows layout next

/-- With the Ctrl key down, the key c halts. -/
theorem handleKey_ctrlC {tty : Tty} (ctrl : tty.keyboard.ctrlFlag = true) :
    tty.handleKey 0x2E = (tty, .halt) := by
  have isC : scancodeArray tty.keyboard.keyboardMode 0x2E = 0x63 ∨
      scancodeArray tty.keyboard.keyboardMode 0x2E = 0x43 := by
    cases tty.keyboard.keyboardMode <;> decide
  have handled : tty.handleKey 0x2E = tty.pressOtherKey 0x2E := rfl
  rw [handled, Tty.pressOtherKey, if_neg (by decide)]
  rcases isC with small | capital
  · simp [small, ctrl, keyNull]
  · simp [capital, ctrl, keyNull]

/-- The program that does not fit takes a process id and faults. -/
theorem FileSystem.Stocked.execute_big {layout : KernelLayout} {fs : FileSystem}
    (stocked : fs.Stocked) {kernel : Kernel} {mappings : Mappings}
    (represents : kernel.paging.Represents layout mappings) {id : Nat} (idLe : id ≤ 6)
    (free : Kernel.freeProcIdFrom kernel.procIdFlags maxProcesses 0 = some id) :
    ∃ mem, kernel.execute layout fs .zero bigCommand =
      (((kernel.claimProcess id).setMem mem).fault, .pageFault) := by
  obtain ⟨index, found, hasHeader, large⟩ := stocked.big
  refine ⟨(kernel.loadFor layout fs id (fs.entryInode index)).memory, ?_⟩
  rw [bigCommand, Kernel.execute_of_found layout .zero kernel (by decide +kernel) found]
  exact Kernel.executeFile_of_oversized .zero _ represents hasHeader large idLe free

namespace KernelView.Shows

variable {layout : KernelLayout} {fs : FileSystem} {kernel : Kernel}
  {view after : KernelView}

theorem running (shows : view.Shows layout kernel) (notFaulting : view.mode ≠ .faulting) :
    kernel.faulting = false := by
  rw [shows.faulting]
  exact decide_eq_false notFaulting

theorem kernelMode (shows : view.Shows layout kernel) (inKernel : view.mode ≠ .program) :
    kernel.userMode = false := by
  rw [shows.userMode]
  exact decide_eq_false inKernel

theorem getPcbPtr (shows : view.Shows layout kernel) (inKernel : view.mode ≠ .program) :
    kernel.getPcbPtr = pcbAddress view.block := by
  have blockLt := shows.blockLt
  exact pcbPtr_of_block (by omega) (shows.onStack inKernel)

theorem currentPcb (shows : view.Shows layout kernel) (inKernel : view.mode ≠ .program) :
    (view.slots view.block).Shows kernel.currentPcb := by
  rw [Kernel.currentPcb, shows.getPcbPtr inKernel]
  exact shows.slots view.block shows.blockLt

theorem trap (shows : view.Shows layout kernel) (isProgram : view.mode = .program) :
    kernel.Follows layout fs .trap { view with block := view.active, mode := .kernel } := by
  have running := shows.running (by rw [isProgram]; decide)
  have userMode : kernel.userMode = true := by
    rw [shows.userMode, isProgram]
    rfl
  refine ⟨_, _, ⟨⟨running, userMode⟩, rfl⟩, ?_⟩
  exact
    { shows with
      userMode := rfl
      faulting := running
      onStack := fun _ => by
        show kernel.trapStack / stack8KB = stackBlock view.active
        rw [Kernel.trapStack, shows.tssEsp0]
        exact trapStack_block shows.activeLt
      blockLt := shows.activeLt }

theorem iret (shows : view.Shows layout kernel) (isKernel : view.mode = .kernel) :
    kernel.Follows layout fs .iret { view with mode := .program } := by
  have running := shows.running (by rw [isKernel]; decide)
  have kernelMode := shows.kernelMode (by rw [isKernel]; decide)
  refine ⟨_, _, ⟨⟨running, kernelMode⟩, rfl⟩, ?_⟩
  exact
    { shows with
      userMode := rfl
      faulting := running
      onStack := fun inKernel => absurd rfl inKernel }

/-- A shell is started in the first free slot, whatever it held before. -/
theorem enter (shows : view.Shows layout kernel) (isKernel : view.mode = .kernel)
    (shell : fs.HasShell) (entered : view.enter = some after) :
    ∃ entryPoint next,
      kernel.execute layout fs .zero Kernel.shellCommand = (next, .running entryPoint) ∧
        after.Shows layout next := by
  have inKernel : view.mode ≠ .program := by rw [isKernel]; decide
  obtain ⟨id, free, rfl⟩ := Option.map_eq_some_iff.mp entered
  obtain ⟨-, -, idLt⟩ := Kernel.flag_of_freeProcIdFrom free
  simp only [maxProcesses] at idLt
  have isFree : kernel.freeProcId = some id := by
    rw [Kernel.freeProcId, shows.procIdFlags]
    exact free
  obtain ⟨entryPoint, next, started, starts⟩ :=
    execute_shell_enters shows.represents shell .zero isFree
  refine ⟨entryPoint, next, started, ?_⟩
  refine
    { represents := starts.represents
      userMode := starts.userMode
      faulting := starts.faulting.trans (shows.running (by rw [isKernel]; decide))
      procIdFlags := by rw [starts.procIdFlags, shows.procIdFlags]
      activeProcNum := starts.activeProcNum
      activeLt := by omega
      tssEsp0 := starts.tssEsp0
      onStack := fun inKernel => absurd rfl inKernel
      blockLt := shows.blockLt
      ctrl := fun pressed => by rw [starts.keyboard]; exact shows.ctrl pressed
      slots := ?_
      regA := by rw [starts.devices]; exact shows.regA }
  intro other otherLt
  by_cases isNew : other = id
  · subst isNew
    have old := shows.slots other otherLt
    dsimp only
    rw [Function.update_self]
    refine
      { procNum := starts.procNum
        parentProcNum := ?_
        home := by rw [starts.ksp]; exact shows.onStack inKernel
        opened := fun ops isOpen => by rw [starts.files 2 (by omega)]; exact old.opened ops isOpen
        closed := fun isClosed => by rw [starts.files 2 (by omega)]; exact old.closed isClosed
        others := fun fd fdLt notSecond isClock => by
          by_cases isFile : 2 ≤ fd
          · rw [starts.files fd isFile] at isClock
            exact old.others fd fdLt notSecond isClock
          · exact starts.terminal.not_isClock (by omega) isClock }
    rw [starts.parentProcNum]
    split
    · rfl
    · exact (shows.slots (other - 1) (by omega)).procNum
  · dsimp only
    rw [Function.update_of_ne isNew, starts.otherPcbs (pcbAddress other) fun same =>
      isNew (pcbAddress_injective otherLt (by omega) same)]
    exact shows.slots other otherLt

theorem shell (shows : view.Shows layout kernel) (isKernel : view.mode = .kernel)
    (stocked : fs.Stocked) (entered : view.enter = some after) :
    kernel.Follows layout fs .shell after := by
  have running := shows.running (by rw [isKernel]; decide)
  have kernelMode := shows.kernelMode (by rw [isKernel]; decide)
  obtain ⟨entryPoint, next, started, shown⟩ := shows.enter isKernel stocked.shell entered
  exact ⟨.running entryPoint, next, ⟨⟨running, kernelMode⟩, started⟩, shown⟩

theorem big (shows : view.Shows layout kernel) (isKernel : view.mode = .kernel)
    (stocked : fs.Stocked) {id : Nat}
    (free : Kernel.freeProcIdFrom view.flags maxProcesses 0 = some id) :
    kernel.Follows layout fs .big
      { view with flags := Function.update view.flags id 1, mode := .faulting } := by
  have running := shows.running (by rw [isKernel]; decide)
  have kernelMode := shows.kernelMode (by rw [isKernel]; decide)
  obtain ⟨mappings, represents⟩ := shows.represents
  obtain ⟨-, -, idLt⟩ := Kernel.flag_of_freeProcIdFrom free
  simp only [maxProcesses] at idLt
  have claimed := Kernel.claimProcess_represents represents (show id ≤ 6 by omega)
  obtain ⟨mem, faults⟩ := stocked.execute_big represents (show id ≤ 6 by omega)
    (shows.procIdFlags ▸ free)
  refine ⟨.pageFault, _, ⟨⟨running, kernelMode⟩, faults⟩, ?_⟩
  exact
    { shows with
      represents := ⟨_, claimed⟩
      userMode := kernelMode
      faulting := rfl
      procIdFlags := by rw [← shows.procIdFlags]; rfl
      onStack := fun _ => shows.onStack (by rw [isKernel]; decide) }

/-- The running process has an entry in its slot's PCB changed. -/
theorem setDesc (shows : view.Shows layout kernel) (inKernel : view.mode ≠ .program)
    (desc : FileDesc) (file : Option FileOps)
    (opened : ∀ ops, file = some ops → desc.flags = flagActive ∧ desc.fopsJmpTbPtr = ops)
    (closed : file = none → desc.flags ≠ flagActive) :
    KernelView.Shows layout
      { view with
        slots := Function.update view.slots view.block
          { view.slots view.block with file := file } }
      (kernel.setDesc 2 desc) := by
  have pointer := shows.getPcbPtr inKernel
  have own := shows.currentPcb inKernel
  refine { shows with slots := fun id idLt => ?_ }
  have pcb : (kernel.setDesc 2 desc).pcbAt (pcbAddress id) =
      if pcbAddress id = kernel.getPcbPtr then kernel.currentPcb.setDesc 2 desc
      else kernel.pcbAt (pcbAddress id) :=
    Function.update_apply _ _ _ _
  rw [pcb]
  by_cases current : id = view.block
  · subst current
    rw [if_pos pointer.symm]
    dsimp only
    rw [Function.update_self]
    exact
      { procNum := own.procNum
        parentProcNum := own.parentProcNum
        home := own.home
        opened := fun ops isOpen => by
          rw [Pcb.setDesc_fDescs_self]
          exact opened ops isOpen
        closed := fun isClosed => by
          rw [Pcb.setDesc_fDescs_self]
          exact closed isClosed
        others := fun fd fdLt notSecond => by
          rw [Pcb.setDesc_fDescs_of_ne _ _ notSecond]
          exact own.others fd fdLt notSecond }
  · rw [if_neg fun same => current (pcbAddress_injective idLt shows.blockLt
      (same.trans pointer))]
    dsimp only
    rw [Function.update_of_ne current]
    exact shows.slots id idLt

theorem setDevices (shows : view.Shows layout kernel) (devices : Devices) {regA : UInt8}
    (rate : devices.rtcRegA = regA) :
    KernelView.Shows layout { view with regA := regA } (kernel.setDevices devices) :=
  { shows with regA := rate }

/-- A descriptor call, given what it comes to. -/
theorem fileCall (shows : view.Shows layout kernel) (isKernel : view.mode = .kernel)
    (live : view.flags view.active ≠ 0) {request : FileRequest} {called : Kernel}
    {value : Int}
    (done : kernel.fileCall fs ⟨request.wokenIn kernel.tty, .zero⟩ = (called, value))
    (shown : after.Shows layout called) :
    ∃ outcome next, kernel.Step layout fs (.fileCall request .zero, outcome) next ∧
      after.Shows layout next := by
  have running := shows.running (by rw [isKernel]; decide)
  have kernelMode := shows.kernelMode (by rw [isKernel]; decide)
  have isLive : kernel.procIdFlags view.active ≠ 0 := by
    rw [shows.procIdFlags]
    exact live
  have handled : kernel.handle layout fs (.fileCall request .zero) =
      Kernel.finished (kernel.fileCall fs ⟨request.wokenIn kernel.tty, .zero⟩) := rfl
  rw [done] at handled
  exact ⟨_, called, ⟨⟨running, kernelMode, view.active, shows.activeLt, isLive⟩, handled⟩,
    shown⟩

theorem openClock (shows : view.Shows layout kernel) (isKernel : view.mode = .kernel)
    (stocked : fs.Stocked) (isClosed : (view.slots view.block).file = none)
    (live : view.flags view.active ≠ 0) :
    kernel.Follows layout fs .openClock
      { view with
        slots := Function.update view.slots view.block
          { view.slots view.block with file := some .rtcOpsTbl }
        regA := idleRate view.regA } := by
  have inKernel : view.mode ≠ .program := by rw [isKernel]; decide
  obtain ⟨index, found, isClock⟩ := stocked.clock
  have free : Kernel.freeSlot kernel.currentPcb = some 2 := by
    rw [Kernel.freeSlot, show maxOpenFile - minOpenFile = 5 + 1 from rfl,
      Kernel.freeSlotFrom, if_pos ((shows.currentPcb inKernel).closed isClosed)]
  have opened : kernel.open fs .zero (some (literal "rtc")) =
      ((kernel.setDesc 2
        ⟨.rtcOpsTbl, 0, 0, flagActive⟩).setDevices kernel.devices.rtcOpen.1, 2) := by
    have named : ¬literal "rtc" 0 = 0 := by decide
    have wasFound : ¬(0 : Int) = -1 := by decide
    rw [Kernel.open]
    dsimp only
    rw [if_neg named, FileSystem.readDentryByName_of_found _ _ found, if_neg wasFound,
      free]
    dsimp only
    rw [isClock, if_neg (by decide), if_neg (by decide)]
    rfl
  have desc := shows.setDesc inKernel ⟨.rtcOpsTbl, 0, 0, flagActive⟩ (some .rtcOpsTbl)
    (fun ops isOps => ⟨rfl, Option.some.inj isOps⟩) fun isClosed => by cases isClosed
  exact shows.fileCall isKernel live opened
    (desc.setDevices kernel.devices.rtcOpen.1 (by rw [← shows.regA]; rfl))

theorem setRate (shows : view.Shows layout kernel) (isKernel : view.mode = .kernel)
    (isOpen : (view.slots view.block).file = some .rtcOpsTbl)
    (live : view.flags view.active ≠ 0) :
    kernel.Follows layout fs .setRate
      { view with regA := (view.regA &&& 0xF0) ||| 0x06 } := by
  have inKernel : view.mode ≠ .program := by rw [isKernel]; decide
  obtain ⟨active, isClock⟩ := (shows.currentPcb inKernel).opened _ isOpen
  have written : kernel.write .zero 2 (some (cString [0x00, 0x04, 0x00, 0x00])) 4 =
      (kernel.setDevices (kernel.devices.rtcWrite 0 (some 1024) 4).1, 4) := by
    rw [Kernel.write]
    dsimp only
    rw [if_neg (by decide), show (2 : Int).toNat = 2 from rfl,
      if_neg (show ¬_ ≠ _ from not_not.mpr active), isClock]
    rfl
  exact shows.fileCall isKernel live written
    (shows.setDevices (kernel.devices.rtcWrite 0 (some 1024) 4).1
      (by rw [← shows.regA]; rfl))

/-- A halt leaves the rate at 2 Hz if the clock was open. -/
theorem leaveProcess_rate (shows : view.Shows layout kernel)
    (isKernel : view.mode = .kernel) :
    kernel.leaveProcess.devices.rtcRegA = view.leave.regA := by
  have inKernel : view.mode ≠ .program := by rw [isKernel]; decide
  have own := shows.currentPcb inKernel
  have isFile (isClock : (kernel.currentPcb.fDescs 2).IsClock) :
      (view.slots view.block).file = some .rtcOpsTbl := by
    cases file : (view.slots view.block).file with
    | none => exact absurd isClock.1 (own.closed file)
    | some ops => rw [← (own.opened ops file).2, isClock.2]
  have regA : view.leave.regA =
      if (view.slots view.block).file = some .rtcOpsTbl then idleRate view.regA
      else view.regA := rfl
  rw [regA, ← shows.regA]
  rcases kernel.closeFiles_rateLeft with ⟨⟨fd, low, high, isClock⟩, left⟩ | ⟨none, left⟩
  · by_cases isSecond : fd = 2
    · rw [if_pos (isFile (isSecond ▸ isClock))]
      exact left
    · exact absurd isClock (own.others fd high isSecond)
  · rw [if_neg fun isOpen =>
      none 2 (by omega) (by omega) (own.opened .rtcOpsTbl isOpen)]
    exact left

/-- A halt up to the switch back. -/
theorem leaveProcess (shows : view.Shows layout kernel) (isKernel : view.mode = .kernel)
    (parentLt : (view.slots view.block).parentProcNum < 6) :
    view.leave.Shows layout kernel.leaveProcess := by
  have inKernel : view.mode ≠ .program := by rw [isKernel]; decide
  have pointer := shows.getPcbPtr inKernel
  have own := shows.currentPcb inKernel
  have leaves := kernel.leaves layout
  have sameInput := kernel.leaveProcess_sameInput
  have pcbs := Kernel.leaveProcess_pcbs layout kernel
  have files (fd : Nat) (fdLt : fd < 8) :
      ((kernel.leaveProcess.pcbAt kernel.getPcbPtr).fDescs fd).fopsJmpTbPtr =
        .noFileOps := by
    have closed := kernel.closeFiles_ops fdLt
    rw [Kernel.currentPcb, (kernel.keeps_closeFiles layout).getPcbPtr] at closed
    exact closed
  have parent : kernel.currentPcb.parentProcNum =
      (view.slots view.block).parentProcNum := own.parentProcNum
  have rate := shows.leaveProcess_rate isKernel
  obtain ⟨mappings, represents⟩ := shows.represents
  obtain ⟨left, leftRepresents, -⟩ := leaves.mappings mappings represents
  generalize kernel.leaveProcess = after at *
  refine
    { represents := ⟨left, leftRepresents⟩
      userMode := leaves.userMode.trans shows.userMode
      faulting := sameInput.1.trans shows.faulting
      procIdFlags := ?_
      activeProcNum := leaves.activeProcNum.trans parent
      activeLt := parentLt
      tssEsp0 := leaves.tssEsp0.trans (congrArg Kernel.kernelStackTop parent)
      onStack := fun _ => ?_
      blockLt := shows.blockLt
      ctrl := fun pressed => by rw [sameInput.2]; exact shows.ctrl pressed
      slots := fun id idLt => ?_
      regA := rate }
  · rw [leaves.procIdFlags, shows.procIdFlags, shows.activeProcNum]
    rfl
  · rw [leaves.esp]
    exact shows.onStack inKernel
  have slots : view.leave.slots = Function.update view.slots view.block
      { view.slots view.block with file := none } := rfl
  rw [slots]
  by_cases current : id = view.block
  · subst current
    rw [Function.update_self, ← pointer]
    have kept := leaves.pcb kernel.getPcbPtr
    exact
      { procNum := kept.1.trans own.procNum
        parentProcNum := kept.2.1.trans own.parentProcNum
        home := by rw [kept.2.2]; exact own.home
        opened := fun ops isOpen => by cases isOpen
        closed := fun _ => pcbs.1 2 (by omega) (by omega)
        others := fun fd fdLt _ isClock => by
          rw [FileDesc.IsClock, files fd fdLt] at isClock
          cases isClock.2 }
  · rw [Function.update_of_ne current, pcbs.2 (pcbAddress id) fun same =>
      current (pcbAddress_injective idLt shows.blockLt (same.trans pointer))]
    exact shows.slots id idLt

/-- A halt enters a program or goes on in the kernel; the end of the keyboard
interrupt leaves both as they are. -/
theorem halt (shows : view.Shows layout kernel) (isKernel : view.mode = .kernel)
    (stocked : fs.Stocked) (status : Nat) (halted : view.halt = some after) :
    ∃ outcome next, kernel.halt layout fs .zero status = (next, outcome) ∧
      Kernel.finishInterrupt (next, outcome) = (next, outcome) ∧
      (after.mode = .program → ∃ entryPoint, outcome = .running entryPoint) ∧
      after.Shows layout next := by
  rw [KernelView.halt] at halted
  dsimp only at halted
  split at halted
  · rename_i inTable
    have left := shows.leaveProcess isKernel inTable.1
    split at halted
    · rename_i isRoot
      obtain ⟨entryPoint, next, started, shown⟩ := left.enter isKernel stocked.shell halted
      refine ⟨.running entryPoint, next, ?_, rfl, fun _ => ⟨entryPoint, rfl⟩, shown⟩
      rw [Kernel.halt_of_root layout fs .zero status (shows.activeProcNum.trans isRoot),
        started]
      rfl
    · rename_i isChild
      obtain rfl := Option.some.inj halted
      have inKernel : view.leave.mode ≠ .program := by
        rw [show view.leave.mode = view.mode from rfl, isKernel]
        decide
      have own := left.currentPcb inKernel
      have home : (view.leave.slots view.leave.block).home =
          (view.slots view.block).home := by
        show (Function.update view.slots view.block
          { view.slots view.block with file := none } view.block).home = _
        rw [Function.update_self]
      refine ⟨_, _, Kernel.halt_of_child layout fs .zero status ?_, rfl, nofun, ?_⟩
      · rw [shows.activeProcNum]
        exact isChild
      · exact
          { left with
            userMode := left.kernelMode inKernel
            faulting := left.running (by
              rw [show view.leave.mode = view.mode from rfl, isKernel]
              decide)
            onStack := fun _ => own.home.trans (congrArg stackBlock home)
            blockLt := inTable.2 }
  · exact nomatch halted

theorem haltCall (shows : view.Shows layout kernel) (isKernel : view.mode = .kernel)
    (stocked : fs.Stocked) (halted : view.halt = some after) :
    kernel.Follows layout fs .halt after := by
  have running := shows.running (by rw [isKernel]; decide)
  have kernelMode := shows.kernelMode (by rw [isKernel]; decide)
  obtain ⟨outcome, next, done, -, -, shown⟩ := shows.halt isKernel stocked 0 halted
  exact ⟨outcome, next, ⟨⟨running, kernelMode⟩, done⟩, shown⟩

/-- The handler of a page fault prints before it halts. -/
theorem clearFault (shows : view.Shows layout kernel) (inKernel : view.mode ≠ .program)
    (message : List UInt8) :
    KernelView.Shows layout { view with mode := .kernel }
      (Kernel.print { kernel with faulting := false } message) :=
  { shows with
    userMode := shows.kernelMode inKernel
    faulting := rfl
    onStack := fun _ => shows.onStack inKernel }

theorem exception (shows : view.Shows layout kernel) (isFaulting : view.mode = .faulting)
    (stocked : fs.Stocked) (halted : view.halt = some after) :
    kernel.Follows layout fs .exception after := by
  have inKernel : view.mode ≠ .program := by rw [isFaulting]; decide
  have kernelMode := shows.kernelMode inKernel
  have cleared := shows.clearFault inKernel pageFaultMessage
  obtain ⟨outcome, next, done, -, -, shown⟩ := cleared.halt rfl stocked exceptRetval halted
  exact ⟨outcome, next, ⟨kernelMode, done⟩, shown⟩

theorem pressCtrl (shows : view.Shows layout kernel) (isKernel : view.mode = .kernel) :
    kernel.Follows layout fs .pressCtrl { view with ctrl := true } := by
  have running := shows.running (by rw [isKernel]; decide)
  have kernelMode := shows.kernelMode (by rw [isKernel]; decide)
  exact ⟨_, _, ⟨⟨running, kernelMode⟩, rfl⟩, { shows with ctrl := fun _ => rfl }⟩

theorem pressC (shows : view.Shows layout kernel) (isKernel : view.mode = .kernel)
    (stocked : fs.Stocked) (ctrl : view.ctrl = true) (halted : view.halt = some after) :
    ∃ outcome next, kernel.Step layout fs (Move.pressC.event, outcome) next ∧
      (after.mode = .program → ∃ entryPoint, outcome = .running entryPoint) ∧
      after.Shows layout next := by
  have running := shows.running (by rw [isKernel]; decide)
  have kernelMode := shows.kernelMode (by rw [isKernel]; decide)
  have action := handleKey_ctrlC (shows.ctrl ctrl)
  generalize isDevices : ((kernel.devices.disableIrq keyboardIrq).sendEoi
    keyboardIrq).enableIrq keyboardIrq = devices
  have handled : kernel.handle layout fs (.keyboard 0x2E .zero) =
      Kernel.finishInterrupt ((kernel.setDevices devices).halt layout fs .zero 0) := by
    show Kernel.keyboardIntHandler layout fs .zero kernel 0x2E = _
    rw [Kernel.keyboardIntHandler,
      show (kernel.setDevices (kernel.devices.disableIrq keyboardIrq)).tty = kernel.tty
        from rfl, action, ← isDevices]
    rfl
  have edited : view.Shows layout (kernel.setDevices devices) := by
    apply shows.setDevices devices
    rw [← isDevices, Devices.enableIrq_rtcRegA, Devices.sendEoi_rtcRegA,
      Devices.disableIrq_rtcRegA]
    exact shows.regA
  obtain ⟨outcome, next, done, finishes, entered, shown⟩ := edited.halt isKernel stocked 0 halted
  rw [done, finishes] at handled
  exact ⟨outcome, next, ⟨⟨running, kernelMode⟩, handled⟩, entered, shown⟩

/-- Every move of the view is a step of the kernel. -/
theorem next (shows : view.Shows layout kernel) (stocked : fs.Stocked) {move : Move}
    (moves : view.next move = some after) : kernel.Follows layout fs move after := by
  cases move with
  | trap =>
      obtain ⟨isProgram, moved⟩ := Option.ite_none_right_eq_some.mp moves
      obtain rfl := Option.some.inj moved
      exact shows.trap isProgram
  | iret =>
      obtain ⟨isKernel, moved⟩ := Option.ite_none_right_eq_some.mp moves
      obtain rfl := Option.some.inj moved
      exact shows.iret isKernel
  | shell =>
      obtain ⟨isKernel, entered⟩ := Option.ite_none_right_eq_some.mp moves
      exact shows.shell isKernel stocked entered
  | big =>
      obtain ⟨isKernel, claimed⟩ := Option.ite_none_right_eq_some.mp moves
      obtain ⟨id, free, rfl⟩ := Option.map_eq_some_iff.mp claimed
      exact shows.big isKernel stocked free
  | openClock =>
      obtain ⟨⟨isKernel, isClosed, live⟩, moved⟩ :=
        Option.ite_none_right_eq_some.mp moves
      obtain rfl := Option.some.inj moved
      exact shows.openClock isKernel stocked isClosed live
  | setRate =>
      obtain ⟨⟨isKernel, isOpen, live⟩, moved⟩ :=
        Option.ite_none_right_eq_some.mp moves
      obtain rfl := Option.some.inj moved
      exact shows.setRate isKernel isOpen live
  | halt =>
      obtain ⟨isKernel, halted⟩ := Option.ite_none_right_eq_some.mp moves
      exact shows.haltCall isKernel stocked halted
  | exception =>
      obtain ⟨isFaulting, halted⟩ := Option.ite_none_right_eq_some.mp moves
      exact shows.exception isFaulting stocked halted
  | pressCtrl =>
      obtain ⟨isKernel, moved⟩ := Option.ite_none_right_eq_some.mp moves
      obtain rfl := Option.some.inj moved
      exact shows.pressCtrl isKernel
  | pressC =>
      obtain ⟨⟨isKernel, ctrl⟩, halted⟩ := Option.ite_none_right_eq_some.mp moves
      obtain ⟨outcome, next, step, -, shown⟩ := shows.pressC isKernel stocked ctrl halted
      exact ⟨outcome, next, step, shown⟩

/-- Every sequence of moves of the view is a run of the kernel. -/
theorem run (shows : view.Shows layout kernel) (stocked : fs.Stocked) {moves : List Move}
    (runs : view.run moves = some after) :
    ∃ labels last, labels.map Prod.fst = moves.map Move.event ∧
      Run (Kernel.Step layout fs) kernel labels last ∧ after.Shows layout last := by
  induction moves generalizing view kernel with
  | nil =>
      obtain rfl := Option.some.inj runs
      exact ⟨[], kernel, rfl, Run.nil kernel, shows⟩
  | cons move moves ih =>
      obtain ⟨middle, moved, rest⟩ := Option.bind_eq_some_iff.mp runs
      obtain ⟨outcome, next, step, shown⟩ := shows.next stocked moved
      obtain ⟨labels, last, events, run, lastShown⟩ := ih shown rest
      exact ⟨(move.event, outcome) :: labels, last, congrArg (move.event :: ·) events,
        Run.cons step run, lastShown⟩

/-- What such a move loads is the shell, unless it executes the large program. -/
theorem loadsMapped (shows : view.Shows layout kernel) (shell : fs.HasShell) {move : Move}
    (notBig : move ≠ .big) : kernel.LoadsMapped layout fs move.event := by
  obtain ⟨mappings, represents⟩ := shows.represents
  apply Kernel.loadsMapped_of_shell represents shell
  rintro command stale same
  cases move with
  | shell => exact (Event.execute.inj same).1.symm
  | big => exact absurd rfl notBig
  | _ => exact nomatch same

/-- Without the large program every load of the run is mapped. -/
theorem runMapped (shows : view.Shows layout kernel) (stocked : fs.Stocked)
    {moves : List Move} (notBig : .big ∉ moves) (runs : view.run moves = some after) :
    ∃ labels last, labels.map Prod.fst = moves.map Move.event ∧
      Run (Kernel.MappedStep layout fs) kernel labels last ∧ after.Shows layout last := by
  induction moves generalizing view kernel with
  | nil =>
      obtain rfl := Option.some.inj runs
      exact ⟨[], kernel, rfl, Run.nil kernel, shows⟩
  | cons move moves ih =>
      obtain ⟨middle, moved, rest⟩ := Option.bind_eq_some_iff.mp runs
      obtain ⟨notFirst, notLater⟩ := List.ne_and_not_mem_of_not_mem_cons notBig
      obtain ⟨outcome, next, step, shown⟩ := shows.next stocked moved
      obtain ⟨labels, last, events, run, lastShown⟩ := ih shown notLater rest
      exact ⟨(move.event, outcome) :: labels, last, congrArg (move.event :: ·) events,
        Run.cons ⟨step, shows.loadsMapped stocked.shell (Ne.symm notFirst)⟩ run, lastShown⟩

end KernelView.Shows

section FirstShell

/-- An image with a shell, a program that is too large for the image page, and the
clock. -/
def stockedImage : FileSystem :=
  .ofFiles 0x410000
    [⟨[0x73, 0x68, 0x65, 0x6C, 0x6C], fileTypeFile, 28⟩,
      ⟨[0x62, 0x69, 0x67], fileTypeFile, 0x3BA001⟩,
      ⟨[0x72, 0x74, 0x63], 0, 0⟩]
    [0x7F, 0x45, 0x4C, 0x46]

theorem stockedImage_hasShell : stockedImage.HasShell := by
  refine ⟨0, by decide +kernel, ?_⟩
  have inode : stockedImage.entryInode 0 = 0 := by decide +kernel
  rw [inode]
  exact
    { inRange := by decide +kernel
      header := by decide +kernel
      long := by decide +kernel
      fits := by decide +kernel
      inodeMapped := by decide +kernel
      bytesMapped := by
        have length : stockedImage.inodeLength 0 = 28 := by decide +kernel
        rw [length]
        decide +kernel }

theorem stockedImage_stocked : stockedImage.Stocked where
  shell := stockedImage_hasShell
  big := by
    have inode : stockedImage.entryInode 1 = 1 := by decide +kernel
    refine ⟨1, by decide +kernel, ?_, by decide +kernel⟩
    rw [inode]
    exact
      { inRange := by decide +kernel
        header := by decide +kernel
        long := by decide +kernel
        short := by decide +kernel
        inodeMapped := by decide +kernel
        headerMapped := by decide +kernel }
  clock := ⟨2, by decide +kernel, by decide +kernel⟩

/-- `init_terminals` of a booted machine starts the first shell in slot 0. -/
theorem Kernel.Boots.enters {layout : KernelLayout} {fs : FileSystem} {boot : Kernel}
    (booted : boot.Boots layout) (shell : fs.HasShell) :
    ∃ entryPoint next,
      (boot.prepareTerminals layout).1.execute layout fs .zero Kernel.shellCommand =
        (next, .running entryPoint) ∧
      Entered layout (boot.prepareTerminals layout).1 0 next ∧
      boot.Step layout fs (.initTerminals .zero, .running entryPoint) next := by
  have serves := booted.serves
  obtain ⟨mappings, represents⟩ := serves.holds.represents
  have prepared := Kernel.prepareTerminals_prepared represents serves.running
  have free : (boot.prepareTerminals layout).1.freeProcId = some 0 := by
    rw [Kernel.freeProcId, (boot.keeps_prepareTerminals layout).procIdFlags]
    exact serves.holds.freeProcId_eq
  obtain ⟨entryPoint, next, executed, entered⟩ :=
    execute_shell_enters ⟨_, prepared.represents⟩ shell .zero free
  refine ⟨entryPoint, next, executed, entered, ⟨serves.running, serves.kernelMode⟩, ?_⟩
  show boot.initTerminals layout fs .zero = _
  rw [Kernel.initTerminals_eq fs .zero prepared, executed]
  rfl

/-- The first shell, started by `init_terminals` on a machine whose memory holds
zeros; `ready` is the kernel before the call of `execute`. -/
structure FirstShell (fs : FileSystem) (ready next : Kernel) (entryPoint : Nat) : Prop where
  prepared : ∃ mappings, Kernel.Prepared lowLayout mappings ready
  keeps : KeepsPcbs lowLayout startedKernel ready
  rtcRegA : ready.devices.rtcRegA = startedKernel.devices.rtcRegA
  executed : ready.execute lowLayout fs .zero Kernel.shellCommand =
    (next, .running entryPoint)
  entered : Entered lowLayout ready 0 next
  step : startedKernel.Step lowLayout fs (.initTerminals .zero, .running entryPoint) next

theorem exists_firstShell {fs : FileSystem} (shell : fs.HasShell) :
    ∃ ready next entryPoint, FirstShell fs ready next entryPoint := by
  have serves := startedKernel_boots.serves
  obtain ⟨mappings, represents⟩ := serves.holds.represents
  obtain ⟨entryPoint, next, executed, entered, step⟩ := startedKernel_boots.enters shell
  exact ⟨_, next, entryPoint,
    { prepared := ⟨_, Kernel.prepareTerminals_prepared represents serves.running⟩
      keeps := startedKernel.keeps_prepareTerminals lowLayout
      rtcRegA := ignores_rtcRegA.prepareTerminals lowLayout startedKernel
      executed := executed
      entered := entered
      step := step }⟩

/-- Its slots, with the clock at 2 Hz. -/
theorem firstShell_shows {fs : FileSystem} (shell : fs.HasShell) :
    ∃ entryPoint next,
      Kernel.MappedStep lowLayout fs startedKernel
        (.initTerminals .zero, .running entryPoint) next ∧
      (KernelView.firstShell 0 0x2F).Shows lowLayout next := by
  obtain ⟨_, represents⟩ := startedKernel_boots.serves.holds.represents
  obtain ⟨ready, next, entryPoint, first⟩ := exists_firstShell shell
  obtain ⟨_, prepared⟩ := first.prepared
  have keeps := first.keeps
  have starts := first.entered
  have flags : ready.procIdFlags = fun _ => 0 := keeps.procIdFlags
  have pcbs (id : Nat) : ready.pcbAt (pcbAddress id) = Kernel.loaded.pcbAt 0 := by
    rw [keeps.pcbAt]
    rfl
  refine ⟨entryPoint, next, ⟨first.step, ?_⟩, ?_⟩
  · intro start begins _
    obtain rfl := Option.some.inj begins
    exact loadsCommand_shell represents shell .zero
  refine
    { represents := starts.represents
      userMode := starts.userMode
      faulting := starts.faulting.trans prepared.running
      procIdFlags := by rw [starts.procIdFlags, flags]; rfl
      activeProcNum := starts.activeProcNum
      activeLt := show 0 < 6 by decide
      tssEsp0 := starts.tssEsp0
      onStack := fun inKernel => absurd rfl inKernel
      blockLt := show 0 < 6 by decide
      ctrl := nofun
      slots := fun id idLt => ?_
      regA := by rw [starts.devices, first.rtcRegA]; rfl }
  by_cases isFirst : id = 0
  · subst isFirst
    exact
      { procNum := starts.procNum
        parentProcNum := starts.parentProcNum
        home := by rw [starts.ksp, keeps.esp]; rfl
        opened := nofun
        closed := fun _ => by rw [starts.files 2 (by omega), pcbs]; exact Nat.zero_ne_one
        others := fun fd fdLt _ isClock => by
          by_cases isFile : 2 ≤ fd
          · rw [starts.files fd isFile, pcbs] at isClock
            exact nomatch isClock.2
          · exact starts.terminal.not_isClock (by omega) isClock }
  · have unused : (KernelView.firstShell 0 0x2F).slots id = ⟨0, 0, 0x3FF, none⟩ :=
      if_neg isFirst
    rw [unused, starts.otherPcbs _ fun same =>
      isFirst (pcbAddress_injective idLt (by decide) same), pcbs]
    exact
      { procNum := rfl
        parentProcNum := rfl
        home := rfl
        opened := nofun
        closed := fun _ => Nat.zero_ne_one
        others := fun fd _ _ isClock => nomatch isClock.2 }

/-- The first shell executes another one, which sets the clock to 1024 Hz and is halted
with Ctrl and c. -/
def nestedMoves : List Move :=
  [.trap, .shell, .trap, .openClock, .iret, .trap, .setRate, .pressCtrl, .pressC]

theorem exists_nestedMoves :
    ∃ after labels outcome first kernel,
      (KernelView.firstShell 0 0x2F).run nestedMoves = some after ∧
      labels.map Prod.fst = nestedMoves.map Move.event ∧
      Kernel.MappedStep lowLayout stockedImage startedKernel
        (.initTerminals .zero, outcome) first ∧
      Run (Kernel.MappedStep lowLayout stockedImage) first labels kernel ∧
      after.Shows lowLayout kernel := by
  have moves : ((KernelView.firstShell 0 0x2F).run nestedMoves).isSome = true := by
    decide +kernel
  obtain ⟨after, moved⟩ := Option.isSome_iff_exists.mp moves
  obtain ⟨entryPoint, first, firstStep, shown⟩ := firstShell_shows stockedImage_hasShell
  obtain ⟨labels, kernel, events, run, kernelShown⟩ :=
    shown.runMapped stockedImage_stocked (by decide) moved
  exact ⟨after, labels, _, first, kernel, moved, events, firstStep, run, kernelShown⟩

end FirstShell

end ChapOS
