import ChapOS.ConsoleSheet
import ChapOS.ProcessInvariant

/-!
# Parts of the state that terminals and programs leave alone

Saving, restoring, launching and changing terminals, `vidmap`, and starting a
program write through a few setters.  A part of the kernel's state that these
setters ignore is therefore left alone by all of those functions, and an event
changes it only through a descriptor call, `halt` or a key.  The descriptor calls
write PCBs and device registers, and `write` prints besides.
-/

namespace ChapOS

open CountedLoops

/-- A part of the state that the setters of the terminal functions and `execute`
leave alone. -/
structure Ignores {Value : Type*} (view : Kernel → Value) : Prop where
  setPaging : ∀ kernel paging, view (kernel.setPaging paging) = view kernel
  setMem : ∀ kernel mem, view (kernel.setMem mem) = view kernel
  fault : ∀ kernel, view kernel.fault = view kernel
  setTerminal : ∀ kernel id terminal, view (kernel.setTerminal id terminal) = view kernel
  setConsole : ∀ kernel console, view (kernel.setConsole console) = view kernel
  setBufferIndex : ∀ kernel index, view (kernel.setBufferIndex index) = view kernel
  setCurTermId : ∀ kernel id, view (kernel.setCurTermId id) = view kernel
  setStack : ∀ (kernel : Kernel) (esp ebp : Nat) (userMode : Bool),
    view { kernel with esp := esp, ebp := ebp, userMode := userMode } = view kernel
  enableIrq : ∀ (kernel : Kernel) irqNum,
    view (kernel.setDevices (kernel.devices.enableIrq irqNum)) = view kernel
  sendEoi : ∀ (kernel : Kernel) irqNum,
    view (kernel.setDevices (kernel.devices.sendEoi irqNum)) = view kernel
  disableIrq : ∀ (kernel : Kernel) irqNum,
    view (kernel.setDevices (kernel.devices.disableIrq irqNum)) = view kernel
  rtcInterrupt : ∀ (kernel : Kernel),
    view (kernel.setDevices kernel.devices.rtcIrqHandler) = view kernel
  execute : ∀ layout fs stale command (kernel : Kernel),
    view (kernel.execute layout fs stale command).1 = view kernel

namespace Ignores

theorem unlessFaulting {Value : Type*} {view : Kernel → Value} {Result : Type}
    {start : Kernel} {value : Value}
    (faulted : Result) {next : Kernel → Kernel × Result} (before : view start = value)
    (after : view (next start).1 = value) :
    view (start.unlessFaulting faulted next).1 = value := by
  unfold Kernel.unlessFaulting
  split
  · exact before
  · exact after

variable {Value : Type*} {view : Kernel → Value} (ignores : Ignores view)
  (layout : KernelLayout) (fs : FileSystem) (kernel : Kernel)

include ignores

theorem afterCopy (copied : Copied PhysicalMemory) :
    view (kernel.afterCopy copied) = view kernel := by
  unfold Kernel.afterCopy
  split
  · rw [ignores.fault, ignores.setMem]
  · exact ignores.setMem kernel copied.memory

theorem memcpy (dest src n : Nat) :
    view (kernel.memcpy layout dest src n) = view kernel := by
  rw [Kernel.memcpy]
  exact ignores.afterCopy kernel _

theorem mapTermVID (id : Nat) : view (kernel.mapTermVID layout id) = view kernel :=
  ignores.setPaging kernel _

theorem terminalSave (id : Nat) :
    view (kernel.terminalSave layout id).1 = view kernel := by
  unfold Kernel.terminalSave
  split
  · rfl
  · rw [ignores.memcpy, ignores.mapTermVID, ignores.setTerminal]

theorem terminalRestore (id : Nat) :
    view (kernel.terminalRestore layout id).1 = view kernel := by
  unfold Kernel.terminalRestore
  split
  · rfl
  · have copied := ignores.memcpy layout
      ((kernel.placeCursor (kernel.terminals id).x (kernel.terminals id).y).mapTermVID
        layout id) video (kernel.terminals id).termVidMem pageBytes4KB
    rw [ignores.mapTermVID, Kernel.placeCursor, ignores.setConsole] at copied
    apply unlessFaulting _ copied
    rw [ignores.setBufferIndex]
    exact copied

theorem terminalChange (target : Nat) :
    view (kernel.terminalChange layout target).1 = view kernel := by
  have saved := ignores.terminalSave layout kernel kernel.tty.keyboard.curTermId
  unfold Kernel.terminalChange
  split
  · rfl
  apply unlessFaulting _ saved
  split
  · exact saved
  generalize (kernel.terminalSave layout kernel.tty.keyboard.curTermId).1 = middle at saved
  have restored := (ignores.terminalRestore layout middle target).trans saved
  apply unlessFaulting _ restored
  split
  · exact restored
  · rw [ignores.mapTermVID, ignores.setCurTermId]
    exact restored

theorem launchSaved (stale : StaleLocals) (target : Nat) :
    view (kernel.launchSaved layout fs stale target).1 = view kernel := by
  have restored := ignores.terminalRestore layout (kernel.markLaunched target) target
  rw [Kernel.markLaunched, ignores.setCurTermId, ignores.setTerminal] at restored
  apply unlessFaulting _ restored
  rw [Kernel.returnZero_kernel, ignores.execute, ignores.enableIrq]
  exact restored

theorem terminalLoS (stale : StaleLocals) (target : Nat) :
    view (kernel.terminalLoS layout fs stale target).1 = view kernel := by
  have saved := ignores.terminalSave layout kernel kernel.tty.keyboard.curTermId
  unfold Kernel.terminalLoS
  split
  · rfl
  split
  · rfl
  split
  · exact ignores.terminalChange layout kernel target
  unfold Kernel.terminalLaunch
  split
  · rfl
  split
  · exact ignores.setConsole kernel _
  apply unlessFaulting _ saved
  split
  · exact saved
  · exact (ignores.launchSaved layout fs _ stale target).trans saved

theorem prepareTerminals : view (kernel.prepareTerminals layout).1 = view kernel := by
  have filled : view (forUpTo numTerm (Kernel.initTerminal layout) kernel) =
      view kernel := by
    apply forUpTo_invariant fun _ (current : Kernel) => view current = view kernel
    · rfl
    · intro id _ current before
      refine Eq.trans ?_ before
      unfold Kernel.initTerminal
      split
      · rfl
      · rw [Kernel.colorScreen, ignores.afterCopy, ignores.mapTermVID,
          ignores.setTerminal]
  unfold Kernel.prepareTerminals
  generalize forUpTo numTerm (Kernel.initTerminal layout) kernel = prepared at filled
  have restored := ignores.terminalRestore layout prepared.selectFirst terminalId0
  rw [Kernel.selectFirst, ignores.setTerminal, ignores.setCurTermId,
    ignores.setBufferIndex, filled] at restored
  refine unlessFaulting _ filled (unlessFaulting _ restored ?_)
  rw [ignores.memcpy]
  exact restored

theorem initTerminals (stale : StaleLocals) :
    view (kernel.initTerminals layout fs stale).1 = view kernel := by
  have prepared := ignores.prepareTerminals layout kernel
  rw [Kernel.initTerminals]
  apply unlessFaulting _ prepared
  rw [Kernel.returnZero_kernel, ignores.execute]
  exact prepared

theorem userStore (linear : Nat) (value : UInt8) :
    view (kernel.userStore layout linear value) = view kernel := by
  unfold Kernel.userStore
  split
  · rfl
  split
  · exact ignores.setMem kernel _
  · rfl

theorem vidmap (screenStart : Nat) :
    view (kernel.vidmap layout screenStart).1 = view kernel := by
  unfold Kernel.vidmap
  split
  · rfl
  · dsimp only
    rw [ignores.afterCopy, ignores.setPaging]

theorem acknowledge :
    view (kernel.setDevices
      ((kernel.devices.sendEoi keyboardIrq).enableIrq keyboardIrq)) = view kernel := by
  have acknowledged := ignores.sendEoi kernel keyboardIrq
  rw [← acknowledged]
  exact ignores.enableIrq (kernel.setDevices (kernel.devices.sendEoi keyboardIrq))
    keyboardIrq

theorem finishInterrupt (done : Kernel × Outcome) :
    view (Kernel.finishInterrupt done).1 = view done.1 := by
  unfold Kernel.finishInterrupt
  split
  · exact ignores.acknowledge done.1
  · rfl

/-- A key changes what its handler edits, and otherwise ends in `halt`. -/
theorem keyboardIntHandler (stale : StaleLocals) (key : Nat) :
    match (kernel.tty.handleKey key).2 with
    | .halt => ∃ start : Kernel,
        view start = view ((kernel.setDevices
          (kernel.devices.disableIrq keyboardIrq)).setTty (kernel.tty.handleKey key).1) ∧
        start.currentPcb = kernel.currentPcb ∧
        start.tty = (kernel.tty.handleKey key).1 ∧
        view (kernel.keyboardIntHandler layout fs stale key).1 =
          view (start.halt layout fs stale 0).1
    | _ => view (kernel.keyboardIntHandler layout fs stale key).1 =
        view ((kernel.setDevices
          (kernel.devices.disableIrq keyboardIrq)).setTty
            (kernel.tty.handleKey key).1) := by
  rw [Kernel.keyboardIntHandler_eq]
  dsimp only
  rw [ignores.finishInterrupt]
  generalize isEdited : (kernel.setDevices (kernel.devices.disableIrq keyboardIrq)).setTty
    (kernel.tty.handleKey key).1 = edited
  cases (kernel.tty.handleKey key).2 with
  | done => rfl
  | halt =>
      refine ⟨_, ?_, ?_, ?_, rfl⟩
      · exact ignores.acknowledge edited
      · rw [← isEdited]
        rfl
      · rw [← isEdited]
        rfl
  | terminalLoS id =>
      dsimp only
      rw [ignores.terminalLoS, ignores.sendEoi]

/-- Only a descriptor call, an event that halts, or a key can change the part. -/
theorem handle {event : Event}
    (noCall : ∀ request stale, event ≠ .fileCall request stale)
    (noHalt : kernel.halting event = none)
    (noKey : ∀ key stale, event ≠ .keyboard key stale) :
    view (kernel.handle layout fs event).1 = view kernel := by
  cases event with
  | trap => exact ignores.setStack kernel kernel.trapStack kernel.ebp false
  | iret => exact ignores.setStack kernel kernel.esp kernel.ebp true
  | moveStack esp ebp => exact ignores.setStack kernel esp ebp kernel.userMode
  | initTerminals stale => exact ignores.initTerminals layout fs kernel stale
  | execute command stale => exact ignores.execute layout fs stale command kernel
  | halt status stale => exact nomatch noHalt
  | exception message stale => exact nomatch noHalt
  | fileCall request stale => exact absurd rfl (noCall request stale)
  | vidmap screenStart => exact ignores.vidmap layout kernel screenStart
  | keyboard key stale => exact absurd rfl (noKey key stale)
  | rtcInterrupt => exact ignores.rtcInterrupt kernel
  | pitInterrupt => exact ignores.sendEoi kernel pitIrq
  | print bytes => exact ignores.setConsole kernel _
  | terminalSave id => exact ignores.terminalSave layout kernel id
  | terminalRestore id => exact ignores.terminalRestore layout kernel id
  | userStore linear value => exact ignores.userStore layout kernel linear value

end Ignores

/-- A part of the state that the calls on descriptors leave alone. -/
structure IgnoresCalls {Value : Type*} (view : Kernel → Value) : Prop where
  setPcb : ∀ kernel address pcb, view (kernel.setPcb address pcb) = view kernel
  setDevices : ∀ kernel devices, view (kernel.setDevices devices) = view kernel

namespace IgnoresCalls

variable {Value : Type*} {view : Kernel → Value} (ignores : IgnoresCalls view)
  (fs : FileSystem) (kernel : Kernel)

include ignores

theorem setDesc (fd : Nat) (desc : FileDesc) :
    view (kernel.setDesc fd desc) = view kernel :=
  ignores.setPcb kernel _ _

theorem «open» (stale : StaleLocals) (filename : Option CString) :
    view (kernel.open fs stale filename).1 = view kernel := by
  unfold Kernel.open
  cases filename with
  | none => rfl
  | some name =>
      dsimp only
      split
      · rfl
      split
      · rfl
      split
      · rfl
      split
      · exact ignores.setDesc kernel _ _
      split
      · exact ignores.setPcb kernel _ _
      split
      · exact (ignores.setDevices _ _).trans (ignores.setDesc kernel _ _)
      · exact (ignores.setDevices _ _).trans (ignores.setDesc kernel _ _)

/-- A read that does not wait. -/
theorem read (stale : StaleLocals) (fd : Int) (buf : Option UserBuffer) (nbytes : Int) :
    view (kernel.read fs stale kernel.tty fd buf nbytes).1 = view kernel := by
  unfold Kernel.read
  cases buf with
  | none => rfl
  | some memory =>
      dsimp only
      split
      · rfl
      split
      · rfl
      cases (kernel.currentPcb.fDescs fd.toNat).fopsJmpTbPtr with
      | rtcOpsTbl => exact ignores.setDevices kernel _
      | fileOpsTbl => exact ignores.setDesc kernel _ _
      | dirOpsTbl =>
          simp only [Kernel.readOp, Kernel.dirRead]
          split
          · exact ignores.setDesc kernel _ _
          · exact ignores.setDesc kernel _ _
      | stdinOpsTbl => rfl
      | stdoutOpsTbl => rfl
      | noFileOps => rfl

theorem closeOp (ops : FileOps) : view (kernel.closeOp ops).1 = view kernel := by
  cases ops with
  | rtcOpsTbl => exact ignores.setDevices kernel _
  | fileOpsTbl => rfl
  | dirOpsTbl => rfl
  | stdinOpsTbl => exact ignores.setDevices kernel _
  | stdoutOpsTbl => exact ignores.setDevices kernel _
  | noFileOps => rfl

theorem close (fd : Int) : view (kernel.close fd).1 = view kernel := by
  unfold Kernel.close
  split
  · rfl
  split
  · rfl
  dsimp only
  split
  · rfl
  · exact (ignores.closeOp _ _).trans (ignores.setDesc kernel _ _)

theorem closeFiles :
    view kernel.closeFiles =
      view (kernel.setProcIdFlag kernel.activeProcNum flagInactive) := by
  unfold Kernel.closeFiles
  apply forUpTo_invariant fun _ (current : Kernel) =>
    view current = view (kernel.setProcIdFlag kernel.activeProcNum flagInactive)
  · rfl
  · intro i _ current before
    unfold Kernel.haltSlot
    dsimp only
    rw [ignores.setDesc]
    split
    · exact (ignores.close current i).trans before
    · exact before

end IgnoresCalls

/-- `write` programs the clock or prints. -/
theorem Kernel.write_result (kernel : Kernel) (stale : StaleLocals) (fd : Int)
    (buf : Option CString) (nbytes : Int) :
    (∃ devices, (kernel.write stale fd buf nbytes).1 = kernel.setDevices devices) ∨
      ∃ bytes, (kernel.write stale fd buf nbytes).1 = kernel.print bytes := by
  have unchanged : ∃ devices, kernel = kernel.setDevices devices := ⟨kernel.devices, rfl⟩
  unfold Kernel.write
  cases buf with
  | none => exact Or.inl unchanged
  | some text =>
      dsimp only
      split
      · exact Or.inl unchanged
      split
      · exact Or.inl unchanged
      cases (kernel.currentPcb.fDescs fd.toNat).fopsJmpTbPtr with
      | rtcOpsTbl => exact Or.inl ⟨_, rfl⟩
      | fileOpsTbl => exact Or.inl unchanged
      | dirOpsTbl => exact Or.inl unchanged
      | stdinOpsTbl => exact Or.inl unchanged
      | stdoutOpsTbl =>
          right
          simp only [Kernel.writeOp, Console.keyboardWrite_eq_putAll]
          exact ⟨_, rfl⟩
      | noFileOps => exact Or.inl unchanged

theorem ignoresCalls_tty : IgnoresCalls Kernel.tty :=
  ⟨fun _ _ _ => rfl, fun _ _ => rfl⟩

theorem ignoresCalls_terminals : IgnoresCalls Kernel.terminals :=
  ⟨fun _ _ _ => rfl, fun _ _ => rfl⟩

theorem ignoresCalls_faulting : IgnoresCalls Kernel.faulting :=
  ⟨fun _ _ _ => rfl, fun _ _ => rfl⟩

end ChapOS
