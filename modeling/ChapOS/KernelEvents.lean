import ChapOS.KernelFrames

/-!
# What an event can do

An event runs a descriptor call, leaves all PCBs alone, or calls `execute` or
`halt` once.  The cases are listed here with the command and the process id that
the call of `execute` is given, so that an invariant of the kernel is proved by
looking at `execute`, `halt` and what keeps the processes.
-/

namespace ChapOS

open CountedLoops

/-- Control goes back to whoever was interrupted, or to the fault handler. -/
def Outcome.Pauses : Outcome → Prop
  | .returned _ => True
  | .pageFault => True
  | _ => False

/-- The same way to be left, up to the value returned. -/
def Outcome.Alike : Outcome → Outcome → Prop
  | .returned _, .returned _ => True
  | first, second => first = second

theorem Outcome.Alike.refl (outcome : Outcome) : outcome.Alike outcome := by
  cases outcome with
  | returned value => exact True.intro
  | running entryPoint => exact rfl
  | resumed value => exact rfl
  | pageFault => exact rfl

theorem Outcome.Alike.trans {first middle last : Outcome} (before : first.Alike middle)
    (after : middle.Alike last) : first.Alike last := by
  cases first with
  | returned value =>
      cases middle with
      | returned other =>
          cases last with
          | returned final => exact True.intro
          | running entryPoint => exact nomatch after
          | resumed final => exact nomatch after
          | pageFault => exact nomatch after
      | running entryPoint => exact nomatch before
      | resumed other => exact nomatch before
      | pageFault => exact nomatch before
  | running entryPoint => exact before ▸ after
  | resumed value => exact before ▸ after
  | pageFault => exact before ▸ after

theorem Outcome.Alike.pauses {first second : Outcome} (alike : first.Alike second)
    (pauses : first.Pauses) : second.Pauses := by
  cases first with
  | returned value =>
      cases second with
      | returned other => exact True.intro
      | running entryPoint => exact nomatch alike
      | resumed other => exact nomatch alike
      | pageFault => exact True.intro
  | running entryPoint => exact pauses.elim
  | resumed value => exact pauses.elim
  | pageFault => exact alike ▸ True.intro

theorem Outcome.Alike.running {first : Outcome} {entryPoint : Nat}
    (alike : first.Alike (.running entryPoint)) : first = .running entryPoint := by
  cases first with
  | returned value => exact nomatch alike
  | running other => exact alike
  | resumed value => exact nomatch alike
  | pageFault => exact nomatch alike

/-- A call of `execute`, with the process id that `gen_new_proc_id` finds. -/
structure Start where
  command : Option (List UInt8)
  stale : StaleLocals
  slot : Option Nat

namespace Kernel

/-- The process id that `gen_new_proc_id` finds. -/
def freeProcId (kernel : Kernel) : Option Nat :=
  freeProcIdFrom kernel.procIdFlags maxProcesses 0

/-- The call of `execute` in `halt`. -/
def restart (kernel : Kernel) (stale : StaleLocals) : Option Start :=
  if kernel.activeProcNum = 0 then some ⟨shellCommand, stale, some 0⟩ else none

/-- The call of `execute` for a key. -/
def keyStart (kernel : Kernel) (stale : StaleLocals) : KeyAction → Option Start
  | .done => none
  | .halt => kernel.restart stale
  | .terminalLoS id =>
      if id < numTerm ∧ id ≠ kernel.tty.keyboard.curTermId ∧
          (kernel.terminals id).isInUseFlag = false then
        some ⟨shellCommand, stale, kernel.freeProcId⟩
      else none

/-- The call of `execute` that an event comes to. -/
def starting (kernel : Kernel) : Event → Option Start
  | .initTerminals stale => some ⟨shellCommand, stale, kernel.freeProcId⟩
  | .execute command stale => some ⟨command, stale, kernel.freeProcId⟩
  | .halt _ stale => kernel.restart stale
  | .exception _ stale => kernel.restart stale
  | .keyboard key stale =>
      let handled := kernel.tty.handleKey key
      (kernel.setTty handled.1).keyStart stale handled.2
  | _ => none

/-- The locals of the call of `halt` that an event comes to. -/
def halting (kernel : Kernel) : Event → Option StaleLocals
  | .halt _ stale => some stale
  | .exception _ stale => some stale
  | .keyboard key stale =>
      match (kernel.tty.handleKey key).2 with
      | .halt => some stale
      | _ => none
  | _ => none

/-- A program can only call `execute` or `halt` through the kernel. -/
theorem kernelMode_of_admits {kernel : Kernel} {event : Event}
    (admits : kernel.Admits event)
    (calls : (kernel.starting event).isSome = true ∨
      (kernel.halting event).isSome = true) :
    kernel.userMode = false := by
  cases event with
  | trap => exact absurd calls (by simp [starting, halting])
  | userStore linear value => exact absurd calls (by simp [starting, halting])
  | exception message stale => exact admits
  | fileCall request stale => exact admits.2.1
  | moveStack esp ebp => exact admits.2.1
  | iret => exact admits.2
  | initTerminals stale => exact admits.2
  | execute command stale => exact admits.2
  | halt status stale => exact admits.2
  | vidmap screenStart => exact admits.2
  | keyboard key stale => exact admits.2
  | rtcInterrupt => exact admits.2
  | pitInterrupt => exact admits.2
  | print bytes => exact admits.2
  | terminalSave id => exact admits.2
  | terminalRestore id => exact admits.2

/-- Only a page fault is handled while one is pending. -/
theorem running_of_admits {kernel : Kernel} {event : Event}
    (admits : kernel.Admits event)
    (handlesNone : ∀ message stale, event ≠ .exception message stale) :
    kernel.faulting = false := by
  cases event with
  | exception message stale => exact absurd rfl (handlesNone message stale)
  | trap => exact admits.1
  | userStore linear value => exact admits.1
  | moveStack esp ebp => exact admits.1
  | fileCall request stale => exact admits.1
  | iret => exact admits.1
  | initTerminals stale => exact admits.1
  | execute command stale => exact admits.1
  | halt status stale => exact admits.1
  | vidmap screenStart => exact admits.1
  | keyboard key stale => exact admits.1
  | rtcInterrupt => exact admits.1
  | pitInterrupt => exact admits.1
  | print bytes => exact admits.1
  | terminalSave id => exact admits.1
  | terminalRestore id => exact admits.1

/-- The events that come to a call of `halt`. -/
inductive Halts (kernel : Kernel) (stale : StaleLocals) : Event → Prop
  | halt (status : Nat) : Halts kernel stale (.halt status stale)
  | exception (message : List UInt8) : Halts kernel stale (.exception message stale)
  | keyboard (key : Nat) (ctrlC : (kernel.tty.handleKey key).2 = .halt) :
      Halts kernel stale (.keyboard key stale)

theorem halts_of_halting {kernel : Kernel} {event : Event} {stale : StaleLocals}
    (halts : kernel.halting event = some stale) : kernel.Halts stale event := by
  cases event with
  | halt status other =>
      obtain rfl := Option.some.inj halts
      exact .halt status
  | exception message other =>
      obtain rfl := Option.some.inj halts
      exact .exception message
  | keyboard key other =>
      rw [halting] at halts
      cases action : (kernel.tty.handleKey key).2 with
      | done => rw [action] at halts; exact nomatch halts
      | terminalLoS id => rw [action] at halts; exact nomatch halts
      | halt =>
          rw [action] at halts
          obtain rfl := Option.some.inj halts
          exact .keyboard key action
  | trap => exact nomatch halts
  | iret => exact nomatch halts
  | moveStack esp ebp => exact nomatch halts
  | initTerminals other => exact nomatch halts
  | execute command other => exact nomatch halts
  | fileCall request other => exact nomatch halts
  | vidmap screenStart => exact nomatch halts
  | rtcInterrupt => exact nomatch halts
  | pitInterrupt => exact nomatch halts
  | print bytes => exact nomatch halts
  | terminalSave id => exact nomatch halts
  | terminalRestore id => exact nomatch halts
  | userStore linear value => exact nomatch halts

variable (layout : KernelLayout) (fs : FileSystem) (kernel : Kernel)

/-- The ways in which an event ends. -/
inductive HandleCases (event : Event) : Kernel × Outcome → Prop
  | trap (isTrap : event = .trap) :
      HandleCases event
        ({ kernel with esp := kernel.trapStack, userMode := false }, .returned 0)
  | iret (isIret : event = .iret) :
      HandleCases event ({ kernel with userMode := true }, .returned 0)
  | moveStack (esp ebp : Nat) (isMove : event = .moveStack esp ebp) :
      HandleCases event ({ kernel with esp := esp, ebp := ebp }, .returned 0)
  | fileCall (request : FileRequest) (stale : StaleLocals) (outcome : Outcome)
      (isCall : event = .fileCall request stale) (pauses : outcome.Pauses) :
      HandleCases event
        ((kernel.fileCall fs ⟨request.wokenIn kernel.tty, stale⟩).1, outcome)
  | keeps (after : Kernel) (outcome : Outcome) (keeps : KeepsPcbs layout kernel after)
      (pauses : outcome.Pauses) :
      HandleCases event (after, outcome)
  | execute (start : Start) (middle : Kernel) (devices : Devices) (outcome : Outcome)
      (starts : kernel.starting event = some start)
      (slot : start.slot = kernel.freeProcId)
      (keeps : KeepsPcbs layout kernel middle)
      (alike : (middle.execute layout fs start.stale start.command).2.Alike outcome) :
      HandleCases event
        ((middle.execute layout fs start.stale start.command).1.setDevices devices,
          outcome)
  | halt (stale : StaleLocals) (status : Nat) (middle : Kernel) (devices : Devices)
      (outcome : Outcome)
      (halts : kernel.halting event = some stale)
      (restarts : kernel.starting event = kernel.restart stale)
      (keeps : KeepsPcbs layout kernel middle)
      (alike : (middle.halt layout fs stale status).2.Alike outcome) :
      HandleCases event
        ((middle.halt layout fs stale status).1.setDevices devices, outcome)

/-- A function that keeps the PCBs, or does so until it starts a shell. -/
inductive MayLaunch (stale : StaleLocals) : Kernel × Outcome → Prop
  | keeps (after : Kernel) (outcome : Outcome) (keeps : KeepsPcbs layout kernel after)
      (pauses : outcome.Pauses) :
      MayLaunch stale (after, outcome)
  | launches (middle : Kernel) (outcome : Outcome)
      (keeps : KeepsPcbs layout kernel middle)
      (alike : (middle.execute layout fs stale shellCommand).2.Alike outcome) :
      MayLaunch stale ((middle.execute layout fs stale shellCommand).1, outcome)

variable {layout fs kernel}

theorem returnZero_alike (done : Kernel × Outcome) :
    done.2.Alike (returnZero done).2 := by
  obtain ⟨after, outcome⟩ := done
  cases outcome with
  | returned value => exact True.intro
  | running entryPoint => exact rfl
  | resumed value => exact rfl
  | pageFault => exact rfl

theorem returnZero_kernel (done : Kernel × Outcome) : (returnZero done).1 = done.1 := by
  unfold returnZero
  split <;> rfl

theorem finished_pauses (done : Kernel × Int) : (finished done).2.Pauses := by
  unfold finished
  dsimp only
  split
  · exact True.intro
  · exact True.intro

/-- The end of the keyboard interrupt touches the devices only. -/
theorem finishInterrupt_eq (done : Kernel × Outcome) :
    ∃ devices outcome, finishInterrupt done = (done.1.setDevices devices, outcome) ∧
      done.2.Alike outcome := by
  obtain ⟨after, outcome⟩ := done
  cases outcome with
  | returned value => exact ⟨_, _, rfl, True.intro⟩
  | running entryPoint => exact ⟨after.devices, _, rfl, rfl⟩
  | resumed value => exact ⟨after.devices, _, rfl, rfl⟩
  | pageFault => exact ⟨after.devices, _, rfl, rfl⟩

namespace MayLaunch

variable {stale : StaleLocals} {start : Kernel} {next : Kernel → Kernel × Outcome}

/-- Stopping at a page fault on the way. -/
theorem unlessFaulting (keeps : KeepsPcbs layout kernel start)
    (launch : kernel.MayLaunch layout fs stale (next start)) :
    kernel.MayLaunch layout fs stale (start.unlessFaulting .pageFault next) := by
  unfold Kernel.unlessFaulting
  split
  · exact .keeps start .pageFault keeps True.intro
  · exact launch

theorem returnZero {middle : Kernel} (keeps : KeepsPcbs layout kernel middle) :
    kernel.MayLaunch layout fs stale
      (Kernel.returnZero (middle.execute layout fs stale shellCommand)) := by
  have alike := returnZero_alike (middle.execute layout fs stale shellCommand)
  have same := returnZero_kernel (middle.execute layout fs stale shellCommand)
  generalize Kernel.returnZero (middle.execute layout fs stale shellCommand) = done
    at alike same
  obtain ⟨after, outcome⟩ := done
  subst same
  exact .launches middle outcome keeps alike

end MayLaunch

theorem initTerminals_mayLaunch (stale : StaleLocals) :
    kernel.MayLaunch layout fs stale (kernel.initTerminals layout fs stale) := by
  have prepared := kernel.keeps_prepareTerminals layout
  exact .unlessFaulting prepared (.returnZero prepared)

theorem launchSaved_mayLaunch {saved : Kernel} (keeps : KeepsPcbs layout kernel saved)
    (stale : StaleLocals) (target : Nat) :
    kernel.MayLaunch layout fs stale (saved.launchSaved layout fs stale target) := by
  have restored := (keeps.trans (saved.keeps_markLaunched layout target)).trans
    (keeps_terminalRestore layout _ target)
  exact .unlessFaulting restored
    (.returnZero (restored.trans (keeps_setDevices layout _ _)))

theorem terminalLaunch_mayLaunch (stale : StaleLocals) (target : Nat) :
    kernel.MayLaunch layout fs stale
      (kernel.terminalLaunch layout fs stale target) := by
  have saved := kernel.keeps_terminalSave layout kernel.tty.keyboard.curTermId
  unfold terminalLaunch
  split
  · exact .keeps _ _ (.refl layout kernel) True.intro
  split
  · exact .keeps _ _ (kernel.keeps_printfPlain layout _) True.intro
  apply MayLaunch.unlessFaulting saved
  split
  · exact .keeps _ _ saved True.intro
  · exact launchSaved_mayLaunch saved stale target

theorem unlessFaulting_pauses {start : Kernel} {next : Kernel → Kernel × Outcome}
    (pauses : (next start).2.Pauses) :
    (start.unlessFaulting .pageFault next).2.Pauses := by
  unfold unlessFaulting
  split
  · exact True.intro
  · exact pauses

theorem terminalChange_pauses (target : Nat) :
    (kernel.terminalChange layout target).2.Pauses := by
  unfold terminalChange
  split
  · exact True.intro
  apply unlessFaulting_pauses
  split
  · exact True.intro
  apply unlessFaulting_pauses
  split
  · exact True.intro
  · exact True.intro

/-- `terminal_LoS` either keeps the PCBs, or launches a terminal. -/
theorem terminalLoS_cases (stale : StaleLocals) (target : Nat) :
    (kernel.keyStart stale (.terminalLoS target) =
        some ⟨shellCommand, stale, kernel.freeProcId⟩ ∧
      kernel.MayLaunch layout fs stale (kernel.terminalLoS layout fs stale target)) ∨
    (KeepsPcbs layout kernel (kernel.terminalLoS layout fs stale target).1 ∧
      (kernel.terminalLoS layout fs stale target).2.Pauses) := by
  unfold terminalLoS
  split
  · exact Or.inr ⟨.refl layout kernel, True.intro⟩
  split
  · exact Or.inr ⟨.refl layout kernel, True.intro⟩
  split
  · exact Or.inr ⟨kernel.keeps_terminalChange layout target, terminalChange_pauses target⟩
  · rename_i inRange different unused
    refine Or.inl ⟨?_, terminalLaunch_mayLaunch stale target⟩
    rw [keyStart, if_pos ⟨by omega, different, Bool.eq_false_of_not_eq_true unused⟩]

/-- A function that may launch a shell is one of the cases of its event. -/
theorem MayLaunch.handleCases {event : Event} {start : Kernel} {stale : StaleLocals}
    {done : Kernel × Outcome} (launch : start.MayLaunch layout fs stale done)
    (before : KeepsPcbs layout kernel start)
    (starts : kernel.starting event =
      some ⟨shellCommand, stale, kernel.freeProcId⟩)
    {outcome : Outcome} (devices : Devices) (alike : done.2.Alike outcome) :
    kernel.HandleCases layout fs event (done.1.setDevices devices, outcome) := by
  cases launch with
  | keeps after paused keeps pauses =>
      exact .keeps _ _ ((before.trans keeps).trans (keeps_setDevices layout _ _))
        (Outcome.Alike.pauses alike pauses)
  | launches middle left keeps leftAlike =>
      exact .execute ⟨shellCommand, stale, kernel.freeProcId⟩ middle devices outcome
        starts rfl (before.trans keeps) (leftAlike.trans alike)

/-- What the handler does with a key, over what the key edits. -/
theorem keyboardIntHandler_eq (stale : StaleLocals) (key : Nat) :
    kernel.keyboardIntHandler layout fs stale key =
      let edited := (kernel.setDevices (kernel.devices.disableIrq keyboardIrq)).setTty
        (kernel.tty.handleKey key).1
      finishInterrupt
        (match (kernel.tty.handleKey key).2 with
        | .done => (edited, .returned 0)
        | .halt =>
            (edited.setDevices
              ((edited.devices.sendEoi keyboardIrq).enableIrq keyboardIrq)).halt
                layout fs stale 0
        | .terminalLoS id =>
            (edited.setDevices (edited.devices.sendEoi keyboardIrq)).terminalLoS
              layout fs stale id) :=
  rfl

theorem keyboard_cases (stale : StaleLocals) (key : Nat) :
    kernel.HandleCases layout fs (.keyboard key stale)
      (kernel.keyboardIntHandler layout fs stale key) := by
  have masking := kernel.keeps_setDevices layout (kernel.devices.disableIrq keyboardIrq)
  have keeps := masking.trans (keeps_setTty layout _ (kernel.tty.handleKey key).1)
  have starts : kernel.starting (.keyboard key stale) =
      (kernel.setTty (kernel.tty.handleKey key).1).keyStart stale
        (kernel.tty.handleKey key).2 := rfl
  rw [keyboardIntHandler_eq]
  generalize isEdited : (kernel.setDevices (kernel.devices.disableIrq keyboardIrq)).setTty
    (kernel.tty.handleKey key).1 = edited at keeps
  cases action : (kernel.tty.handleKey key).2 with
  | done =>
      obtain ⟨devices, outcome, done, alike⟩ :=
        finishInterrupt_eq (edited, Outcome.returned 0)
      dsimp only
      rw [done]
      exact .keeps _ _ (keeps.trans (keeps_setDevices layout _ _))
        (alike.pauses True.intro)
  | halt =>
      dsimp only
      generalize isStart : edited.setDevices
        ((edited.devices.sendEoi keyboardIrq).enableIrq keyboardIrq) = start
      have before : KeepsPcbs layout kernel start :=
        isStart ▸ keeps.trans (keeps_setDevices layout _ _)
      obtain ⟨devices, outcome, done, alike⟩ :=
        finishInterrupt_eq (start.halt layout fs stale 0)
      rw [done]
      refine .halt stale 0 start devices outcome ?_ ?_ before alike
      · simp only [halting, action]
      · rw [starts, action]
        rfl
  | terminalLoS id =>
      dsimp only
      generalize isStart : edited.setDevices (edited.devices.sendEoi keyboardIrq) = start
      have before : KeepsPcbs layout kernel start :=
        isStart ▸ keeps.trans (keeps_setDevices layout _ _)
      obtain ⟨devices, outcome, done, alike⟩ :=
        finishInterrupt_eq (start.terminalLoS layout fs stale id)
      rw [done]
      rcases @Kernel.terminalLoS_cases layout fs start stale id with
        ⟨launches, launch⟩ | ⟨keepsOn, pauses⟩
      · refine launch.handleCases before ?_ devices alike
        rw [starts, action]
        subst isStart isEdited
        exact launches
      · exact .keeps _ _ ((before.trans keepsOn).trans (keeps_setDevices layout _ _))
          (alike.pauses pauses)

theorem handle_cases (layout : KernelLayout) (fs : FileSystem) (kernel : Kernel)
    (event : Event) :
    kernel.HandleCases layout fs event (kernel.handle layout fs event) := by
  cases event with
  | trap => exact .trap rfl
  | iret => exact .iret rfl
  | moveStack esp ebp => exact .moveStack esp ebp rfl
  | initTerminals stale =>
      exact (initTerminals_mayLaunch stale).handleCases (.refl layout kernel) rfl
        (kernel.initTerminals layout fs stale).1.devices (.refl _)
  | execute command stale =>
      exact .execute ⟨command, stale, kernel.freeProcId⟩ kernel
        (kernel.execute layout fs stale command).1.devices _ rfl rfl
        (.refl layout kernel) (.refl _)
  | halt status stale =>
      exact .halt stale status kernel (kernel.halt layout fs stale status).1.devices _
        rfl rfl (.refl layout kernel) (.refl _)
  | exception message stale =>
      have cleared : KeepsPcbs layout kernel { kernel with faulting := false } :=
        kernel.keeps_withPeripherals layout kernel.tty kernel.devices false
          fun _ => Or.inl rfl
      exact .halt stale exceptRetval _
        (kernel.exceptionHandler layout fs stale message).1.devices _ rfl rfl
        (cleared.trans (keeps_print layout _ message)) (.refl _)
  | fileCall request stale =>
      exact .fileCall request stale _ rfl (finished_pauses
        (kernel.fileCall fs ⟨request.wokenIn kernel.tty, stale⟩))
  | vidmap screenStart =>
      exact .keeps _ _ (kernel.keeps_vidmap layout screenStart) (finished_pauses _)
  | keyboard key stale => exact keyboard_cases stale key
  | rtcInterrupt => exact .keeps _ _ (kernel.keeps_setDevices layout _) True.intro
  | pitInterrupt => exact .keeps _ _ (kernel.keeps_setDevices layout _) True.intro
  | print bytes => exact .keeps _ _ (kernel.keeps_print layout bytes) True.intro
  | terminalSave id =>
      exact .keeps _ _ (kernel.keeps_terminalSave layout id) (finished_pauses _)
  | terminalRestore id =>
      exact .keeps _ _ (kernel.keeps_terminalRestore layout id) (finished_pauses _)
  | userStore linear value =>
      exact .keeps _ _ (kernel.keeps_userStore layout linear value) True.intro

end Kernel

/-- A key that is handled before the end of the interrupt is sent. -/
theorem keyboard_of_done {layout : KernelLayout} {fs : FileSystem} {kernel : Kernel}
    {key : Nat} (stale : StaleLocals)
    (done : (kernel.tty.handleKey key).2 = .done) :
    ∃ devices, kernel.keyboardIntHandler layout fs stale key =
      ((kernel.setTty (kernel.tty.handleKey key).1).setDevices devices, .returned 0) := by
  rw [Kernel.keyboardIntHandler_eq, done]
  exact ⟨_, rfl⟩

end ChapOS
