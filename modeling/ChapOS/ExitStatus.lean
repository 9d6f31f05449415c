import ChapOS.ProcessTurnover

/-!
# The value that the parent's `execute` returns

A child that ends goes back to the kernel stack that its PCB remembers.  What it
finds there is the `execute` call that started it, and the value is the low byte of
the argument of `halt`; but 1 stands for an exception, and becomes 256, and a build
that puts the status in EAX delivers 0 whatever it is.
-/

namespace ChapOS

/-- What a step does to the saved stack pointers: a new process gets that of its
`execute` call, a process that ends goes back to its own, and all others stay. -/
structure SavesStack (kernel : Kernel) (outcome : Outcome) (next : Kernel) : Prop where
  kept : ∀ id < 6, (∀ entryPoint, outcome = .running entryPoint →
      id ≠ next.activeProcNum) →
    (next.pcbAt (pcbAddress id)).ksp = (kernel.pcbAt (pcbAddress id)).ksp
  saved : ∀ entryPoint, outcome = .running entryPoint →
    (next.pcbAt (pcbAddress next.activeProcNum)).ksp = kernel.esp
  back : ∀ value, outcome = .resumed value → next.esp = kernel.currentPcb.ksp

namespace SavesStack

variable {layout : KernelLayout} {fs : FileSystem} {kernel middle next : Kernel}
  {outcome : Outcome}

/-- A step that neither starts nor ends a process. -/
theorem of_pauses (pauses : outcome.Pauses)
    (kept : ∀ address, (next.pcbAt address).ksp = (kernel.pcbAt address).ksp) :
    SavesStack kernel outcome next where
  kept id _ _ := kept (pcbAddress id)
  saved entryPoint running := by
    subst running
    exact pauses.elim
  back value resumed := by
    subst resumed
    exact pauses.elim

theorem alike {first : Outcome} (saves : SavesStack kernel first next)
    (alike : first.Alike outcome) : SavesStack kernel outcome next where
  kept id idLt notNew := by
    apply saves.kept id idLt
    rintro entryPoint rfl
    exact notNew entryPoint (Eq.symm alike)
  saved entryPoint running := saves.saved entryPoint (running ▸ alike).running
  back value resumed := by
    subst resumed
    cases first with
    | returned other => exact nomatch alike
    | running entryPoint => exact nomatch alike
    | resumed other => exact saves.back value alike
    | pageFault => exact nomatch alike

/-- Keeping the PCBs before and touching the devices after changes nothing. -/
theorem between (devices : Devices) (saves : SavesStack middle outcome next)
    (keeps : KeepsPcbs layout kernel middle) :
    SavesStack kernel outcome (next.setDevices devices) where
  kept id idLt notNew := by
    rw [← keeps.pcbAt]
    exact saves.kept id idLt notNew
  saved entryPoint running := (saves.saved entryPoint running).trans keeps.esp
  back value resumed := (saves.back value resumed).trans keeps.ksp

theorem execute (layout : KernelLayout) (fs : FileSystem) (kernel : Kernel)
    (stale : StaleLocals) (command : Option (List UInt8)) :
    SavesStack kernel (kernel.execute layout fs stale command).2
      (kernel.execute layout fs stale command).1 := by
  have done := kernel.execute_cases layout fs stale command
  generalize kernel.execute layout fs stale command = result at done ⊢
  cases done with
  | refused bytes => exact .of_pauses True.intro fun _ => rfl
  | headerFault bytes => exact .of_pauses True.intro fun _ => rfl
  | loadFault bytes inode taken program free faulted =>
      exact .of_pauses True.intro fun _ => rfl
  | started bytes inode taken entryPoint arg program free loaded =>
      obtain ⟨-, -, takenLt⟩ := Kernel.flag_of_freeProcIdFrom free
      simp only [maxProcesses] at takenLt
      generalize ((kernel.print bytes).loadFor layout fs taken inode).memory = mem
      refine ⟨fun id idLt notNew => ?_, fun _ _ => ?_, nofun⟩
      · have different : id ≠ taken := notNew entryPoint rfl
        refine congrArg Pcb.ksp (Function.update_of_ne (fun same => different ?_) _ _)
        exact pcbAddress_injective idLt (by omega) same
      · have own : ((kernel.loadedFor bytes taken mem).enterProgram taken arg).pcbAt
            (pcbAddress taken) = (kernel.loadedFor bytes taken mem).newPcb taken arg :=
          Function.update_self _ _ _
        show (((kernel.loadedFor bytes taken mem).enterProgram taken arg).pcbAt
          (pcbAddress taken)).ksp = kernel.esp
        rw [own, Kernel.newPcb_ksp]
        rfl

theorem halt (layout : KernelLayout) (fs : FileSystem) (kernel : Kernel)
    (stale : StaleLocals) (status : Nat) :
    SavesStack kernel (kernel.halt layout fs stale status).2
      (kernel.halt layout fs stale status).1 := by
  have leaves := kernel.leaves layout
  by_cases isRoot : kernel.activeProcNum = 0
  · have starts := execute layout fs kernel.leaveProcess stale Kernel.shellCommand
    rw [Kernel.halt_of_root layout fs stale status isRoot, Kernel.returnZero_kernel]
    refine SavesStack.alike ?_ (Kernel.returnZero_alike _)
    refine ⟨fun id idLt notNew => ?_, fun entryPoint running => ?_,
      fun value resumed => ?_⟩
    · exact (starts.kept id idLt notNew).trans (leaves.pcb _).2.2
    · exact (starts.saved entryPoint running).trans leaves.esp
    · have started := Kernel.execute_not_resumed layout fs kernel.leaveProcess stale
        Kernel.shellCommand value
      rw [resumed] at started
      exact absurd (.refl _) started
  · have pointer : kernel.leaveProcess.currentPcb =
        kernel.leaveProcess.pcbAt kernel.getPcbPtr := by
      rw [Kernel.currentPcb, Kernel.getPcbPtr, leaves.esp, ← Kernel.getPcbPtr]
    rw [Kernel.halt_of_child layout fs stale status isRoot]
    refine ⟨fun id _ _ => (leaves.pcb (pcbAddress id)).2.2, ?_, fun _ _ => ?_⟩
    · intro entryPoint running
      cases running
    show kernel.leaveProcess.currentPcb.ksp = kernel.currentPcb.ksp
    rw [pointer]
    exact (leaves.pcb kernel.getPcbPtr).2.2

theorem handle (layout : KernelLayout) (fs : FileSystem) (kernel : Kernel)
    (event : Event) :
    SavesStack kernel (kernel.handle layout fs event).2
      (kernel.handle layout fs event).1 := by
  have done := Kernel.handle_cases layout fs kernel event
  generalize kernel.handle layout fs event = result at done ⊢
  cases done with
  | trap isTrap => exact .of_pauses True.intro fun _ => rfl
  | iret isIret => exact .of_pauses True.intro fun _ => rfl
  | moveStack esp ebp isMove => exact .of_pauses True.intro fun _ => rfl
  | fileCall request stale left isCall pauses =>
      exact .of_pauses pauses fun address =>
        ((kernel.keeps_fileCall layout fs _).pcb address).2.2
  | keeps after paused keeps pauses =>
      exact .of_pauses pauses fun address => by rw [keeps.pcbAt]
  | execute start middle devices left starts slot keeps alike =>
      have saves := SavesStack.execute layout fs middle start.stale start.command
      exact (saves.alike alike).between devices keeps
  | halt stale status middle devices left halts restarts keeps alike =>
      have saves := SavesStack.halt layout fs middle stale status
      exact (saves.alike alike).between devices keeps

end SavesStack

section Runs

variable {layout : KernelLayout} {fs : FileSystem} {boot kernel next : Kernel} {k n : Nat}
  {event : Event} {outcome : Outcome}

/-- With `n` live processes, the one in slot `k` was started on the given stack. -/
structure StartedOn (layout : KernelLayout) (k esp : Nat) (kernel : Kernel) (n : Nat) :
    Prop where
  holds : ProcessInvariant layout kernel n
  ksp : (kernel.pcbAt (pcbAddress k)).ksp = esp

/-- A step that does not start a process in slot `k` keeps its saved stack. -/
theorem StartedOn.step {esp nextN : Nat} (started : StartedOn layout k esp kernel n)
    (kLt : k < n) (step : kernel.Step layout fs (event, outcome) next)
    (nextHolds : ProcessInvariant layout next nextN)
    (notNew : ∀ entryPoint, outcome = .running entryPoint → k ≠ next.activeProcNum) :
    StartedOn layout k esp next nextN := by
  have saves := SavesStack.handle layout fs kernel event
  rw [step.2] at saves
  have bounded := started.holds.bounded
  exact ⟨nextHolds, (saves.kept k (by omega) notNew).trans started.ksp⟩

/-- Well-nested activity above slot `k` keeps its saved stack. -/
theorem StartedOn.wellNested {esp : Nat} {last : Kernel}
    {labels : List (Event × Outcome)} (nested : WellNested Starts Resumes labels)
    (positive : 0 < k) (above : k + 1 ≤ n)
    (run : Run (Kernel.MappedStep layout fs) kernel labels last)
    (started : StartedOn layout k esp kernel n) : StartedOn layout k esp last n := by
  refine nested.depth (StartedOn layout k esp) (k + 1) ?_ ?_ ?_ above run started
  · rintro state ⟨event, outcome⟩ after depth above notOpen notClose started step
    obtain ⟨nextN, nextHolds, effect⟩ := started.holds.step step
    have same : nextN = depth := by
      cases outcome with
      | returned value => rcases effect with same | ⟨-, small, -⟩ <;> omega
      | running entryPoint => exact (notOpen ⟨entryPoint, rfl⟩).elim
      | resumed value => exact (notClose ⟨value, rfl⟩).elim
      | pageFault => rcases effect with same | ⟨-, small, -⟩ <;> omega
    subst same
    exact started.step (by omega) step.1 nextHolds fun entryPoint running =>
      (notOpen ⟨entryPoint, running⟩).elim
  · rintro state ⟨event, outcome⟩ after depth above ⟨entryPoint, rfl⟩ started step
    obtain ⟨nextN, nextHolds, effect⟩ := started.holds.step step
    have grows : nextN = depth + 1 := by
      rcases effect with grows | ⟨small, -⟩ <;> omega
    subst grows
    have active := nextHolds.active (by omega)
    exact started.step (by omega) step.1 nextHolds fun _ _ => by omega
  · rintro state ⟨event, outcome⟩ after depth above ⟨value, rfl⟩ started step
    obtain ⟨nextN, nextHolds, effect⟩ := started.holds.step step
    have shrinks : nextN = depth := by
      rcases effect with ⟨one, -⟩ | ⟨none, -⟩ <;> omega
    subst shrinks
    exact started.step (by omega) step.1 nextHolds nofun

/-- A child that halts loads nothing. -/
theorem Kernel.loadsMapped_of_halting {stale : StaleLocals}
    (halts : kernel.halting event = some stale) (isChild : kernel.activeProcNum ≠ 0) :
    kernel.LoadsMapped layout fs event := by
  intro start starts
  have noRestart (other : StaleLocals) : kernel.restart other = none := if_neg isChild
  cases halts_of_halting halts with
  | halt status => exact absurd (starts.symm.trans (noRestart stale)) (by simp)
  | exception message => exact absurd (starts.symm.trans (noRestart stale)) (by simp)
  | keyboard key ctrlC =>
      rw [starting] at starts
      simp only [ctrlC, keyStart] at starts
      exact absurd (starts.symm.trans (noRestart stale)) (by simp)

/-- A child is back on the stack of the call that started it when it has ended after
well-nested activity. -/
theorem resumes_starter (booted : boot.Boots layout) {child left resumed : Kernel}
    {labels inner : List (Event × Outcome)} {starts : Event} {stale : StaleLocals}
    {entryPoint : Nat} (run : Run (Kernel.MappedStep layout fs) boot labels kernel)
    (start : kernel.MappedStep layout fs (starts, .running entryPoint) child)
    (isChild : 1 ≤ child.activeProcNum)
    (innerRun : Run (Kernel.MappedStep layout fs) child inner left)
    (nested : WellNested Starts Resumes inner)
    (halts : left.halting event = some stale)
    (ends : left.Step layout fs (event, outcome) resumed) :
    resumed.esp = kernel.esp ∧ resumed.activeProcNum = kernel.activeProcNum := by
  obtain ⟨k, holds⟩ := ProcessInvariant.run run ⟨0, .boots booted⟩
  obtain ⟨childK, childHolds, effect⟩ := holds.step start
  have childActive := childHolds.active
  have isNext : childK = k + 1 ∧ 1 ≤ k := by
    rcases effect with grows | ⟨atMostOne, one⟩ <;> omega
  obtain ⟨rfl, positive⟩ := isNext
  have active := holds.active positive
  have inSlot : child.activeProcNum = k := childActive (by omega)
  have saves := SavesStack.handle layout fs kernel starts
  rw [start.1.2] at saves
  have started : StartedOn layout k kernel.esp child (k + 1) :=
    ⟨childHolds, inSlot ▸ saves.saved entryPoint rfl⟩
  have leftStarted := started.wellNested nested positive (Nat.le_refl _) innerRun
  have leftActive := leftStarted.holds.active (by omega)
  have notRoot : left.activeProcNum ≠ 0 := by omega
  have mapped : left.LoadsMapped layout fs event :=
    Kernel.loadsMapped_of_halting halts notRoot
  have resumes := Kernel.handle_halting layout fs halts notRoot
  rw [ends.2] at resumes
  subst resumes
  obtain ⟨endK, endHolds, endEffect⟩ := leftStarted.holds.step ⟨ends, mapped⟩
  have sameK : endK = k := by
    rcases endEffect with ⟨one, -⟩ | ⟨none, -⟩ <;> omega
  subst sameK
  have kernelMode := Kernel.kernelMode_of_admits ends.1 (by simp [halts])
  have pointer := leftStarted.holds.getPcbPtr_eq (by omega) kernelMode
  have leaves := SavesStack.handle layout fs left event
  rw [ends.2] at leaves
  refine ⟨?_, (endHolds.active positive).trans active.symm⟩
  rw [leaves.back _ rfl, Kernel.currentPcb, pointer]
  exact leftStarted.ksp

/-- What the parent is told about a child that an event ends. -/
structure Reports (event : Event) (value : Nat) : Prop where
  exited : ∀ status stale, event = .halt status stale → value = status % 256
  interrupted : ∀ key stale, event = .keyboard key stale → value = 0
  excepted : value = 256 ↔ ∃ message stale, event = .exception message stale

/-- The program exits with status 1. -/
def ExitsWithOne (event : Event) : Prop :=
  ∃ status stale, event = .halt status stale ∧ status % 256 = 1

/-- The end is one whose value the assembly of `halt` gets right: the low byte of the
status is 0, or the build keeps the status out of EAX and the program does not exit
with 1. -/
def HaltOperands.Deliver (operands : HaltOperands) (event : Event) : Prop :=
  haltStatus event % 256 = 0 ∨ operands.status ≠ .eax ∧ ¬ExitsWithOne event

theorem reports_halt_iff {status value : Nat} {stale : StaleLocals} :
    Reports (.halt status stale) value ↔ value = status % 256 := by
  constructor
  · intro reports
    exact reports.exited status stale rfl
  · intro told
    constructor
    · intro passed other same
      obtain ⟨rfl, -⟩ := Event.halt.inj same
      exact told
    · intro key other same
      cases same
    · constructor
      · intro tooLarge
        omega
      · rintro ⟨message, other, same⟩
        cases same

theorem reports_exception_iff {message : List UInt8} {stale : StaleLocals} {value : Nat} :
    Reports (.exception message stale) value ↔ value = 256 := by
  constructor
  · intro reports
    exact reports.excepted.mpr ⟨message, stale, rfl⟩
  · intro told
    constructor
    · intro status other same
      cases same
    · intro key other same
      cases same
    · exact ⟨fun _ => ⟨message, stale, rfl⟩, fun _ => told⟩

theorem reports_keyboard_iff {key value : Nat} {stale : StaleLocals} :
    Reports (.keyboard key stale) value ↔ value = 0 := by
  constructor
  · intro reports
    exact reports.interrupted key stale rfl
  · intro told
    constructor
    · intro status other same
      cases same
    · intro pressed other _
      exact told
    · constructor
      · intro tooLarge
        omega
      · rintro ⟨message, other, same⟩
        cases same

/-- What 0 tells. -/
theorem reports_zero_iff {stale : StaleLocals}
    (halts : kernel.halting event = some stale) :
    Reports event 0 ↔ haltStatus event % 256 = 0 := by
  cases Kernel.halts_of_halting halts with
  | halt status => rw [reports_halt_iff, haltStatus, eq_comm]
  | exception message =>
      rw [reports_exception_iff, haltStatus]
      decide
  | keyboard key ctrlC =>
      have isZero : haltStatus (.keyboard key stale) = 0 := rfl
      rw [reports_keyboard_iff, isZero]

/-- Where the status is read intact, only 1 is told wrong. -/
theorem reports_iff {stale : StaleLocals} {operands : HaltOperands}
    (halts : kernel.halting event = some stale) (intact : operands.status ≠ .eax) :
    Reports event (haltValue operands (haltStatus event)) ↔ ¬ExitsWithOne event := by
  cases Kernel.halts_of_halting halts with
  | halt status =>
      rw [reports_halt_iff, haltStatus, haltValue, if_neg intact]
      constructor
      · rintro told ⟨passed, _, same, isOne⟩
        obtain ⟨rfl, -⟩ := Event.halt.inj same
        rw [if_pos isOne] at told
        omega
      · intro notOne
        rw [if_neg]
        intro isOne
        exact notOne ⟨status, stale, rfl, isOne⟩
  | exception message =>
      have told : haltValue operands exceptRetval = 256 := by
        rw [haltValue, if_neg intact]
        rfl
      rw [reports_exception_iff, haltStatus, told]
      constructor
      · rintro - ⟨passed, _, same, -⟩
        cases same
      · intro _
        rfl
  | keyboard key ctrlC =>
      have isZero : haltStatus (.keyboard key stale) = 0 := rfl
      rw [reports_keyboard_iff, isZero, haltValue_zero]
      constructor
      · rintro - ⟨passed, _, same, -⟩
        cases same
      · intro _
        rfl

theorem reports_iff_deliver {stale : StaleLocals} (operands : HaltOperands)
    (halts : kernel.halting event = some stale) :
    Reports event (haltValue operands (haltStatus event)) ↔ operands.Deliver event := by
  by_cases inEax : operands.status = .eax
  · have lost : haltValue operands (haltStatus event) = 0 := if_pos inEax
    rw [lost, reports_zero_iff halts, HaltOperands.Deliver]
    exact ⟨.inl, fun delivered => delivered.resolve_right fun intact => intact.1 inEax⟩
  · rw [reports_iff halts inEax, HaltOperands.Deliver]
    refine ⟨fun notOne => .inr ⟨inEax, notOne⟩, ?_⟩
    rintro (isZero | ⟨-, notOne⟩)
    · rintro ⟨status, stale, rfl, isOne⟩
      rw [haltStatus] at isZero
      omega
    · exact notOne

/-- Whatever ends a child, an `execute` call returns, and its value is the one that
reports the end exactly where the assembly of `halt` delivers it; where every load is
mapped, it is the call that started the child. -/
theorem exit_status_delivered_iff {left resumed : Kernel} {stale : StaleLocals}
    (halts : left.halting event = some stale) (isChild : 1 ≤ left.activeProcNum)
    (ends : left.Step layout fs (event, outcome) resumed) :
    ∃ value, outcome = .resumed value ∧
      (Reports event value ↔ layout.haltOperands.Deliver event) ∧
      ∀ (boot kernel child : Kernel) (labels inner : List (Event × Outcome))
        (starts : Event) (entryPoint : Nat),
        boot.Boots layout →
        Run (Kernel.MappedStep layout fs) boot labels kernel →
        kernel.MappedStep layout fs (starts, .running entryPoint) child →
        1 ≤ child.activeProcNum →
        Run (Kernel.MappedStep layout fs) child inner left →
        WellNested Starts Resumes inner →
        resumed.esp = kernel.esp ∧ resumed.activeProcNum = kernel.activeProcNum := by
  have resumes := Kernel.handle_halting layout fs halts (by omega)
  rw [ends.2] at resumes
  refine ⟨haltValue layout.haltOperands (haltStatus event), resumes,
    reports_iff_deliver _ halts, ?_⟩
  intro boot kernel child labels inner starts entryPoint booted run start started
    innerRun nested
  exact resumes_starter booted run start started innerRun nested halts ends

/-- A shell that exits with status 3 tells this to the shell that executed it, where
the build spares EAX. -/
theorem exit_status_delivered_iff_three :
    ∃ (waiting left resumed : Kernel) (value : Nat),
      left.Step lowLayout oversizedImage (.halt 3 .zero, .resumed value) resumed ∧
        Reports (.halt 3 .zero) value ∧ resumed.esp = waiting.esp := by
  obtain ⟨waiting, child, left, resumed, nestedRun⟩ :=
    startedKernel_boots.nestedRun oversizedImage_hasShell 3
  obtain ⟨firstEntry, start⟩ := nestedRun.start
  obtain ⟨secondEntry, executes⟩ := nestedRun.executes
  have ends := nestedRun.halts.1
  have nested : WellNested Starts Resumes [(Event.trap, Outcome.returned 0)] :=
    .plain nofun nofun .nil
  have notOne : ¬ExitsWithOne (.halt 3 .zero) := by
    rintro ⟨passed, _, same, isOne⟩
    obtain ⟨rfl, -⟩ := Event.halt.inj same
    omega
  have halts : left.halting (.halt 3 .zero) = some .zero := rfl
  obtain ⟨value, resumes, reports, back⟩ :=
    exit_status_delivered_iff halts (Nat.le_of_eq nestedRun.stillInChild.symm) ends
  obtain rfl := Outcome.resumed.inj resumes
  exact ⟨waiting, left, resumed, _, ends, reports.mpr (.inr ⟨by decide, notOne⟩),
    (back _ _ _ _ _ _ _ startedKernel_boots start executes
      (Nat.le_of_eq nestedRun.inChild.symm) (Run.cons nestedRun.traps (Run.nil left))
      nested).1⟩

/-- A shell that exits with status 1 is reported as one that an exception ended; and
where the build puts the status in EAX, one that exits with 3 is reported as one that
exits with 0. -/
theorem exit_status_reported_wrong :
    (∃ boot labels left resumed,
      boot.Boots lowLayout ∧ Run (Kernel.Step lowLayout oversizedImage) boot labels left ∧
        left.activeProcNum = 1 ∧
        left.Step lowLayout oversizedImage (.halt 1 .zero, .resumed 256) resumed ∧
        ¬Reports (.halt 1 .zero) 256) ∧
      ∃ boot labels left resumed,
        boot.Boots eaxLayout ∧
          Run (Kernel.Step eaxLayout oversizedImage) boot labels left ∧
          left.activeProcNum = 1 ∧
          left.Step eaxLayout oversizedImage (.halt 3 .zero, .resumed 0) resumed ∧
          ¬Reports (.halt 3 .zero) 0 := by
  have reaches (layout : KernelLayout) (status : Nat) : ∃ boot labels left resumed,
      boot.Boots layout ∧ Run (Kernel.Step layout oversizedImage) boot labels left ∧
        left.activeProcNum = 1 ∧
        left.Step layout oversizedImage
          (.halt status .zero, .resumed (haltValue layout.haltOperands status))
          resumed := by
    have booted : (Kernel.loaded.entry layout []).Boots layout :=
      ⟨Kernel.loaded, [], ⟨rfl, rfl, rfl, rfl⟩, rfl⟩
    obtain ⟨waiting, child, left, resumed, nestedRun⟩ :=
      booted.nestedRun oversizedImage_hasShell status
    obtain ⟨firstEntry, start⟩ := nestedRun.start
    obtain ⟨secondEntry, executes⟩ := nestedRun.executes
    have whole := start.append (Run.cons executes (Run.cons nestedRun.traps (Run.nil left)))
    exact ⟨_, _, left, resumed, booted, whole.mono fun _ _ _ step => step.1,
      nestedRun.stillInChild, nestedRun.halts.1⟩
  constructor
  · obtain ⟨boot, labels, left, resumed, booted, run, isChild, ends⟩ := reaches lowLayout 1
    rw [show haltValue lowLayout.haltOperands 1 = 256 by decide] at ends
    refine ⟨boot, labels, left, resumed, booted, run, isChild, ends, fun reports => ?_⟩
    exact absurd (reports.exited 1 .zero rfl) (by decide)
  · obtain ⟨boot, labels, left, resumed, booted, run, isChild, ends⟩ := reaches eaxLayout 3
    rw [show haltValue eaxLayout.haltOperands 3 = 0 by decide] at ends
    refine ⟨boot, labels, left, resumed, booted, run, isChild, ends, fun reports => ?_⟩
    exact absurd (reports.exited 3 .zero rfl) (by decide)

end Runs

end ChapOS
