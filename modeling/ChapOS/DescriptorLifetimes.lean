import ChapOS.SlotRuns

/-!
# Descriptors across process lifetimes

`execute` only sets up the first two descriptors of the PCB it takes over.  The
others are closed because the `halt` of the process before has closed them all,
and because only the running process opens files.
-/

namespace ChapOS

open CountedLoops

/-- No free slot has an open file. -/
def Dormant (kernel : Kernel) : Prop :=
  ∀ id < 6, kernel.procIdFlags id = 0 → (kernel.pcbAt (pcbAddress id)).Idle

section Steps

variable {layout : KernelLayout} {fs : FileSystem} {kernel next : Kernel} {k : Nat}
  {event : Event} {outcome : Outcome}

theorem Dormant.congr (dormant : Dormant kernel)
    (flags : next.procIdFlags = kernel.procIdFlags) (pcbs : next.pcbAt = kernel.pcbAt) :
    Dormant next := by
  intro id idLt isFree
  rw [pcbs]
  exact dormant id idLt (by rw [← flags]; exact isFree)

/-- What a call of `execute` does to the descriptors: a started process has only
the terminal open, and no other PCB changes. -/
structure StartsFresh (kernel : Kernel) (done : Kernel × Outcome) : Prop where
  dormant : Dormant done.1
  slot : ∀ entryPoint, done.2 = .running entryPoint →
    kernel.freeProcId = some done.1.activeProcNum
  fresh : ∀ entryPoint, done.2 = .running entryPoint →
    (done.1.pcbAt (pcbAddress done.1.activeProcNum)).FreshTable
  others : ∀ address,
    (∀ entryPoint, done.2 = .running entryPoint →
      address ≠ pcbAddress done.1.activeProcNum) →
    done.1.pcbAt address = kernel.pcbAt address

theorem newPcb_freshTable (kernel : Kernel) (id : Nat) (arg : CString)
    (idle : (kernel.pcbAt (pcbAddress id)).Idle) :
    (kernel.newPcb id arg).FreshTable := by
  refine { newPcb_hasTerminal kernel id arg with others := ?_ }
  intro fd low high
  rw [newPcb_files kernel id arg low]
  exact idle fd low high

theorem Dormant.execute (dormant : Dormant kernel) (layout : KernelLayout)
    (fs : FileSystem) (stale : StaleLocals) (command : Option (List UInt8)) :
    StartsFresh kernel (kernel.execute layout fs stale command) := by
  have done := kernel.execute_cases layout fs stale command
  generalize kernel.execute layout fs stale command = result at done ⊢
  cases done with
  | refused bytes =>
      exact ⟨dormant, fun _ running => (nomatch running),
        fun _ running => (nomatch running), fun _ _ => rfl⟩
  | headerFault bytes =>
      exact ⟨dormant, fun _ running => (nomatch running),
        fun _ running => (nomatch running), fun _ _ => rfl⟩
  | loadFault bytes inode id program free faulted =>
      refine ⟨?_, fun _ running => (nomatch running),
        fun _ running => (nomatch running), fun _ _ => rfl⟩
      intro other otherLt isFree
      have flags : Function.update kernel.procIdFlags id 1 other = 0 := isFree
      rw [Function.update_apply] at flags
      split at flags
      · omega
      · exact dormant other otherLt flags
  | started bytes inode id entryPoint arg program free loaded =>
      obtain ⟨isFree, -, idLt⟩ := Kernel.flag_of_freeProcIdFrom free
      have idle := dormant id (by simpa using idLt) isFree
      generalize ((kernel.print bytes).loadFor layout fs id inode).memory = mem
      have pcbs := kernel.entered_pcbAt bytes id mem arg
      refine ⟨?_, fun _ _ => free, ?_, ?_⟩
      · intro other otherLt otherFree
        have flags : Function.update kernel.procIdFlags id 1 other = 0 := otherFree
        rw [Function.update_apply] at flags
        split at flags
        · omega
        · rename_i different
          have unchanged := pcbs (pcbAddress other)
          rw [if_neg fun same => different
            (pcbAddress_injective otherLt (by simpa using idLt) same)] at unchanged
          exact unchanged ▸ dormant other otherLt flags
      · intro _ _
        have own := pcbs (pcbAddress id)
        rw [if_pos rfl] at own
        exact own ▸ newPcb_freshTable _ id arg idle
      · intro address other
        have different : address ≠ pcbAddress id := other entryPoint rfl
        have unchanged := pcbs address
        rw [if_neg different] at unchanged
        exact unchanged

/-- The slot whose descriptors an event can change: the new process's when one is
started, and otherwise the running process's. -/
def touchedSlot (kernel : Kernel) (outcome : Outcome) (next : Kernel) : Nat :=
  match outcome with
  | .running _ => next.activeProcNum
  | _ => kernel.activeProcNum

/-- What an event does to the descriptors. -/
structure LifetimeStep (kernel : Kernel) (outcome : Outcome) (next : Kernel) : Prop where
  dormant : Dormant next
  fresh : ∀ entryPoint, outcome = .running entryPoint →
    (next.pcbAt (pcbAddress next.activeProcNum)).FreshTable
  others : (∃ id < 6, kernel.procIdFlags id ≠ 0) →
    ∀ id < 6, id ≠ touchedSlot kernel outcome next →
      (next.pcbAt (pcbAddress id)).fDescs = (kernel.pcbAt (pcbAddress id)).fDescs

theorem touchedSlot_alike {first second : Outcome} (alike : first.Alike second) :
    touchedSlot kernel second next = touchedSlot kernel first next := by
  cases first with
  | returned value =>
      cases second with
      | returned other => exact rfl
      | running entryPoint => exact nomatch alike
      | resumed other => exact nomatch alike
      | pageFault => exact nomatch alike
  | running entryPoint => exact alike ▸ rfl
  | resumed value => exact alike ▸ rfl
  | pageFault => exact alike ▸ rfl

theorem LifetimeStep.alike {first second : Outcome}
    (lifetime : LifetimeStep kernel first next) (alike : first.Alike second) :
    LifetimeStep kernel second next where
  dormant := lifetime.dormant
  fresh entryPoint running := lifetime.fresh entryPoint (running ▸ alike).running
  others live id idLt different :=
    lifetime.others live id idLt (touchedSlot_alike alike ▸ different)

theorem touchedSlot_of_pauses (pauses : outcome.Pauses) :
    touchedSlot kernel outcome next = kernel.activeProcNum := by
  cases outcome with
  | returned value => rfl
  | running entryPoint => exact pauses.elim
  | resumed value => rfl
  | pageFault => rfl

/-- Keeping the PCBs before and touching the devices after changes nothing. -/
theorem LifetimeStep.between {middle after : Kernel} (devices : Devices)
    (lifetime : LifetimeStep middle outcome after)
    (keeps : KeepsPcbs layout kernel middle) :
    LifetimeStep kernel outcome (after.setDevices devices) where
  dormant := lifetime.dormant.congr rfl rfl
  fresh := lifetime.fresh
  others live id idLt different := by
    have same : touchedSlot kernel outcome (after.setDevices devices) =
        touchedSlot middle outcome after := by
      cases outcome with
      | running entryPoint => rfl
      | returned value => exact keeps.activeProcNum.symm
      | resumed value => exact keeps.activeProcNum.symm
      | pageFault => exact keeps.activeProcNum.symm
    rw [← keeps.pcbAt]
    rw [← keeps.procIdFlags] at live
    exact lifetime.others live id idLt (same ▸ different)

theorem StartsFresh.lifetimeStep {done : Kernel × Outcome}
    (starts : StartsFresh kernel done) : LifetimeStep kernel done.2 done.1 where
  dormant := starts.dormant
  fresh := starts.fresh
  others _ id idLt different := by
    rw [starts.others]
    intro entryPoint running same
    obtain ⟨-, -, activeLt⟩ :=
      Kernel.flag_of_freeProcIdFrom (starts.slot entryPoint running)
    apply different
    rw [running]
    have inTable : done.1.activeProcNum < 6 := by simpa using activeLt
    exact pcbAddress_injective idLt inTable same

/-- Leaving the running process leaves its slot without open files. -/
theorem Dormant.leaveProcess (dormant : Dormant kernel)
    (holds : ProcessInvariant layout kernel k) (kernelMode : kernel.userMode = false) :
    Dormant kernel.leaveProcess := by
  obtain ⟨idle, others⟩ := Kernel.leaveProcess_pcbs layout kernel
  have leaves := kernel.leaves layout
  intro id idLt isFree
  rw [leaves.procIdFlags, Function.update_apply] at isFree
  by_cases current : pcbAddress id = kernel.getPcbPtr
  · rw [current]
    exact idle
  · rw [others _ current]
    by_cases live : 0 < k
    · have isActive := holds.active live
      have pointer := holds.getPcbPtr_eq live kernelMode
      rw [← isActive] at pointer
      split at isFree
      · rename_i same
        exact absurd (same ▸ pointer.symm) current
      · exact dormant id idLt isFree
    · apply dormant id idLt
      rw [holds.flags id idLt, if_neg (by omega)]

theorem Dormant.halt (dormant : Dormant kernel)
    (holds : ProcessInvariant layout kernel k) (kernelMode : kernel.userMode = false)
    (fs : FileSystem) (stale : StaleLocals) (status : Nat) :
    LifetimeStep kernel (kernel.halt layout fs stale status).2
      (kernel.halt layout fs stale status).1 := by
  have left := dormant.leaveProcess holds kernelMode
  have leaves := kernel.leaves layout
  obtain ⟨-, others⟩ := Kernel.leaveProcess_pcbs layout kernel
  have unchanged (live : ∃ id < 6, kernel.procIdFlags id ≠ 0) {id : Nat} (idLt : id < 6)
      (different : id ≠ kernel.activeProcNum) :
      kernel.leaveProcess.pcbAt (pcbAddress id) = kernel.pcbAt (pcbAddress id) := by
    have positive := holds.positive_of_live live
    have bounded := holds.bounded
    have isActive := holds.active positive
    apply others
    rw [holds.getPcbPtr_eq positive kernelMode]
    intro same
    have := pcbAddress_injective idLt (by omega) same
    omega
  by_cases isRoot : kernel.activeProcNum = 0
  · have free : kernel.leaveProcess.freeProcId = some 0 := by
      rw [Kernel.freeProcId, maxProcesses, Kernel.freeProcIdFrom, if_pos]
      rw [leaves.procIdFlags, isRoot, Function.update_self]
    have started := left.execute layout fs stale Kernel.shellCommand
    rw [Kernel.halt_of_root layout fs stale status isRoot, Kernel.returnZero_kernel]
    refine LifetimeStep.alike ?_ (Kernel.returnZero_alike _)
    refine ⟨started.dormant, started.fresh, fun live id idLt different => ?_⟩
    have restarted : ∀ entryPoint,
        (kernel.leaveProcess.execute layout fs stale Kernel.shellCommand).2 =
          .running entryPoint →
        (kernel.leaveProcess.execute layout fs stale
          Kernel.shellCommand).1.activeProcNum = 0 := by
      intro entryPoint running
      have slot := started.slot entryPoint running
      rw [free] at slot
      exact (Option.some.inj slot).symm
    have notRoot : id ≠ 0 := by
      intro isZero
      apply different
      generalize kernel.leaveProcess.execute layout fs stale Kernel.shellCommand = done
        at restarted
      obtain ⟨after, outcome⟩ := done
      cases outcome with
      | returned value => exact isZero.trans isRoot.symm
      | running entryPoint => exact isZero.trans (restarted entryPoint rfl).symm
      | resumed value => exact isZero.trans isRoot.symm
      | pageFault => exact isZero.trans isRoot.symm
    rw [started.others, unchanged live idLt (isRoot ▸ notRoot)]
    intro entryPoint running same
    rw [restarted entryPoint running] at same
    exact notRoot (pcbAddress_injective idLt (by omega) same)
  · rw [Kernel.halt_of_child layout fs stale status isRoot]
    generalize kernel.leaveProcess = after at left unchanged
    refine ⟨left.congr rfl rfl, ?_, ?_⟩
    · intro entryPoint running
      cases running
    intro live id idLt different
    exact congrArg Pcb.fDescs (unchanged live idLt different)

/-- A step leaves no file of a free slot open, starts processes with the terminal
only, and touches the descriptors of one process. -/
theorem Dormant.step (dormant : Dormant kernel)
    (holds : ProcessInvariant layout kernel k)
    (step : kernel.Step layout fs (event, outcome) next) :
    LifetimeStep kernel outcome next := by
  obtain ⟨admits, handled⟩ := step
  have cases := Kernel.handle_cases layout fs kernel event
  rw [handled] at cases
  cases cases with
  | trap isTrap =>
      exact ⟨dormant.congr rfl rfl, fun _ running => (nomatch running),
        fun _ _ _ _ => rfl⟩
  | iret isIret =>
      exact ⟨dormant.congr rfl rfl, fun _ running => (nomatch running),
        fun _ _ _ _ => rfl⟩
  | moveStack esp ebp isMove =>
      exact ⟨dormant.congr rfl rfl, fun _ running => (nomatch running),
        fun _ _ _ _ => rfl⟩
  | fileCall request stale left isCall pauses =>
      subst isCall
      obtain ⟨-, kernelMode, live⟩ := admits
      have positive := holds.positive_of_live (by simpa using live)
      have bounded := holds.bounded
      have keeps := kernel.keeps_fileCall layout fs ⟨request.wokenIn kernel.tty, stale⟩
      have others {id : Nat} (idLt : id < 6) (different : id ≠ k - 1) :
          (kernel.fileCall fs ⟨request.wokenIn kernel.tty, stale⟩).1.pcbAt
            (pcbAddress id) = kernel.pcbAt (pcbAddress id) := by
        apply keeps.otherPcbs
        rw [holds.getPcbPtr_eq positive kernelMode]
        exact fun same => different (pcbAddress_injective idLt (by omega) same)
      refine ⟨?_, ?_, fun _ id idLt different => ?_⟩
      · intro id idLt isFree
        have flags : kernel.procIdFlags id = 0 := keeps.procIdFlags ▸ isFree
        have notRunning : id ≠ k - 1 := by
          intro same
          rw [holds.flags id idLt, if_pos (by omega)] at flags
          omega
        exact others idLt notRunning ▸ dormant id idLt flags
      · rintro entryPoint rfl
        exact pauses.elim
      · rw [touchedSlot_of_pauses pauses, holds.active positive] at different
        exact congrArg Pcb.fDescs (others idLt different)
  | keeps after paused keeps pauses =>
      refine ⟨dormant.congr keeps.procIdFlags keeps.pcbAt, ?_, fun _ id _ _ => ?_⟩
      · rintro entryPoint rfl
        exact pauses.elim
      · rw [keeps.pcbAt]
  | execute start middle devices left starts slot keeps alike =>
      have before := dormant.congr keeps.procIdFlags keeps.pcbAt
      have lifetime := (before.execute layout fs start.stale
        start.command).lifetimeStep.alike alike
      exact lifetime.between devices keeps
  | halt stale status middle devices left halts restarts keeps alike =>
      have before := dormant.congr keeps.procIdFlags keeps.pcbAt
      have kernelMode : middle.userMode = false :=
        keeps.userMode.trans (Kernel.kernelMode_of_admits admits (by simp [halts]))
      have lifetime := (before.halt (holds.keeps keeps.toKeepsProcesses) kernelMode fs
        stale status).alike alike
      exact lifetime.between devices keeps

end Steps

section Runs

variable {layout : KernelLayout} {fs : FileSystem} {boot kernel : Kernel} {k : Nat}

/-- With `n` live processes, the descriptors below slot `k` are those of an earlier
state. -/
structure KeepsBelow (layout : KernelLayout) (earlier : Kernel) (k : Nat)
    (kernel : Kernel) (n : Nat) : Prop where
  holds : ProcessInvariant layout kernel n
  dormant : Dormant kernel
  below : ∀ id < k,
    (kernel.pcbAt (pcbAddress id)).fDescs = (earlier.pcbAt (pcbAddress id)).fDescs

/-- A step that touches no slot below `k` keeps their descriptors. -/
theorem KeepsBelow.step {earlier next : Kernel} {n nextN : Nat}
    {event : Event} {outcome : Outcome} (keeps : KeepsBelow layout earlier k kernel n)
    (above : k < n) (step : kernel.MappedStep layout fs (event, outcome) next)
    (nextHolds : ProcessInvariant layout next nextN)
    (untouched : ∀ id < k, id ≠ touchedSlot kernel outcome next) :
    KeepsBelow layout earlier k next nextN := by
  have lifetime := keeps.dormant.step keeps.holds step.1
  have bounded := keeps.holds.bounded
  have live : ∃ id < 6, kernel.procIdFlags id ≠ 0 := by
    refine ⟨k, by omega, ?_⟩
    rw [keeps.holds.flags k (by omega), if_pos above]
    decide
  refine ⟨nextHolds, lifetime.dormant, fun id idLt => ?_⟩
  rw [lifetime.others live id (by omega) (untouched id idLt)]
  exact keeps.below id idLt

/-- Well-nested activity above slot `k` keeps the descriptors below. -/
theorem KeepsBelow.wellNested {earlier last : Kernel} {n : Nat}
    {labels : List (Event × Outcome)} (nested : WellNested Starts Resumes labels)
    (positive : 0 < k) (above : k < n)
    (run : Run (Kernel.MappedStep layout fs) kernel labels last)
    (start : KeepsBelow layout earlier k kernel n) :
    KeepsBelow layout earlier k last n := by
  refine nested.depth (KeepsBelow layout earlier k) (k + 1)
    ?_ ?_ ?_ above run start
  · rintro state ⟨event, outcome⟩ next depth above notOpen notClose keeps step
    obtain ⟨nextK, nextHolds, effect⟩ := keeps.holds.step step
    have active := keeps.holds.active (by omega)
    have pauses : outcome.Pauses ∧ nextK = depth := by
      cases outcome with
      | returned value =>
          exact ⟨True.intro, by rcases effect with same | ⟨-, small, -⟩ <;> omega⟩
      | running entryPoint => exact (notOpen ⟨entryPoint, rfl⟩).elim
      | resumed value => exact (notClose ⟨value, rfl⟩).elim
      | pageFault =>
          exact ⟨True.intro, by rcases effect with same | ⟨-, small, -⟩ <;> omega⟩
    obtain ⟨pauses, rfl⟩ := pauses
    apply keeps.step (by omega) step nextHolds
    intro id idLt
    rw [touchedSlot_of_pauses pauses]
    omega
  · rintro state ⟨event, outcome⟩ next depth above ⟨entryPoint, rfl⟩ keeps step
    obtain ⟨nextK, nextHolds, effect⟩ := keeps.holds.step step
    have grows : nextK = depth + 1 := by
      rcases effect with grows | ⟨small, -⟩ <;> omega
    subst grows
    have active := nextHolds.active (by omega)
    apply keeps.step (by omega) step nextHolds
    intro id idLt
    show id ≠ next.activeProcNum
    omega
  · rintro state ⟨event, outcome⟩ next depth above ⟨value, rfl⟩ keeps step
    obtain ⟨nextK, nextHolds, effect⟩ := keeps.holds.step step
    have shrinks : nextK = depth := by
      rcases effect with ⟨one, -⟩ | ⟨none, -⟩ <;> omega
    subst shrinks
    have active := keeps.holds.active (by omega)
    apply keeps.step (by omega) step nextHolds
    intro id idLt
    show id ≠ state.activeProcNum
    omega

/-- At boot no descriptor in the memory of the PCBs reads as active. -/
def NoneActive (kernel : Kernel) : Prop :=
  ∀ id < 6, ∀ fd < 8,
    ((kernel.pcbAt (pcbAddress id)).fDescs fd).flags ≠ flagActive

theorem dormant_of_run (closed : NoneActive boot) (booted : boot.Boots layout)
    {labels : List (Event × Outcome)}
    (run : Run (Kernel.MappedStep layout fs) boot labels kernel) :
    (∃ k, ProcessInvariant layout kernel k) ∧ Dormant kernel := by
  refine run.invariant
    (fun state => (∃ k, ProcessInvariant layout state k) ∧ Dormant state)
    ?_ ⟨⟨0, .boots booted⟩, fun id idLt _ fd _ high => closed id idLt fd high⟩
  rintro state ⟨event, outcome⟩ next ⟨⟨k, holds⟩, dormant⟩ step
  obtain ⟨nextK, nextHolds, -⟩ := holds.step step
  exact ⟨⟨nextK, nextHolds⟩, (dormant.step holds step.1).dormant⟩

/-- Where every load is mapped, each process starts with the terminal as its only
open file, a step changes the descriptors of one process only, and a child that is
executed and halted leaves the descriptors of all other processes as they were. -/
theorem descriptors_do_not_leak (booted : boot.Boots layout) (closed : NoneActive boot)
    {labels : List (Event × Outcome)} {event : Event} {outcome : Outcome}
    {next : Kernel} (run : Run (Kernel.MappedStep layout fs) boot labels kernel)
    (step : kernel.MappedStep layout fs (event, outcome) next) :
    (∀ entryPoint, outcome = .running entryPoint →
      (next.pcbAt (pcbAddress next.activeProcNum)).FreshTable) ∧
    ((∃ id < 6, kernel.procIdFlags id ≠ 0) →
      ∀ id < 6, id ≠ touchedSlot kernel outcome next →
        (next.pcbAt (pcbAddress id)).fDescs =
          (kernel.pcbAt (pcbAddress id)).fDescs) ∧
    ((∃ entryPoint, outcome = .running entryPoint) →
      next.activeProcNum ≠ kernel.activeProcNum →
      ∀ (left resumed : Kernel) (halts : Event) (value : Nat)
        (inner : List (Event × Outcome)),
        Run (Kernel.MappedStep layout fs) next inner left →
        WellNested Starts Resumes inner →
        Kernel.MappedStep layout fs left (halts, .resumed value) resumed →
        ∀ id < 6, kernel.procIdFlags id ≠ 0 →
          (resumed.pcbAt (pcbAddress id)).fDescs =
            (kernel.pcbAt (pcbAddress id)).fDescs) := by
  obtain ⟨⟨k, holds⟩, dormant⟩ := dormant_of_run closed booted run
  have lifetime := dormant.step holds step.1
  refine ⟨lifetime.fresh, lifetime.others, ?_⟩
  rintro ⟨entryPoint, rfl⟩ isChild left resumed halts value inner innerRun nested ends
    id idLt isLive
  have positive := holds.positive_of_live ⟨id, idLt, isLive⟩
  have active := holds.active positive
  have belowK : id < k := by
    rw [holds.flags id idLt] at isLive
    split at isLive
    · assumption
    · exact absurd rfl isLive
  obtain ⟨childK, childHolds, effect⟩ := holds.step step
  have isNext : childK = k + 1 := by
    have childActive := childHolds.active
    rcases effect with grows | ⟨atMostOne, one⟩
    · exact grows
    · omega
  subst isNext
  have childActive := childHolds.active (by omega)
  have started : KeepsBelow layout kernel k next (k + 1) := by
    refine ⟨childHolds, lifetime.dormant, fun other otherLt => ?_⟩
    have bounded := holds.bounded
    apply lifetime.others ⟨id, idLt, isLive⟩ other (by omega)
    show other ≠ next.activeProcNum
    omega
  have leftKeeps := KeepsBelow.wellNested nested positive (by omega) innerRun started
  obtain ⟨endK, endHolds, -⟩ := leftKeeps.holds.step ends
  have leftActive := leftKeeps.holds.active (by omega)
  have ended := leftKeeps.step (by omega) ends endHolds fun other otherLt => by
    show other ≠ left.activeProcNum
    omega
  exact ended.below id belowK

/-- The shell that the first one executes starts with the terminal as its only open
file, and leaves the descriptors of the first one alone. -/
theorem descriptors_do_not_leak_first_shell :
    ∃ waiting child left resumed,
      NestedRun lowLayout oversizedImage 3 startedKernel waiting child left resumed ∧
      (child.pcbAt (pcbAddress child.activeProcNum)).FreshTable ∧
      (resumed.pcbAt (pcbAddress 0)).fDescs = (waiting.pcbAt (pcbAddress 0)).fDescs := by
  obtain ⟨waiting, child, left, resumed, nested⟩ :=
    startedKernel_boots.nestedRun oversizedImage_hasShell 3
  obtain ⟨firstEntry, start⟩ := nested.start
  obtain ⟨secondEntry, executes⟩ := nested.executes
  have closed : NoneActive startedKernel := fun _ _ _ _ => Nat.zero_ne_one
  have isChild : child.activeProcNum ≠ waiting.activeProcNum := by
    rw [nested.inChild, nested.parent]
    exact Nat.one_ne_zero
  have inner : WellNested Starts Resumes [(Event.trap, Outcome.returned 0)] :=
    .plain nofun nofun .nil
  obtain ⟨fresh, -, returns⟩ :=
    descriptors_do_not_leak startedKernel_boots closed start executes
  exact ⟨waiting, child, left, resumed, nested, fresh secondEntry rfl,
    returns ⟨secondEntry, rfl⟩ isChild left resumed _ _ _
      (Run.cons nested.traps (Run.nil left)) inner nested.halts 0 (by decide) nested.live⟩

/-- The shell opens the clock and executes a second shell, which executes a program
that does not fit; after its page fault the slots are out of order, and in the end
the halt of process 0 closes the files of another slot. -/
def leakingMoves : List Move :=
  [.trap, .openClock, .iret, .trap, .shell, .trap, .big, .exception, .iret, .trap,
    .shell, .trap, .shell, .trap, .halt, .pressCtrl]

/-- Where a load faults, a process can start with a file of the process before. -/
theorem load_fault_leaks_descriptor :
    startedKernel.Boots lowLayout ∧ NoneActive startedKernel ∧ stockedImage.HasShell ∧
      ∃ labels kernel entryPoint next,
        labels.map Prod.fst =
          .initTerminals .zero :: leakingMoves.map Move.event ∧
        Run (Kernel.Step lowLayout stockedImage) startedKernel labels kernel ∧
        kernel.Step lowLayout stockedImage
          (.keyboard 0x2E .zero, .running entryPoint) next ∧
        ¬(next.pcbAt (pcbAddress next.activeProcNum)).FreshTable := by
  refine ⟨startedKernel_boots, fun _ _ _ _ => Nat.zero_ne_one, stockedImage_hasShell, ?_⟩
  have computed : ((KernelView.firstShell 0 0x2F).run leakingMoves).bind (fun view =>
      view.halt.map fun after =>
        (view.mode, view.ctrl, after.mode, (after.slots after.active).file)) =
      some (.kernel, true, .program, some .rtcOpsTbl) := by decide +kernel
  obtain ⟨view, moved, halts⟩ := Option.bind_eq_some_iff.mp computed
  obtain ⟨after, halted, facts⟩ := Option.map_eq_some_iff.mp halts
  obtain ⟨isKernel, ctrl, isProgram, isOpen⟩ :
      view.mode = .kernel ∧ view.ctrl = true ∧ after.mode = .program ∧
        (after.slots after.active).file = some .rtcOpsTbl := by
    simpa using facts
  obtain ⟨firstEntry, first, firstStep, shown⟩ := firstShell_shows stockedImage_hasShell
  obtain ⟨labels, kernel, events, run, kernelShown⟩ :=
    shown.run stockedImage_stocked moved
  obtain ⟨outcome, next, step, entered, nextShown⟩ :=
    kernelShown.pressC isKernel stockedImage_stocked ctrl halted
  obtain ⟨entryPoint, rfl⟩ := entered isProgram
  refine ⟨(.initTerminals .zero, .running firstEntry) :: labels, kernel, entryPoint,
    next, congrArg (Event.initTerminals .zero :: ·) events, Run.cons firstStep.1 run, step,
    fun fresh => ?_⟩
  rw [nextShown.activeProcNum] at fresh
  exact fresh.others 2 (by omega) (by omega)
    ((nextShown.slots after.active nextShown.activeLt).opened _ isOpen).1

end Runs

end ChapOS
