import ChapOS.ProcessInvariant
import ChapOS.TerminalCopies

/-!
# The process stack over whole runs

The invariant is carried through every event, and from there through every run
in which each program that `execute` loads is mapped.  An oversized program is
where the code leaves the invariant: its page fault finds the process id taken
and `active_proc_num` still at the parent.
-/

namespace ChapOS

namespace Kernel

/-- Every file that the event's call of `execute` can load for a free process id
is mapped, and so is the part of the image page it goes to. -/
def LoadsMapped (layout : KernelLayout) (fs : FileSystem) (kernel : Kernel)
    (event : Event) : Prop :=
  ∀ start, kernel.starting event = some start → start.slot.isSome = true →
    LoadsCommand layout fs start.stale start.command kernel

/-- A step whose loads are mapped. -/
def MappedStep (layout : KernelLayout) (fs : FileSystem) (kernel : Kernel)
    (label : Event × Outcome) (next : Kernel) : Prop :=
  kernel.Step layout fs label next ∧ kernel.LoadsMapped layout fs label.1

/-- The statics as they are loaded; the memory of the PCBs can hold anything. -/
structure AtEntry (kernel : Kernel) : Prop where
  procIdFlags : kernel.procIdFlags = fun _ => 0
  activeProcNum : kernel.activeProcNum = 0
  userMode : kernel.userMode = false
  faulting : kernel.faulting = false

/-- The kernel where `entry` calls `init_terminals`. -/
def Boots (layout : KernelLayout) (kernel : Kernel) : Prop :=
  ∃ start report, AtEntry start ∧ kernel = start.entry layout report

end Kernel

section Step

variable {layout : KernelLayout} {fs : FileSystem} {kernel next : Kernel} {k : Nat}
  {event : Event} {outcome : Outcome}

theorem ProcessInvariant.boots (booted : kernel.Boots layout) :
    ProcessInvariant layout kernel 0 := by
  obtain ⟨start, report, atEntry, rfl⟩ := booted
  have represents : (start.entry layout report).paging.Represents layout .initial :=
    Paging.represents_initializePaging layout _
  exact
    { bounded := by omega
      flags := fun id _ => congrFun atEntry.procIdFlags id
      procNum := fun _ below => absurd below (Nat.not_lt_zero _)
      parent := fun _ below => absurd below (Nat.not_lt_zero _)
      saved := fun _ below => absurd below (Nat.not_lt_zero _)
      onStack := fun live => absurd live (Nat.lt_irrefl 0)
      represents := ⟨_, represents⟩
      active := fun live => absurd live (Nat.lt_irrefl 0)
      image := ⟨_, represents, fun below => absurd below (Nat.lt_irrefl 0)⟩
      tss := fun below => absurd below (Nat.lt_irrefl 0)
      trapStack := fun live => absurd live (Nat.lt_irrefl 0) }

/-- Going on in user mode or elsewhere on the kernel stack keeps the
invariant. -/
theorem ProcessInvariant.moves (holds : ProcessInvariant layout kernel k)
    {esp ebp : Nat} {userMode : Bool}
    (onStack : 0 < k → userMode = false → esp / stack8KB = stackBlock (k - 1)) :
    ProcessInvariant layout
      { kernel with esp := esp, ebp := ebp, userMode := userMode } k where
  bounded := holds.bounded
  flags := holds.flags
  procNum := holds.procNum
  parent := holds.parent
  saved := holds.saved
  onStack := onStack
  represents := holds.represents
  active := holds.active
  image := holds.image
  tss := holds.tss
  trapStack := holds.trapStack

theorem Outcome.Pauses.stackEffect (pauses : outcome.Pauses) :
    StackEffect fs k outcome k := by
  cases outcome with
  | returned value => exact Or.inl rfl
  | running entryPoint => exact pauses.elim
  | resumed value => exact pauses.elim
  | pageFault => exact Or.inl rfl

/-- A step keeps the invariant, and changes the number of live processes as its
outcome says. -/
theorem ProcessInvariant.step (holds : ProcessInvariant layout kernel k)
    (step : kernel.MappedStep layout fs (event, outcome) next) :
    ∃ nextK, ProcessInvariant layout next nextK ∧ StackEffect fs k outcome nextK := by
  obtain ⟨⟨admits, handled⟩, loads⟩ := step
  have bounded := holds.bounded
  have represented := holds.represents
  have cases := Kernel.handle_cases layout fs kernel event
  rw [handled] at cases
  cases cases with
  | trap isTrap =>
      exact ⟨k, holds.moves fun live _ => holds.trapStack live, Or.inl rfl⟩
  | iret isIret =>
      exact ⟨k, holds.moves fun _ kernelMode => Bool.noConfusion kernelMode, Or.inl rfl⟩
  | moveStack esp ebp isMove =>
      subst isMove
      obtain ⟨-, kernelMode, sameBlock, -⟩ := admits
      exact ⟨k, holds.moves fun live _ => sameBlock.trans (holds.onStack live kernelMode),
        Or.inl rfl⟩
  | fileCall request stale left isCall pauses =>
      exact ⟨k, holds.keeps (kernel.keeps_fileCall layout fs _), pauses.stackEffect⟩
  | keeps after paused keeps pauses =>
      exact ⟨k, holds.keeps keeps.toKeepsProcesses, pauses.stackEffect⟩
  | execute start middle devices left starts slot keeps alike =>
      have middleHolds := holds.keeps keeps.toKeepsProcesses
      have kernelMode : middle.userMode = false :=
        keeps.userMode.trans (Kernel.kernelMode_of_admits admits (by simp [starts]))
      have mapped : k < 6 →
          LoadsCommand layout fs start.stale start.command kernel := by
        intro below
        apply loads start starts
        rw [slot, holds.freeProcId_eq, if_pos below]
        rfl
      obtain ⟨nextK, nextHolds, effect⟩ := ProcessInvariant.execute mapped represented
        keeps.keepsMapped middleHolds kernelMode
      exact ⟨nextK, nextHolds.keeps (Kernel.keeps_setDevices layout _ _).toKeepsProcesses,
        effect.stackEffect.alike alike⟩
  | halt stale status middle devices left halts restarts keeps alike =>
      have middleHolds := holds.keeps keeps.toKeepsProcesses
      have kernelMode : middle.userMode = false :=
        keeps.userMode.trans (Kernel.kernelMode_of_admits admits (by simp [halts]))
      have mapped : middle.activeProcNum = 0 →
          LoadsCommand layout fs stale Kernel.shellCommand kernel := by
        intro isRoot
        rw [keeps.activeProcNum] at isRoot
        exact loads ⟨Kernel.shellCommand, stale, some 0⟩
          (restarts.trans (if_pos isRoot)) rfl
      obtain ⟨nextK, nextHolds, effect⟩ := ProcessInvariant.halt mapped represented
        keeps.keepsMapped middleHolds kernelMode status
      exact ⟨nextK, nextHolds.keeps (Kernel.keeps_setDevices layout _ _).toKeepsProcesses,
        effect.alike alike⟩

end Step

/-- The stack of processes `0, …, k - 1` with the last one running. -/
structure ProcessStack (kernel : Kernel) (k : Nat) : Prop where
  positive : 1 ≤ k
  bounded : k ≤ 6
  flags : ∀ id < 6, kernel.procIdFlags id = if id < k then 1 else 0
  active : kernel.activeProcNum = k - 1
  procNum : ∀ id < k, (kernel.pcbAt (pcbAddress id)).procNum = id
  parentProcNum : ∀ id < k, (kernel.pcbAt (pcbAddress id)).parentProcNum = id - 1
  image : kernel.paging.pageDir 0x20 = (k - 1 + 2) * 0x400000 ||| 0x87
  tssEsp0 : kernel.tssEsp0 = 0x800000 - 0x2000 * (k - 1) - 4
  /-- `get_pcb_ptr` agrees with `active_proc_num` on the whole kernel stack. -/
  pcbPtr : ∀ esp, pcbAddress (k - 1) ≤ esp → esp < pcbAddress (k - 1) + 0x2000 →
    Kernel.getPcbPtr { kernel with esp := esp } = pcbAddress kernel.activeProcNum
  onStack : kernel.userMode = false →
    pcbAddress (k - 1) ≤ kernel.esp ∧ kernel.esp < pcbAddress (k - 1) + 0x2000

section Runs

variable {layout : KernelLayout} {fs : FileSystem} {boot kernel : Kernel} {k : Nat}

theorem stackBlock_bounds {esp id : Nat} (idLt : id < 0x3FF) :
    esp / stack8KB = stackBlock id ↔
      pcbAddress id ≤ esp ∧ esp < pcbAddress id + 0x2000 := by
  rw [pcbAddress_eq idLt, stackBlock, show stack8KB = 0x2000 from rfl]
  omega

theorem ProcessInvariant.processStack (holds : ProcessInvariant layout kernel k)
    (positive : 1 ≤ k) : ProcessStack kernel k := by
  have bounded := holds.bounded
  obtain ⟨mappings, represents, image⟩ := holds.image
  refine
    { positive := positive
      bounded := bounded
      flags := holds.flags
      active := holds.active positive
      procNum := holds.procNum
      parentProcNum := holds.parent
      image := ?_
      tssEsp0 := (holds.tss positive).trans (kernelStackTop_eq (by omega))
      pcbPtr := ?_
      onStack := ?_ }
  · rw [represents.image, image positive]
    exact Paging.userImgEntry_eq (k - 1)
  · intro esp low high
    rw [holds.active positive]
    exact pcbPtr_of_block (by omega) ((stackBlock_bounds (by omega)).mpr ⟨low, high⟩)
  · intro kernelMode
    exact (stackBlock_bounds (by omega)).mp (holds.onStack positive kernelMode)

theorem ProcessInvariant.run {labels : List (Event × Outcome)}
    (run : Run (Kernel.MappedStep layout fs) boot labels kernel)
    (start : ∃ k, ProcessInvariant layout boot k) :
    ∃ k, ProcessInvariant layout kernel k := by
  refine run.invariant (fun state => ∃ k, ProcessInvariant layout state k)
    ?_ start
  intro state label next holds step
  obtain ⟨k, holds⟩ := holds
  obtain ⟨nextK, nextHolds, -⟩ := holds.step step
  exact ⟨nextK, nextHolds⟩

/-- Once a process lives, some process always lives. -/
theorem ProcessInvariant.run_positive {labels : List (Event × Outcome)}
    (shell : fs.HasShell) (run : Run (Kernel.MappedStep layout fs) boot labels kernel)
    (start : ∃ k, 1 ≤ k ∧ ProcessInvariant layout boot k) :
    ∃ k, 1 ≤ k ∧ ProcessInvariant layout kernel k := by
  refine run.invariant
    (fun state => ∃ k, 1 ≤ k ∧ ProcessInvariant layout state k) ?_ start
  rintro state ⟨event, outcome⟩ next ⟨k, positive, holds⟩ step
  obtain ⟨nextK, nextHolds, effect⟩ := holds.step step
  refine ⟨nextK, ?_, nextHolds⟩
  cases outcome with
  | returned value =>
      rcases effect with same | ⟨noShell, -⟩
      · omega
      · exact (noShell shell).elim
  | running entryPoint => rcases effect with grows | ⟨-, one⟩ <;> omega
  | resumed value => rcases effect with ⟨-, live⟩ | ⟨none, -⟩ <;> omega
  | pageFault =>
      rcases effect with same | ⟨noShell, -⟩
      · omega
      · exact (noShell shell).elim

/-- A program is started. -/
def Starts (label : Event × Outcome) : Prop :=
  ∃ entryPoint, label.2 = .running entryPoint

/-- A program is halted and its parent goes on. -/
def Resumes (label : Event × Outcome) : Prop :=
  ∃ value, label.2 = .resumed value

/-- Well-nested activity above the first process ends where it started. -/
theorem ProcessInvariant.wellNested {labels : List (Event × Outcome)}
    (nested : WellNested Starts Resumes labels) (above : 2 ≤ k)
    (run : Run (Kernel.MappedStep layout fs) boot labels kernel)
    (start : ProcessInvariant layout boot k) : ProcessInvariant layout kernel k := by
  refine nested.depth (ProcessInvariant layout) 2 ?_ ?_ ?_ above run start
  · rintro state ⟨event, outcome⟩ next depth twoLe notOpen notClose holds step
    obtain ⟨nextK, nextHolds, effect⟩ := holds.step step
    have same : nextK = depth := by
      cases outcome with
      | returned value => rcases effect with same | ⟨-, small, -⟩ <;> omega
      | running entryPoint => exact (notOpen ⟨entryPoint, rfl⟩).elim
      | resumed value => exact (notClose ⟨value, rfl⟩).elim
      | pageFault => rcases effect with same | ⟨-, small, -⟩ <;> omega
    exact same ▸ nextHolds
  · rintro state ⟨event, outcome⟩ next depth twoLe ⟨entryPoint, rfl⟩ holds step
    obtain ⟨nextK, nextHolds, effect⟩ := holds.step step
    have grows : nextK = depth + 1 := by
      rcases effect with grows | ⟨small, -⟩ <;> omega
    exact grows ▸ nextHolds
  · rintro state ⟨event, outcome⟩ next depth twoLe ⟨value, rfl⟩ holds step
    obtain ⟨nextK, nextHolds, effect⟩ := holds.step step
    have shrinks : nextK = depth := by
      rcases effect with ⟨one, -⟩ | ⟨none, -⟩ <;> omega
    exact shrinks ▸ nextHolds

end Runs

section Traces

variable {layout : KernelLayout} {fs : FileSystem} {kernel : Kernel} {k : Nat}

namespace Kernel

@[simp]
theorem enterProgram_userMode (kernel : Kernel) (id : Nat) (arg : CString) :
    (kernel.enterProgram id arg).userMode = true :=
  rfl

@[simp]
theorem enterProgram_faulting (kernel : Kernel) (id : Nat) (arg : CString) :
    (kernel.enterProgram id arg).faulting = kernel.faulting :=
  rfl

@[simp]
theorem claimProcess_faulting (kernel : Kernel) (id : Nat) :
    (kernel.claimProcess id).faulting = kernel.faulting :=
  rfl

end Kernel

/-- The machine runs a program with `k` processes alive. -/
structure RunsProgram (layout : KernelLayout) (kernel : Kernel) (k : Nat) : Prop where
  holds : ProcessInvariant layout kernel k
  userMode : kernel.userMode = true
  running : kernel.faulting = false

/-- The kernel works for a program, with `k` processes alive. -/
structure Serves (layout : KernelLayout) (kernel : Kernel) (k : Nat) : Prop where
  holds : ProcessInvariant layout kernel k
  kernelMode : kernel.userMode = false
  running : kernel.faulting = false

theorem Serves.execute_shell (serves : Serves layout kernel k) (below : k < 6)
    (shell : fs.HasShell) (stale : StaleLocals) :
    ∃ entryPoint next,
      kernel.execute layout fs stale Kernel.shellCommand = (next, .running entryPoint) ∧
        RunsProgram layout next (k + 1) := by
  obtain ⟨mappings, represents⟩ := serves.holds.represents
  have free : Kernel.freeProcIdFrom kernel.procIdFlags maxProcesses 0 =
      if k < 6 then some k else none := serves.holds.freeProcId_eq
  rw [if_pos below] at free
  obtain ⟨inode, entryPoint, arg, -, started⟩ :=
    Kernel.execute_shell stale represents shell (by omega) free
  refine ⟨entryPoint, _, started, ?_, ?_, ?_⟩
  · exact serves.holds.enterProgram serves.kernelMode below [] _ arg
  · exact Kernel.enterProgram_userMode _ _ _
  · rw [Kernel.enterProgram_faulting, Kernel.setMem_faulting,
      Kernel.claimProcess_faulting]
    exact serves.running

/-- `init_terminals` starts the first shell. -/
theorem Serves.initTerminals (serves : Serves layout kernel 0) (shell : fs.HasShell)
    (stale : StaleLocals) :
    ∃ entryPoint next,
      kernel.Step layout fs (.initTerminals stale, .running entryPoint) next ∧
        RunsProgram layout next 1 := by
  obtain ⟨mappings, represents⟩ := serves.holds.represents
  have prepared := Kernel.prepareTerminals_prepared represents serves.running
  have keeps := kernel.keeps_prepareTerminals layout
  have ready : Serves layout (kernel.prepareTerminals layout).1 0 :=
    ⟨serves.holds.keeps keeps.toKeepsProcesses,
      keeps.userMode.trans serves.kernelMode, prepared.running⟩
  obtain ⟨entryPoint, next, started, runs⟩ :=
    ready.execute_shell (by omega) shell stale
  refine ⟨entryPoint, next, ⟨⟨serves.running, serves.kernelMode⟩, ?_⟩, runs⟩
  show kernel.initTerminals layout fs stale = _
  rw [Kernel.initTerminals_eq fs stale prepared, started]
  rfl

theorem RunsProgram.trap (runs : RunsProgram layout kernel k) :
    ∃ next, kernel.Step layout fs (.trap, .returned 0) next ∧ Serves layout next k ∧
      next.procIdFlags = kernel.procIdFlags :=
  ⟨_, ⟨⟨runs.running, runs.userMode⟩, rfl⟩,
    ⟨runs.holds.moves fun live _ => runs.holds.trapStack live, rfl, runs.running⟩, rfl⟩

/-- A halt with `active_proc_num` at 0 restarts the shell as process 0, whatever
other process ids are taken. -/
theorem halt_restarts_shell {mappings : Mappings}
    (represents : kernel.paging.Represents layout mappings) (shell : fs.HasShell)
    (isRoot : kernel.activeProcNum = 0) (status : Nat) (stale : StaleLocals) :
    ∃ entryPoint next,
      kernel.halt layout fs stale status = (next, .running entryPoint) ∧
        next.activeProcNum = 0 ∧
        ∀ id, next.procIdFlags id = if id = 0 then 1 else kernel.procIdFlags id := by
  have leaves := kernel.leaves layout
  obtain ⟨left, leftRepresents, -⟩ := leaves.mappings mappings represents
  have leftFlags (id : Nat) : kernel.leaveProcess.procIdFlags id =
      if id = 0 then 0 else kernel.procIdFlags id := by
    rw [leaves.procIdFlags, isRoot]
    exact Function.update_apply _ _ _ _
  have free : Kernel.freeProcIdFrom kernel.leaveProcess.procIdFlags maxProcesses 0 =
      some 0 := by
    rw [Kernel.freeProcIdFrom, leftFlags 0, if_pos rfl, if_pos rfl]
  obtain ⟨inode, entryPoint, arg, -, started⟩ :=
    Kernel.execute_shell stale leftRepresents shell (show 0 ≤ 6 by omega) free
  refine ⟨entryPoint, ((kernel.leaveProcess.claimProcess 0).setMem
    (kernel.leaveProcess.loadFor layout fs 0 inode).memory).enterProgram 0 arg, ?_, rfl,
    ?_⟩
  · rw [Kernel.halt_of_root layout fs stale status isRoot, started]
    rfl
  · intro id
    have updated : (((kernel.leaveProcess.claimProcess 0).setMem
        (kernel.leaveProcess.loadFor layout fs 0 inode).memory).enterProgram 0
          arg).procIdFlags id =
        if id = 0 then 1 else kernel.leaveProcess.procIdFlags id :=
      Function.update_apply _ _ _ _
    rw [updated, leftFlags id]
    split_ifs <;> rfl

theorem exception_restarts_shell {mappings : Mappings}
    (represents : kernel.paging.Represents layout mappings) (shell : fs.HasShell)
    (isRoot : kernel.activeProcNum = 0) (message : List UInt8) (stale : StaleLocals) :
    ∃ entryPoint next,
      kernel.exceptionHandler layout fs stale message = (next, .running entryPoint) ∧
        next.activeProcNum = 0 ∧
        ∀ id, next.procIdFlags id = if id = 0 then 1 else kernel.procIdFlags id :=
  @halt_restarts_shell layout fs
    (Kernel.print { kernel with faulting := false } message) mappings represents shell
    isRoot exceptRetval stale

/-- A loadable shell meets the condition on loads. -/
theorem loadsCommand_shell {mappings : Mappings}
    (represents : kernel.paging.Represents layout mappings) (shell : fs.HasShell)
    (stale : StaleLocals) :
    LoadsCommand layout fs stale Kernel.shellCommand kernel := by
  obtain ⟨index, found, loadable⟩ := shell
  intro inode program
  obtain ⟨bytes, entry, isShell, read, isInode⟩ := program.named
  obtain rfl := Option.some.inj isShell
  rw [Kernel.shellCommand_name, fs.readDentryByName_of_found _ found] at read
  obtain rfl := (Prod.mk.inj read).2
  subst isInode
  exact Kernel.loads_of_loadable represents loadable

/-- Every event but a call of `execute` loads the shell, if anything. -/
theorem Kernel.loadsMapped_of_shell {mappings : Mappings}
    (represents : kernel.paging.Represents layout mappings) (shell : fs.HasShell)
    {event : Event} (executesShell : ∀ command stale, event = .execute command stale →
      command = Kernel.shellCommand) :
    kernel.LoadsMapped layout fs event := by
  have restarts {other : Kernel} {stale : StaleLocals} {start : Start}
      (starts : other.restart stale = some start) :
      start.command = Kernel.shellCommand := by
    rw [Kernel.restart] at starts
    split at starts
    · exact (congrArg Start.command (Option.some.inj starts)).symm
    · cases starts
  intro start starts _
  have isShell : start.command = Kernel.shellCommand := by
    cases event with
    | execute command stale =>
        rw [← Option.some.inj starts]
        exact executesShell command stale rfl
    | initTerminals stale => exact (congrArg Start.command (Option.some.inj starts)).symm
    | halt status stale => exact restarts starts
    | exception message stale => exact restarts starts
    | keyboard key stale =>
        rw [Kernel.starting] at starts
        cases action : (kernel.tty.handleKey key).2 with
        | done => rw [action] at starts; cases starts
        | halt => rw [action] at starts; exact restarts starts
        | terminalLoS id =>
            rw [action, Kernel.keyStart] at starts
            split at starts
            · exact (congrArg Start.command (Option.some.inj starts)).symm
            · cases starts
    | _ => cases starts
  rw [isShell]
  exact loadsCommand_shell represents shell start.stale

theorem Kernel.Boots.serves (booted : kernel.Boots layout) :
    Serves layout kernel 0 := by
  refine ⟨.boots booted, ?_, ?_⟩
  · obtain ⟨start, report, atEntry, rfl⟩ := booted
    exact atEntry.userMode
  · obtain ⟨start, report, atEntry, rfl⟩ := booted
    exact atEntry.faulting

/-- `init_terminals` ends as its call of `execute` on the prepared terminals does. -/
theorem initTerminals_reaches {boot next : Kernel} {stale : StaleLocals}
    {outcome : Outcome} (booted : boot.Boots layout)
    (step : boot.Step layout fs (.initTerminals stale, outcome) next) :
    ∃ mappings ready, Kernel.Prepared layout mappings ready ∧
      KeepsPcbs layout boot ready ∧
      (ready.execute layout fs stale Kernel.shellCommand).1 = next := by
  have serves := booted.serves
  obtain ⟨mappings, represents⟩ := serves.holds.represents
  have prepared := Kernel.prepareTerminals_prepared represents serves.running
  have unfolded : boot.handle layout fs (.initTerminals stale) =
      boot.initTerminals layout fs stale := rfl
  have handled := step.2
  rw [unfolded, Kernel.initTerminals_eq fs stale prepared] at handled
  have reached := congrArg Prod.fst handled
  rw [Kernel.returnZero_kernel] at reached
  exact ⟨mappings, _, prepared, boot.keeps_prepareTerminals layout, reached⟩

/-- The first shell executes another one, which halts. -/
structure NestedRun (layout : KernelLayout) (fs : FileSystem) (status : Nat)
    (boot waiting child left resumed : Kernel) : Prop where
  start : ∃ entryPoint, Run (Kernel.MappedStep layout fs) boot
    [(.initTerminals .zero, .running entryPoint), (.trap, .returned 0)] waiting
  executes : ∃ entryPoint, waiting.MappedStep layout fs
    (.execute Kernel.shellCommand .zero, .running entryPoint) child
  parent : waiting.activeProcNum = 0
  live : waiting.procIdFlags 0 ≠ 0
  free : waiting.freeProcId = some 1
  inChild : child.activeProcNum = 1
  traps : child.MappedStep layout fs (.trap, .returned 0) left
  stillInChild : left.activeProcNum = 1
  childOf : left.currentPcb.parentProcNum = 0
  halts : left.MappedStep layout fs
    (.halt status .zero, .resumed (haltValue layout.haltOperands status)) resumed

theorem Kernel.Boots.nestedRun {boot : Kernel} (booted : boot.Boots layout)
    (shell : fs.HasShell) (status : Nat) :
    ∃ waiting child left resumed,
      NestedRun layout fs status boot waiting child left resumed := by
  have loads {state : Kernel} {k : Nat} (holds : ProcessInvariant layout state k)
      {event : Event} (executesShell : ∀ command stale, event = .execute command stale →
        command = Kernel.shellCommand) : state.LoadsMapped layout fs event := by
    obtain ⟨mappings, represents⟩ := holds.represents
    exact Kernel.loadsMapped_of_shell represents shell executesShell
  have bootServes := booted.serves
  obtain ⟨firstEntry, first, firstStep, firstRuns⟩ := bootServes.initTerminals shell .zero
  obtain ⟨waiting, trapStep, serves, -⟩ := firstRuns.trap
  obtain ⟨secondEntry, child, executed, childRuns⟩ :=
    serves.execute_shell (show 1 < 6 by decide) shell .zero
  obtain ⟨left, childTrap, leftServes, -⟩ := childRuns.trap
  have leftActive := leftServes.holds.active (by omega)
  refine ⟨waiting, child, left, _,
    { start := ⟨firstEntry, Run.cons ⟨firstStep, loads bootServes.holds nofun⟩
        (Run.cons ⟨trapStep, loads firstRuns.holds nofun⟩ (Run.nil waiting))⟩
      executes := ⟨secondEntry, ⟨⟨serves.running, serves.kernelMode⟩, executed⟩,
        loads serves.holds ?_⟩
      parent := serves.holds.active (by omega)
      live := by
        rw [serves.holds.flags 0 (by decide)]
        decide
      free := serves.holds.freeProcId_eq
      inChild := childRuns.holds.active (by omega)
      traps := ⟨childTrap, loads childRuns.holds nofun⟩
      stillInChild := leftActive
      childOf := by
        rw [Kernel.currentPcb, leftServes.holds.getPcbPtr_eq (by omega) leftServes.kernelMode]
        exact leftServes.holds.parent 1 (by omega)
      halts := ⟨⟨⟨leftServes.running, leftServes.kernelMode⟩,
        Kernel.halt_of_child layout fs .zero status (by omega)⟩,
        loads leftServes.holds nofun⟩ }⟩
  rintro command stale same
  exact (Event.execute.inj same).1.symm

end Traces

section Claim

variable {layout : KernelLayout} {fs : FileSystem} {boot kernel : Kernel}

/-- Where every load is mapped, the live processes always form a stack once the
first program has been started; and a child that ends after well-nested activity
restores what its parent had. -/
theorem process_stack_invariant (shell : fs.HasShell) (booted : boot.Boots layout)
    {before after : List (Event × Outcome)} {event : Event} {entryPoint : Nat}
    (run : Run (Kernel.MappedStep layout fs) boot
      (before ++ (event, .running entryPoint) :: after) kernel) :
    (∃ k, ProcessStack kernel k) ∧
      ∀ (child left resumed : Kernel) (executes halts : Event) (childEntry value : Nat)
        (inner : List (Event × Outcome)),
        Kernel.MappedStep layout fs kernel (executes, .running childEntry) child →
        child.activeProcNum ≠ kernel.activeProcNum →
        Run (Kernel.MappedStep layout fs) child inner left →
        WellNested Starts Resumes inner →
        Kernel.MappedStep layout fs left (halts, .resumed value) resumed →
        (∀ id < 6, resumed.procIdFlags id = kernel.procIdFlags id) ∧
          resumed.activeProcNum = kernel.activeProcNum ∧
          resumed.paging.pageDir 0x20 = kernel.paging.pageDir 0x20 ∧
          resumed.tssEsp0 = kernel.tssEsp0 := by
  obtain ⟨middle, firstRun, laterRun⟩ := run.split
  cases laterRun with
  | cons edge rest =>
      obtain ⟨k₀, first⟩ := ProcessInvariant.run firstRun ⟨0, .boots booted⟩
      obtain ⟨k₁, second, effect⟩ := first.step edge
      have started : 1 ≤ k₁ := by
        rcases effect with grows | ⟨-, one⟩ <;> omega
      obtain ⟨k, positive, holds⟩ :=
        ProcessInvariant.run_positive shell rest ⟨k₁, started, second⟩
      have stack := holds.processStack positive
      refine ⟨⟨k, stack⟩, ?_⟩
      intro child left resumed executes halts childEntry value inner starts isChild
        innerRun nested ends
      obtain ⟨childK, childHolds, childEffect⟩ :=
        holds.step starts
      have childActive := childHolds.active
      have active := holds.active positive
      have isNext : childK = k + 1 := by
        rcases childEffect with grows | ⟨atMostOne, one⟩
        · exact grows
        · omega
      subst isNext
      have leftHolds := ProcessInvariant.wellNested nested (by omega) innerRun childHolds
      obtain ⟨endK, endHolds, endEffect⟩ := leftHolds.step ends
      have sameK : endK = k := by
        rcases endEffect with ⟨one, -⟩ | ⟨none, -⟩ <;> omega
      subst sameK
      have endStack := endHolds.processStack positive
      refine ⟨fun id idLt => ?_, ?_, ?_, ?_⟩
      · rw [endStack.flags id idLt, stack.flags id idLt]
      · rw [endStack.active, stack.active]
      · rw [endStack.image, stack.image]
      · rw [endStack.tssEsp0, stack.tssEsp0]

/-- An image with a shell and a program that is too large for the image page. -/
def oversizedImage : FileSystem :=
  .ofFiles 0x410000
    [⟨[0x73, 0x68, 0x65, 0x6C, 0x6C], fileTypeFile, 28⟩,
      ⟨[0x62, 0x69, 0x67], fileTypeFile, 0x3BA001⟩]
    [0x7F, 0x45, 0x4C, 0x46]

theorem oversizedImage_loadable : oversizedImage.Loadable 0 where
  inRange := by decide +kernel
  header := by decide +kernel
  long := by decide +kernel
  fits := by decide +kernel
  inodeMapped := by decide +kernel
  bytesMapped := by
    have length : oversizedImage.inodeLength 0 = 28 := by decide +kernel
    rw [length]
    decide +kernel

theorem oversizedImage_hasShell : oversizedImage.HasShell := by
  refine ⟨0, by decide +kernel, ?_⟩
  have inode : oversizedImage.entryInode 0 = 0 := by decide +kernel
  rw [inode]
  exact oversizedImage_loadable

theorem oversizedImage_hasHeader : oversizedImage.HasHeader 1 where
  inRange := by decide +kernel
  header := by decide +kernel
  long := by decide +kernel
  short := by decide +kernel
  inodeMapped := by decide +kernel
  headerMapped := by decide +kernel

/-- The kernel started on a machine whose memory holds zeros. -/
def startedKernel : Kernel :=
  Kernel.loaded.entry lowLayout []

theorem startedKernel_boots : startedKernel.Boots lowLayout :=
  ⟨Kernel.loaded, [], ⟨rfl, rfl, rfl, rfl⟩, rfl⟩

/-- The first shell executes another one, which halts with status 3. -/
theorem process_stack_invariant_first_shell :
    ∃ waiting child left resumed,
      NestedRun lowLayout oversizedImage 3 startedKernel waiting child left resumed ∧
      (∃ k, ProcessStack waiting k) ∧ resumed.activeProcNum = waiting.activeProcNum ∧
      resumed.tssEsp0 = waiting.tssEsp0 := by
  obtain ⟨waiting, child, left, resumed, nested⟩ :=
    startedKernel_boots.nestedRun oversizedImage_hasShell 3
  obtain ⟨firstEntry, start⟩ := nested.start
  obtain ⟨secondEntry, executes⟩ := nested.executes
  have isChild : child.activeProcNum ≠ waiting.activeProcNum := by
    rw [nested.inChild, nested.parent]
    exact Nat.one_ne_zero
  have inner : WellNested Starts Resumes [(Event.trap, Outcome.returned 0)] :=
    .plain nofun nofun .nil
  obtain ⟨stack, restores⟩ := @process_stack_invariant _ _ _ _ oversizedImage_hasShell
    startedKernel_boots [] [(.trap, .returned 0)] _ firstEntry start
  obtain ⟨-, active, -, tssEsp0⟩ := restores child left resumed _ _ secondEntry _ _
    executes isChild (Run.cons nested.traps (Run.nil left)) inner nested.halts
  exact ⟨waiting, child, left, resumed, nested, stack, active, tssEsp0⟩

/-- The name of the oversized program. -/
def bigCommand : Option (List UInt8) :=
  some [0x62, 0x69, 0x67]

/-- What the handler prints for the first address behind the image page. -/
def pageFaultMessage : List UInt8 :=
  "Page Fault at 138412032\n".toList.map fun c => UInt8.ofNat c.toNat

/-- The oversized program takes a process id and faults. -/
theorem execute_big {mappings : Mappings}
    (represents : kernel.paging.Represents lowLayout mappings) {id : Nat} (idLe : id ≤ 6)
    (free : Kernel.freeProcIdFrom kernel.procIdFlags maxProcesses 0 = some id) :
    kernel.execute lowLayout oversizedImage .zero bigCommand =
      ((((kernel.claimProcess id).setMem
        (kernel.loadFor lowLayout oversizedImage id 1).memory).fault), .pageFault) := by
  have inode : oversizedImage.entryInode 1 = 1 := by decide +kernel
  have found : oversizedImage.findEntry
      (parseCommand [0x62, 0x69, 0x67]).1.fileNameCommand.read = some 1 := by
    decide +kernel
  rw [bigCommand, Kernel.execute_of_found lowLayout .zero kernel
    (by decide +kernel) found, inode]
  exact Kernel.executeFile_of_oversized .zero _ represents oversizedImage_hasHeader
    (by decide +kernel) idLe free

/-- The shell executes the oversized program: its page fault halts the shell
while the new process id is taken, and the new shell's id is below a dead one. -/
theorem oversized_program_breaks_process_stack :
    startedKernel.Boots lowLayout ∧ oversizedImage.HasShell ∧
      ∃ firstEntry lastEntry kernel,
        Run (Kernel.Step lowLayout oversizedImage) startedKernel
          [(.initTerminals .zero, .running firstEntry), (.trap, .returned 0),
            (.execute bigCommand .zero, .pageFault),
            (.exception pageFaultMessage .zero, .running lastEntry)] kernel ∧
        ∀ k, ¬ProcessStack kernel k := by
  refine ⟨startedKernel_boots, oversizedImage_hasShell, ?_⟩
  obtain ⟨firstEntry, first, firstStep, runs⟩ :=
    startedKernel_boots.serves.initTerminals oversizedImage_hasShell .zero
  obtain ⟨trapped, trapStep, serves, -⟩ := runs.trap
  obtain ⟨mappings, represents⟩ := serves.holds.represents
  have free : Kernel.freeProcIdFrom trapped.procIdFlags maxProcesses 0 = some 1 :=
    serves.holds.freeProcId_eq
  have faults := execute_big represents (show 1 ≤ 6 by omega) free
  generalize isFaulted : ((trapped.claimProcess 1).setMem
    (trapped.loadFor lowLayout oversizedImage 1 1).memory).fault = faulted at faults
  have claimed := Kernel.claimProcess_represents represents (show 1 ≤ 6 by omega)
  have faultedRepresents : faulted.paging.Represents lowLayout
      { mappings with image := some 1 } := isFaulted ▸ claimed
  have faultedActive : faulted.activeProcNum = 0 := isFaulted ▸ serves.holds.active (by omega)
  have taken : faulted.procIdFlags 1 = 1 := by
    rw [← isFaulted]
    exact Function.update_self 1 1 trapped.procIdFlags
  have kernelMode : faulted.userMode = false := isFaulted ▸ serves.kernelMode
  obtain ⟨lastEntry, last, handled, lastActive, lastFlags⟩ :=
    exception_restarts_shell faultedRepresents oversizedImage_hasShell faultedActive
      pageFaultMessage .zero
  refine ⟨firstEntry, lastEntry, last, ?_, ?_⟩
  · exact Run.cons firstStep (Run.cons trapStep
      (Run.cons ⟨⟨serves.running, serves.kernelMode⟩, faults⟩
        (Run.cons ⟨kernelMode, handled⟩ (Run.nil last))))
  · intro k stack
    have positive := stack.positive
    have active := stack.active
    have flag := stack.flags 1 (by omega)
    rw [lastFlags 1, if_neg (by omega), taken] at flag
    split at flag
    · omega
    · omega

end Claim

end ChapOS
