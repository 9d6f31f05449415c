import ChapOS.ProcessTurnover

/-!
# Images and saved screens in physical memory

The image of process `p` takes the 4MB frame `p + 2`, and the saved screens start
at `TERM_PHY_ADDR`, which is where the image of slot 5 starts.  As long as that
slot is not used, no image meets another or a saved screen.
-/

namespace ChapOS

open CountedLoops

/-- The physical address of the image of a process. -/
def imageFrame (id : Nat) : Nat :=
  (id + 2) * 0x400000

/-- The image page, where it is mapped, is that of the running process. -/
def RunsOwnImage (layout : KernelLayout) (kernel : Kernel) : Prop :=
  ∃ mappings, kernel.paging.Represents layout mappings ∧
    (mappings.image = none ∨ mappings.image = some kernel.activeProcNum)

/-- Slot 5 is free, and the running process is in a slot below. -/
structure SparesLastSlot (layout : KernelLayout) (kernel : Kernel) : Prop where
  represents : ∃ mappings, kernel.paging.Represents layout mappings
  active : kernel.activeProcNum ≤ 4
  lastFree : kernel.procIdFlags 5 = 0

/-- Besides, the image page is that of the running process, unless a page fault of
the kernel is pending. -/
structure KeepsApart (layout : KernelLayout) (kernel : Kernel) : Prop
    extends SparesLastSlot layout kernel where
  image : kernel.faulting = false → RunsOwnImage layout kernel

/-- The event starts no program in slot 5, and ends no process whose PCB names a
parent behind slot 4. -/
structure Kernel.StaysBelow (fs : FileSystem) (kernel : Kernel) (event : Event) : Prop where
  starts : ∀ start, kernel.starting event = some start → start.slot = some 5 →
    ∀ inode, ¬fs.IsProgram start.stale start.command inode
  ends : ∀ stale, kernel.halting event = some stale →
    kernel.currentPcb.parentProcNum ≤ 4

/-- A step that uses the slots 0 to 4 only. -/
def Kernel.LowStep (layout : KernelLayout) (fs : FileSystem) (kernel : Kernel)
    (label : Event × Outcome) (next : Kernel) : Prop :=
  kernel.Step layout fs label next ∧ kernel.StaysBelow fs label.1

section Step

variable {layout : KernelLayout} {fs : FileSystem} {kernel next : Kernel}
  {event : Event} {outcome : Outcome}

theorem KeepsApart.keeps (apart : KeepsApart layout kernel)
    (running : kernel.faulting = false) (keeps : KeepsProcesses layout kernel next) :
    KeepsApart layout next := by
  obtain ⟨mappings, represents, image⟩ := apart.image running
  obtain ⟨after, afterRepresents, grows⟩ := keeps.mappings mappings represents
  refine ⟨⟨⟨after, afterRepresents⟩, ?_, ?_⟩, fun _ => ⟨after, afterRepresents, ?_⟩⟩
  · rw [keeps.activeProcNum]
    exact apart.active
  · rw [keeps.procIdFlags]
    exact apart.lastFree
  · rw [grows.image, keeps.activeProcNum]
    exact image

theorem KeepsApart.setDevices (apart : KeepsApart layout kernel) (devices : Devices) :
    KeepsApart layout (kernel.setDevices devices) :=
  ⟨⟨apart.represents, apart.active, apart.lastFree⟩, apart.image⟩

theorem KeepsApart.moves (apart : KeepsApart layout kernel) (esp ebp : Nat)
    (userMode : Bool) :
    KeepsApart layout { kernel with esp := esp, ebp := ebp, userMode := userMode } :=
  ⟨⟨apart.represents, apart.active, apart.lastFree⟩, apart.image⟩

/-- `execute`, where no program goes to slot 5. -/
theorem KeepsApart.execute (apart : KeepsApart layout kernel) (stale : StaleLocals)
    (command : Option (List UInt8))
    (below : kernel.freeProcId = some 5 → ∀ inode, ¬fs.IsProgram stale command inode) :
    KeepsApart layout (kernel.execute layout fs stale command).1 := by
  have done := kernel.execute_cases layout fs stale command
  generalize kernel.execute layout fs stale command = result at done ⊢
  obtain ⟨mappings, represents⟩ := apart.represents
  cases done with
  | refused bytes => exact ⟨⟨apart.represents, apart.active, apart.lastFree⟩, apart.image⟩
  | headerFault bytes =>
      exact ⟨⟨apart.represents, apart.active, apart.lastFree⟩, nofun⟩
  | loadFault bytes inode id program free faulted =>
      have notLast : id ≠ 5 := fun last => below (last ▸ free) inode program
      obtain ⟨-, -, idLt⟩ := Kernel.flag_of_freeProcIdFrom free
      simp only [maxProcesses] at idLt
      have claimed := Kernel.claimProcess_represents represents (show id ≤ 6 by omega)
      refine ⟨⟨⟨_, claimed⟩, apart.active, ?_⟩, nofun⟩
      show Function.update kernel.procIdFlags id 1 5 = 0
      rw [Function.update_of_ne (Ne.symm notLast)]
      exact apart.lastFree
  | started bytes inode id entryPoint arg program free loaded =>
      have notLast : id ≠ 5 := fun last => below (last ▸ free) inode program
      obtain ⟨-, -, idLt⟩ := Kernel.flag_of_freeProcIdFrom free
      simp only [maxProcesses] at idLt
      have claimed := Kernel.claimProcess_represents represents (show id ≤ 6 by omega)
      generalize ((kernel.print bytes).loadFor layout fs id inode).memory = mem
      refine ⟨⟨⟨_, claimed⟩, show id ≤ 4 by omega, ?_⟩,
        fun _ => ⟨_, claimed, Or.inr rfl⟩⟩
      show Function.update kernel.procIdFlags id 1 5 = 0
      rw [Function.update_of_ne (Ne.symm notLast)]
      exact apart.lastFree

/-- `halt`, where the parent is in a slot below 5: the image page becomes the
parent's, whatever it was. -/
theorem SparesLastSlot.halt (spares : SparesLastSlot layout kernel)
    (parentLe : kernel.currentPcb.parentProcNum ≤ 4) (fs : FileSystem)
    (stale : StaleLocals) (status : Nat) :
    KeepsApart layout (kernel.halt layout fs stale status).1 := by
  have leaves := kernel.leaves layout
  obtain ⟨mappings, represents⟩ := spares.represents
  obtain ⟨left, leftRepresents, -, image⟩ := leaves.mappings mappings represents
  have ownImage : left.image = some kernel.leaveProcess.activeProcNum := by
    rw [image (by omega), leaves.activeProcNum]
  have flags : kernel.leaveProcess.procIdFlags 5 = 0 := by
    rw [leaves.procIdFlags, Function.update_apply]
    split
    · rfl
    · exact spares.lastFree
  have apart : KeepsApart layout kernel.leaveProcess :=
    ⟨⟨⟨left, leftRepresents⟩, by rw [leaves.activeProcNum]; exact parentLe, flags⟩,
      fun _ => ⟨left, leftRepresents, Or.inr ownImage⟩⟩
  by_cases isRoot : kernel.activeProcNum = 0
  · have free : kernel.leaveProcess.freeProcId = some 0 := by
      rw [Kernel.freeProcId, leaves.procIdFlags, isRoot,
        show maxProcesses = 5 + 1 from rfl, Kernel.freeProcIdFrom,
        if_pos (Function.update_self _ _ _)]
    rw [Kernel.halt_of_root layout fs stale status isRoot, Kernel.returnZero_kernel]
    apply apart.execute stale Kernel.shellCommand
    intro last
    exact absurd (free.symm.trans last) (by simp)
  · rw [Kernel.halt_of_child layout fs stale status isRoot]
    exact ⟨⟨apart.represents, apart.active, apart.lastFree⟩, apart.image⟩

/-- A step that uses the slots 0 to 4 only keeps the frames apart. -/
theorem KeepsApart.step (apart : KeepsApart layout kernel)
    (step : kernel.LowStep layout fs (event, outcome) next) :
    KeepsApart layout next := by
  obtain ⟨⟨admits, handled⟩, stays⟩ := step
  by_cases isException : ∃ message stale, event = .exception message stale
  · obtain ⟨message, stale, rfl⟩ := isException
    have spares : SparesLastSlot layout
        (Kernel.print { kernel with faulting := false } message) :=
      ⟨apart.represents, apart.active, apart.lastFree⟩
    have halted := spares.halt (stays.ends stale rfl) fs stale exceptRetval
    have unfolded : kernel.handle layout fs (.exception message stale) =
        (Kernel.print { kernel with faulting := false } message).halt layout fs stale
          exceptRetval := rfl
    rw [← unfolded, handled] at halted
    exact halted
  have running : kernel.faulting = false :=
    Kernel.running_of_admits admits fun message stale same =>
      isException ⟨message, stale, same⟩
  have done := Kernel.handle_cases layout fs kernel event
  rw [handled] at done
  cases done with
  | trap isTrap => exact apart.moves kernel.trapStack kernel.ebp false
  | iret isIret => exact apart.moves kernel.esp kernel.ebp true
  | moveStack esp ebp isMove => exact apart.moves esp ebp kernel.userMode
  | fileCall request stale left isCall pauses =>
      exact apart.keeps running (kernel.keeps_fileCall layout fs _)
  | keeps after paused keeps pauses => exact apart.keeps running keeps.toKeepsProcesses
  | execute start middle devices left starts slot keeps alike =>
      have before := apart.keeps running keeps.toKeepsProcesses
      refine (before.execute start.stale start.command fun last => ?_).setDevices devices
      apply stays.starts start starts
      rw [slot, ← last, Kernel.freeProcId, Kernel.freeProcId, keeps.procIdFlags]
  | halt stale status middle devices left halts restarts keeps alike =>
      have before := (apart.keeps running keeps.toKeepsProcesses).toSparesLastSlot
      have parentLe := stays.ends stale halts
      rw [← keeps.parentProcNum] at parentLe
      exact (before.halt parentLe fs stale status).setDevices devices

end Step

section Stores

variable {layout : KernelLayout} {fs : FileSystem} {boot kernel : Kernel}

/-- An address of the image of a process. -/
def imagePage (id : Nat) : Set Nat :=
  { address | imageFrame id ≤ address ∧ address < imageFrame id + 0x400000 }

/-- Two processes have different images. -/
theorem imagePage_disjoint {first second address : Nat} (different : first ≠ second)
    (inFirst : address ∈ imagePage first) : address ∉ imagePage second := by
  rintro ⟨low, high⟩
  obtain ⟨firstLow, firstHigh⟩ := inFirst
  rw [imageFrame] at low high firstLow firstHigh
  omega

/-- The saved screens are in the frame of slot 5. -/
theorem savedScreens_inside {address : Nat} (saved : address ∈ savedScreens) :
    address ∈ imagePage 5 := by
  obtain ⟨id, idLt, low, high⟩ := saved
  rw [backingFrame] at low high
  refine ⟨?_, ?_⟩ <;> rw [imageFrame] <;> omega

/-- A store of the program to the image page goes to the frame of the process whose
image is mapped. -/
theorem userStore_storesOnly {mappings : Mappings}
    (represents : kernel.paging.Represents layout mappings) {linear : Nat}
    (low : 0x08000000 ≤ linear) (high : linear < 0x08400000) (value : UInt8)
    {process : Nat} (image : mappings.image = none ∨ mappings.image = some process) :
    TracedMemory.StoresOnly (imagePage process) kernel.mem
      (kernel.userStore layout linear value).mem := by
  have translated : kernel.paging.walk layout linear =
      mappings.image.map fun p =>
        ⟨(p + 2) * 0x400000 + (linear - 0x08000000), true, true⟩ := by
    rw [represents.walk_eq (by omega), Mappings.translate, if_neg (by omega),
      if_neg (by omega), if_pos ⟨low, high⟩]
  rw [Kernel.userStore, translated]
  rcases image with unmapped | mapped
  · rw [unmapped]
    exact .refl _ _
  · rw [mapped]
    refine TracedMemory.store_storesOnly kernel.mem value ?_
    show imageFrame process ≤ imageFrame process + (linear - 0x08000000) ∧
      imageFrame process + (linear - 0x08000000) < imageFrame process + 0x400000
    omega

/-- `terminal_save` stores to the saved screens only. -/
theorem terminalSave_storesOnly {mappings : Mappings}
    (represents : kernel.paging.Represents layout mappings)
    (backing : ∀ id < 3, (kernel.terminals id).termVidMem = termVirAddr) (id : Nat) :
    TracedMemory.StoresOnly savedScreens kernel.mem
      (kernel.terminalSave layout id).1.mem := by
  by_cases inRange : id < 3
  · rw [Kernel.terminalSave_eq represents inRange (backing id inRange)]
    refine (TracedMemory.copyRange_storesOnly kernel.mem (backingFrame id) video
      pageBytes4KB).mono ?_
    rintro address ⟨low, high⟩
    exact ⟨id, inRange, low, high⟩
  · rw [Kernel.terminalSave, if_pos (Nat.le_of_not_lt inRange)]
    exact .refl _ _

end Stores

section Backing

variable {layout : KernelLayout} {fs : FileSystem} {boot kernel next : Kernel}
  {event : Event} {outcome : Outcome}

/-- The terminals save to the page that `mapTermVID` maps. -/
def HasBacking (kernel : Kernel) : Prop :=
  ∀ id < 3, (kernel.terminals id).termVidMem = termVirAddr

theorem HasBacking.keeps (backing : HasBacking kernel)
    (keeps : KeepsProcesses layout kernel next) : HasBacking next := by
  intro id idLt
  rcases keeps.backing id with same | set
  · rw [same]
    exact backing id idLt
  · exact set

theorem HasBacking.moves (backing : HasBacking kernel) (esp ebp : Nat)
    (userMode : Bool) :
    HasBacking { kernel with esp := esp, ebp := ebp, userMode := userMode } :=
  backing

theorem execute_terminals (layout : KernelLayout) (fs : FileSystem) (kernel : Kernel)
    (stale : StaleLocals) (command : Option (List UInt8)) :
    (kernel.execute layout fs stale command).1.terminals = kernel.terminals := by
  have done := kernel.execute_cases layout fs stale command
  generalize kernel.execute layout fs stale command = result at done ⊢
  cases done <;> rfl

theorem HasBacking.halt (backing : HasBacking kernel) (layout : KernelLayout)
    (fs : FileSystem) (stale : StaleLocals) (status : Nat) :
    HasBacking (kernel.halt layout fs stale status).1 := by
  have left : HasBacking kernel.leaveProcess := by
    have freed : HasBacking (kernel.setProcIdFlag kernel.activeProcNum flagInactive) :=
      backing
    have closed : HasBacking kernel.closeFiles :=
      freed.keeps (kernel.keeps_closeFiles layout)
    exact closed
  by_cases isRoot : kernel.activeProcNum = 0
  · rw [Kernel.halt_of_root layout fs stale status isRoot, Kernel.returnZero_kernel,
      HasBacking, execute_terminals]
    exact left
  · rw [Kernel.halt_of_child layout fs stale status isRoot]
    exact left

theorem HasBacking.step (backing : HasBacking kernel)
    (step : kernel.Step layout fs (event, outcome) next) : HasBacking next := by
  have done := Kernel.handle_cases layout fs kernel event
  rw [step.2] at done
  cases done with
  | trap isTrap => exact backing.moves kernel.trapStack kernel.ebp false
  | iret isIret => exact backing.moves kernel.esp kernel.ebp true
  | moveStack esp ebp isMove => exact backing.moves esp ebp kernel.userMode
  | fileCall request stale left isCall pauses =>
      exact backing.keeps (kernel.keeps_fileCall layout fs _)
  | keeps after paused keeps pauses => exact backing.keeps keeps.toKeepsProcesses
  | execute start middle devices left starts slot keeps alike =>
      rw [HasBacking, Kernel.setDevices, execute_terminals]
      exact backing.keeps keeps.toKeepsProcesses
  | halt stale status middle devices left halts restarts keeps alike =>
      exact (backing.keeps keeps.toKeepsProcesses).halt layout fs stale status

/-- `init_terminals` gives every terminal its backing page. -/
theorem hasBacking_initTerminals (booted : boot.Boots layout) {stale : StaleLocals}
    (step : boot.Step layout fs (.initTerminals stale, outcome) next) :
    HasBacking next := by
  obtain ⟨mappings, ready, prepared, -, rfl⟩ := initTerminals_reaches booted step
  rw [HasBacking, execute_terminals]
  exact prepared.backing

end Backing

section Isolation

variable {layout : KernelLayout} {fs : FileSystem} {boot kernel : Kernel}

/-- A store of the running program to its image page changes no saved screen and no
other live process's image, and saving a terminal changes no live process's image,
also where the keyboard interrupt saves it. -/
structure Isolated (layout : KernelLayout) (kernel : Kernel) : Prop where
  screens : ∀ linear value, 0x08000000 ≤ linear → linear < 0x08400000 →
    kernel.Admits (.userStore linear value) → ∀ address ∈ savedScreens,
      (kernel.userStore layout linear value).mem.read address = kernel.mem.read address
  images : ∀ linear value, 0x08000000 ≤ linear → linear < 0x08400000 →
    kernel.Admits (.userStore linear value) →
    ∀ other < 6, kernel.procIdFlags other ≠ 0 → other ≠ kernel.activeProcNum →
      ∀ address ∈ imagePage other,
        (kernel.userStore layout linear value).mem.read address = kernel.mem.read address
  saves : ∀ (tty : Tty) (devices : Devices) (id : Nat),
    ∀ process < 6, kernel.procIdFlags process ≠ 0 → ∀ address ∈ imagePage process,
      (((kernel.setTty tty).setDevices devices).terminalSave layout id).1.mem.read
        address = tty.console.mem.read address

theorem KeepsApart.isolated (apart : KeepsApart layout kernel)
    (backing : HasBacking kernel) : Isolated layout kernel := by
  have active := apart.active
  have stores {linear : Nat} {value : UInt8} (low : 0x08000000 ≤ linear)
      (high : linear < 0x08400000) (admits : kernel.Admits (.userStore linear value)) :
      TracedMemory.StoresOnly (imagePage kernel.activeProcNum) kernel.mem
        (kernel.userStore layout linear value).mem := by
    obtain ⟨mappings, represents, image⟩ := apart.image admits.1
    exact userStore_storesOnly represents low high value image
  refine ⟨?_, ?_, ?_⟩
  · intro linear value low high admits address saved
    apply (stores low high admits).read_eq
    exact imagePage_disjoint (by omega) (savedScreens_inside saved)
  · intro linear value low high admits other _ _ different address inOther
    exact (stores low high admits).read_eq (imagePage_disjoint different inOther)
  · intro tty devices id process processLt live address inImage
    obtain ⟨mappings, represents⟩ := apart.represents
    have notLast : process ≠ 5 := fun last => live (last ▸ apart.lastFree)
    have saves := @terminalSave_storesOnly layout
      ((kernel.setTty tty).setDevices devices) mappings represents backing id
    apply saves.read_eq
    intro saved
    exact imagePage_disjoint (Ne.symm notLast) (savedScreens_inside saved) inImage

/-- In every run that starts with `init_terminals` and uses the slots 0 to 4 only,
images and saved screens stay apart. -/
theorem memory_isolation (booted : boot.Boots layout) {stale : StaleLocals}
    {outcome : Outcome} {labels : List (Event × Outcome)}
    (run : Run (Kernel.LowStep layout fs) boot
      ((.initTerminals stale, outcome) :: labels) kernel) :
    Isolated layout kernel := by
  have start : KeepsApart layout boot := by
    obtain ⟨begin, report, atEntry, rfl⟩ := booted
    have represents : (begin.entry layout report).paging.Represents layout .initial :=
      Paging.represents_initializePaging layout _
    have active : (begin.entry layout report).activeProcNum = 0 := atEntry.activeProcNum
    exact ⟨⟨⟨_, represents⟩, by omega, congrFun atEntry.procIdFlags 5⟩,
      fun _ => ⟨_, represents, Or.inl rfl⟩⟩
  cases run with
  | cons edge rest =>
      have first := start.step edge
      have backing := hasBacking_initTerminals booted edge.1
      have reached : KeepsApart layout kernel ∧ HasBacking kernel := by
        refine rest.invariant
          (fun state => KeepsApart layout state ∧ HasBacking state) ?_ ⟨first, backing⟩
        rintro state ⟨event, left⟩ next ⟨apart, before⟩ step
        exact ⟨apart.step step, before.step step.1⟩
      exact reached.1.isolated reached.2

/-- The first shell uses slot 0 and the one that it executes slot 1. -/
theorem memory_isolation_first_shell :
    ∃ outcome labels waiting child left resumed,
      NestedRun lowLayout oversizedImage 3 startedKernel waiting child left resumed ∧
      Run (Kernel.LowStep lowLayout oversizedImage) startedKernel
        ((.initTerminals .zero, outcome) :: labels) resumed ∧
      Isolated lowLayout resumed := by
  obtain ⟨waiting, child, left, resumed, nested⟩ :=
    startedKernel_boots.nestedRun oversizedImage_hasShell 3
  obtain ⟨firstEntry, start⟩ := nested.start
  obtain ⟨secondEntry, executes⟩ := nested.executes
  have booted : startedKernel.StaysBelow oversizedImage (.initTerminals .zero) := by
    refine ⟨fun start starts last => ?_, nofun⟩
    obtain rfl := Option.some.inj starts
    have free : startedKernel.freeProcId = some 0 := rfl
    exact absurd (free.symm.trans last) (by simp)
  have secondSlot : waiting.StaysBelow oversizedImage
      (.execute Kernel.shellCommand .zero) := by
    refine ⟨fun start starts last => ?_, nofun⟩
    obtain rfl := Option.some.inj starts
    exact absurd (nested.free.symm.trans last) (by simp)
  have goesBack : left.StaysBelow oversizedImage (.halt 3 .zero) := by
    refine ⟨fun start starts => ?_, fun _ _ => by rw [nested.childOf]; omega⟩
    have notRoot : left.restart .zero = none := if_neg (by rw [nested.stillInChild]; decide)
    exact absurd (starts.symm.trans notRoot) (by simp)
  have traps (state : Kernel) : state.StaysBelow oversizedImage .trap := ⟨nofun, nofun⟩
  cases start with
  | cons firstStep second =>
      cases second with
      | cons firstTrap nothing =>
          cases nothing
          have run := @Run.cons _ _ (Kernel.LowStep lowLayout oversizedImage) _ _ _ _ _
            ⟨firstStep.1, booted⟩ (Run.cons ⟨firstTrap.1, traps _⟩
              (Run.cons ⟨executes.1, secondSlot⟩ (Run.cons ⟨nested.traps.1, traps child⟩
                (Run.cons ⟨nested.halts.1, goesBack⟩ (Run.nil resumed)))))
          exact ⟨_, _, waiting, child, left, resumed, nested, run,
            memory_isolation startedKernel_boots run⟩

/-- Shells execute shells. -/
def nestedShells : Nat → List Event
  | 0 => []
  | count + 1 => nestedShells count ++ [.trap, .execute Kernel.shellCommand .zero]

theorem nestedShells_run {fs : FileSystem} (shell : fs.HasShell)
    (runs : RunsProgram layout kernel 1) {count : Nat} (atMostFive : count ≤ 5) :
    ∃ labels last, labels.map Prod.fst = nestedShells count ∧
      Run (Kernel.Step layout fs) kernel labels last ∧
      RunsProgram layout last (count + 1) := by
  induction count with
  | zero => exact ⟨[], kernel, rfl, Run.nil kernel, runs⟩
  | succ count ih =>
      obtain ⟨labels, middle, events, run, middleRuns⟩ := ih (by omega)
      obtain ⟨trapped, trapStep, serves, -⟩ := middleRuns.trap
      obtain ⟨entryPoint, last, executed, lastRuns⟩ :=
        serves.execute_shell (show count + 1 < 6 by omega) shell .zero
      refine ⟨labels ++ [(.trap, .returned 0),
        (.execute Kernel.shellCommand .zero, .running entryPoint)], last, ?_, ?_, lastRuns⟩
      · rw [List.map_append, events]
        rfl
      · exact run.append (Run.cons trapStep
          (Run.cons ⟨⟨serves.running, serves.kernelMode⟩, executed⟩ (Run.nil last)))

/-- Six nested shells: the image of the sixth is where the screen of terminal 0 is
saved, and its first byte the first byte of that screen. -/
theorem sixth_process_overwrites_saved_screen :
    startedKernel.Boots lowLayout ∧
      ∃ labels kernel value,
        labels.map Prod.fst = .initTerminals .zero :: nestedShells 5 ∧
        Run (Kernel.Step lowLayout oversizedImage) startedKernel labels kernel ∧
        kernel.Admits (.userStore 0x08000000 value) ∧
        (kernel.userStore lowLayout 0x08000000 value).mem.read (backingFrame 0) ≠
          kernel.mem.read (backingFrame 0) := by
  obtain ⟨entryPoint, first, step, firstRuns⟩ :=
    startedKernel_boots.serves.initTerminals oversizedImage_hasShell .zero
  obtain ⟨labels, kernel, events, run, runs⟩ :=
    nestedShells_run oversizedImage_hasShell firstRuns (Nat.le_refl 5)
  have other : ∃ value : UInt8, value ≠ kernel.mem.read (backingFrame 0) := by
    by_cases isZero : kernel.mem.read (backingFrame 0) = 0
    · exact ⟨1, by rw [isZero]; decide⟩
    · exact ⟨0, Ne.symm isZero⟩
  obtain ⟨value, differs⟩ := other
  obtain ⟨mappings, represents, image⟩ := runs.holds.image
  have translated : kernel.paging.walk lowLayout 0x08000000 =
      some ⟨backingFrame 0, true, true⟩ := by
    rw [represents.walk_eq (by omega), Mappings.translate, if_neg (by omega),
      if_neg (by omega), if_pos (by omega), image (by omega)]
    rfl
  refine ⟨startedKernel_boots, (.initTerminals .zero, .running entryPoint) :: labels,
    kernel, value, congrArg (Event.initTerminals .zero :: ·) events, Run.cons step run,
    ⟨runs.running, runs.userMode⟩, ?_⟩
  have stored : kernel.userStore lowLayout 0x08000000 value =
      kernel.setMem (kernel.mem.store (backingFrame 0) value) := by
    rw [Kernel.userStore, translated]
    rfl
  rw [stored, Kernel.setMem_mem, TracedMemory.store_read_self]
  exact differs

end Isolation

end ChapOS
