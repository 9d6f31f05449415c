import ChapOS.KernelEvents
import ChapOS.ProgramLoading

/-!
# The process invariant

The live processes fill the slots from 0 on, each the child of the one below,
and the kernel's three ideas of the running process agree: the global
`active_proc_num`, the PCB under the stack pointer and the image page.  While no
process lives, they can be anything.
-/

namespace ChapOS

open CountedLoops

/-- The 8KB block of a kernel stack: the top of the 8MB page, counted
downwards. -/
def stackBlock (processId : Nat) : Nat :=
  0x3FF - processId

/-- The slots below `k` hold a chain of processes, each started from the kernel
stack of its parent. -/
structure LiveSlots (layout : KernelLayout) (kernel : Kernel) (k : Nat) : Prop where
  bounded : k ≤ 6
  flags : ∀ id < 6, kernel.procIdFlags id = if id < k then 1 else 0
  procNum : ∀ id < k, (kernel.pcbAt (pcbAddress id)).procNum = id
  parent : ∀ id < k, (kernel.pcbAt (pcbAddress id)).parentProcNum = id - 1
  saved : ∀ id < k, 0 < id →
    (kernel.pcbAt (pcbAddress id)).ksp / stack8KB = stackBlock (id - 1)
  onStack : 0 < k → kernel.userMode = false →
    kernel.esp / stack8KB = stackBlock (k - 1)
  represents : ∃ mappings, kernel.paging.Represents layout mappings

/-- The invariant of the kernel with `k` live processes. -/
structure ProcessInvariant (layout : KernelLayout) (kernel : Kernel) (k : Nat) : Prop
    extends LiveSlots layout kernel k where
  active : 0 < k → kernel.activeProcNum = k - 1
  image : ∃ mappings, kernel.paging.Represents layout mappings ∧
    (0 < k → mappings.image = some (k - 1))
  tss : 0 < k → kernel.tssEsp0 = Kernel.kernelStackTop (k - 1)
  trapStack : 0 < k → kernel.trapStack / stack8KB = stackBlock (k - 1)

theorem pcbAddress_def (id : Nat) : pcbAddress id = 0x800000 - 0x2000 * (id + 1) := by
  unfold pcbAddress
  exact rfl

theorem parentPcbAddress_eq {id : Nat} (positive : 0 < id) :
    parentPcbAddress id = pcbAddress (id - 1) := by
  obtain ⟨below, rfl⟩ : ∃ below, id = below + 1 := ⟨id - 1, by omega⟩
  unfold parentPcbAddress pcbAddress
  exact rfl

theorem pcbAddress_injective {first second : Nat} (firstLt : first < 6)
    (secondLt : second < 6) (same : pcbAddress first = pcbAddress second) :
    first = second := by
  rw [pcbAddress_def, pcbAddress_def] at same
  omega

/-- The PCB lies at the start of its kernel stack's block. -/
theorem pcbAddress_eq {id : Nat} (idLt : id < 0x3FF) :
    pcbAddress id = stackBlock id * stack8KB := by
  rw [pcbAddress_def, stackBlock, show stack8KB = 0x2000 from rfl]
  omega

theorem and_pcbMask {esp : Nat} (espLt : esp < 2 ^ 32) :
    esp &&& pcbMask = esp / stack8KB * stack8KB := by
  have maskEq : pcbMask = (2 ^ 19 - 1) * 2 ^ 13 := by decide
  have split : esp = esp / 2 ^ 13 * 2 ^ 13 + esp % 2 ^ 13 := by omega
  apply Nat.eq_of_testBit_eq
  intro bit
  rw [maskEq, Nat.testBit_and, show stack8KB = 2 ^ 13 by decide,
    Nat.testBit_mul_two_pow, Nat.testBit_mul_two_pow, Nat.testBit_two_pow_sub_one,
    Nat.testBit_div_two_pow]
  by_cases low : bit < 13
  · simp [Nat.not_le_of_lt low]
  · have restored : 13 + (bit - 13) = bit := by omega
    by_cases high : bit < 32
    · simp only [show 13 ≤ bit by omega, show bit - 13 < 19 by omega, decide_true,
        Bool.and_true, Bool.true_and]
      rw [Nat.add_comm, restored]
    · have clear : esp.testBit bit = false :=
        Nat.testBit_lt_two_pow (Nat.lt_of_lt_of_le espLt
          (Nat.pow_le_pow_right (by omega) (by omega)))
      rw [clear, Nat.add_comm, restored, clear]
      simp

/-- Anywhere on a kernel stack, the mask leads to the PCB below it. -/
theorem pcbPtr_of_block {esp id : Nat} (idLt : id < 0x3FF)
    (block : esp / stack8KB = stackBlock id) : esp &&& pcbMask = pcbAddress id := by
  have espLt : esp < 2 ^ 32 := by
    simp only [stack8KB, stackBlock] at block
    omega
  rw [and_pcbMask espLt, block, pcbAddress_eq idLt]

theorem kernelStackTop_eq {id : Nat} (idLt : id < 6) :
    Kernel.kernelStackTop id = 0x800000 - 0x2000 * id - 4 := by
  have unfolded : Kernel.kernelStackTop id =
      (0x800000 + 2 ^ 32 - (0x2000 * id + 4) % 2 ^ 32) % 2 ^ 32 := rfl
  omega

/-- A trap into the kernel lands on the process's own stack. -/
theorem trapStack_block {id : Nat} (idLt : id < 6) :
    (Kernel.kernelStackTop id + 2 ^ 32 - 20) % 2 ^ 32 / stack8KB = stackBlock id := by
  interval_cases id <;> decide

theorem freeProcIdFrom_eq {flags : Nat → Nat} {k : Nat} (remaining i : Nat)
    (live : ∀ id < 6, flags id = if id < k then 1 else 0)
    (started : i ≤ k) (within : i + remaining = 6) :
    Kernel.freeProcIdFrom flags remaining i = if k < 6 then some k else none := by
  induction remaining generalizing i with
  | zero =>
      rw [if_neg (by omega)]
      rfl
  | succ remaining ih =>
      rw [Kernel.freeProcIdFrom, live i (by omega)]
      by_cases isLive : i < k
      · rw [if_pos isLive, if_neg (by omega), ih (i + 1) (by omega) (by omega)]
      · have same : i = k := by omega
        subst same
        rw [if_neg isLive, if_pos rfl, if_pos (by omega)]

namespace LiveSlots

variable {layout : KernelLayout} {kernel : Kernel} {k : Nat}

/-- `gen_new_proc_id` finds the slot above the live ones. -/
theorem freeProcId_eq (slots : LiveSlots layout kernel k) :
    kernel.freeProcId = if k < 6 then some k else none :=
  freeProcIdFrom_eq 6 0 slots.flags (Nat.zero_le k) rfl

theorem getPcbPtr_eq (slots : LiveSlots layout kernel k) (live : 0 < k)
    (kernelMode : kernel.userMode = false) :
    kernel.getPcbPtr = pcbAddress (k - 1) := by
  have bounded := slots.bounded
  exact pcbPtr_of_block (by omega) (slots.onStack live kernelMode)

theorem live_iff (slots : LiveSlots layout kernel k) {id : Nat} (idLt : id < 6) :
    kernel.procIdFlags id ≠ 0 ↔ id < k := by
  rw [slots.flags id idLt]
  split <;> omega

theorem positive_of_live (slots : LiveSlots layout kernel k)
    (live : ∃ id < 6, kernel.procIdFlags id ≠ 0) : 0 < k := by
  obtain ⟨id, idLt, isLive⟩ := live
  have below := (slots.live_iff idLt).mp isLive
  omega

/-- What keeps the processes keeps the live slots. -/
theorem keeps (slots : LiveSlots layout kernel k) {after : Kernel}
    (keeps : KeepsProcesses layout kernel after) : LiveSlots layout after k where
  bounded := slots.bounded
  flags := by rw [keeps.procIdFlags]; exact slots.flags
  procNum id idLt := by rw [(keeps.pcb _).1]; exact slots.procNum id idLt
  parent id idLt := by rw [(keeps.pcb _).2.1]; exact slots.parent id idLt
  saved id idLt positive := by
    rw [(keeps.pcb _).2.2]
    exact slots.saved id idLt positive
  onStack live kernelMode := by
    rw [keeps.esp]
    exact slots.onStack live (keeps.userMode ▸ kernelMode)
  represents := by
    obtain ⟨mappings, represents⟩ := slots.represents
    obtain ⟨next, nextRepresents, -⟩ := keeps.mappings mappings represents
    exact ⟨next, nextRepresents⟩

end LiveSlots

namespace ProcessInvariant

variable {layout : KernelLayout} {fs : FileSystem} {kernel : Kernel} {k : Nat}

theorem keeps (holds : ProcessInvariant layout kernel k) {after : Kernel}
    (keeps : KeepsProcesses layout kernel after) :
    ProcessInvariant layout after k where
  toLiveSlots := holds.toLiveSlots.keeps keeps
  active live := by rw [keeps.activeProcNum]; exact holds.active live
  image := by
    obtain ⟨mappings, represents, running⟩ := holds.image
    obtain ⟨next, nextRepresents, grows⟩ := keeps.mappings mappings represents
    exact ⟨next, nextRepresents, fun positive => grows.image.trans (running positive)⟩
  tss positive := by rw [keeps.tssEsp0]; exact holds.tss positive
  trapStack live := by
    rw [Kernel.trapStack, keeps.tssEsp0]
    exact holds.trapStack live

end ProcessInvariant

section Execute

variable {layout : KernelLayout} {fs : FileSystem} {kernel : Kernel} {k : Nat}

namespace Kernel

theorem newPcb_procNum (kernel : Kernel) (id : Nat) (arg : CString) :
    (kernel.newPcb id arg).procNum = id := by
  unfold newPcb
  split <;> rfl

theorem newPcb_ksp (kernel : Kernel) (id : Nat) (arg : CString) :
    (kernel.newPcb id arg).ksp = kernel.esp := by
  unfold newPcb
  split <;> rfl

theorem newPcb_parentProcNum (kernel : Kernel) (id : Nat) (arg : CString) :
    (kernel.newPcb id arg).parentProcNum =
      if id = 0 then 0 else (kernel.pcbAt (pcbAddress (id - 1))).procNum := by
  unfold newPcb
  split
  · assumption
  · rename_i positive
    rw [parentPcbAddress_eq (by omega)]

end Kernel

/-- The state of the kernel when `execute` has loaded a program for slot `id`. -/
def Kernel.loadedFor (kernel : Kernel) (bytes : List UInt8) (id : Nat)
    (mem : PhysicalMemory) : Kernel :=
  ((kernel.print bytes).claimProcess id).setMem mem

/-- `execute` writes the PCB of the new process. -/
theorem Kernel.entered_pcbAt (kernel : Kernel) (bytes : List UInt8) (id : Nat)
    (mem : PhysicalMemory) (arg : CString) (address : Nat) :
    ((kernel.loadedFor bytes id mem).enterProgram id arg).pcbAt address =
      if address = pcbAddress id then (kernel.loadedFor bytes id mem).newPcb id arg
      else kernel.pcbAt address :=
  Function.update_apply _ _ _ _

/-- Entering a program in the slot above the live ones makes it the running
process. -/
theorem LiveSlots.enterProgram (slots : LiveSlots layout kernel k)
    (kernelMode : kernel.userMode = false) (below : k < 6) (bytes : List UInt8)
    (mem : PhysicalMemory) (arg : CString) :
    ProcessInvariant layout ((kernel.loadedFor bytes k mem).enterProgram k arg)
      (k + 1) := by
  have pcbs := kernel.entered_pcbAt bytes k mem arg
  have own : ((kernel.loadedFor bytes k mem).enterProgram k arg).pcbAt (pcbAddress k) =
      (kernel.loadedFor bytes k mem).newPcb k arg := by
    rw [pcbs, if_pos rfl]
  have other {id : Nat} (idLt : id < 6) (different : id ≠ k) :
      ((kernel.loadedFor bytes k mem).enterProgram k arg).pcbAt (pcbAddress id) =
        kernel.pcbAt (pcbAddress id) := by
    rw [pcbs, if_neg fun same => different (pcbAddress_injective idLt below same)]
  obtain ⟨mappings, represents⟩ := slots.represents
  have claimed : ((kernel.loadedFor bytes k mem).enterProgram k arg).paging.Represents
      layout { mappings with image := some k } :=
    Kernel.claimProcess_represents represents (by omega)
  refine
    { bounded := by omega
      flags := ?_
      procNum := ?_
      parent := ?_
      saved := ?_
      onStack := ?_
      represents := ⟨_, claimed⟩
      active := ?_
      image := ⟨_, claimed, fun _ => rfl⟩
      tss := fun _ => rfl
      trapStack := fun _ => trapStack_block below }
  · intro id idLt
    have updated : ((kernel.loadedFor bytes k mem).enterProgram k arg).procIdFlags id =
        if id = k then 1 else kernel.procIdFlags id :=
      Function.update_apply _ _ _ _
    rw [updated, slots.flags id idLt]
    split_ifs <;> omega
  · intro id idLt
    by_cases isOwn : id = k
    · rw [isOwn, own, Kernel.newPcb_procNum]
    · rw [other (by omega) isOwn]
      exact slots.procNum id (by omega)
  · intro id idLt
    by_cases isOwn : id = k
    · rw [isOwn, own, Kernel.newPcb_parentProcNum]
      by_cases isRoot : k = 0
      · rw [if_pos isRoot, isRoot]
      · rw [if_neg isRoot]
        exact slots.procNum (k - 1) (by omega)
    · rw [other (by omega) isOwn]
      exact slots.parent id (by omega)
  · intro id idLt positive
    by_cases isOwn : id = k
    · rw [isOwn, own, Kernel.newPcb_ksp]
      exact slots.onStack (isOwn ▸ positive) kernelMode
    · rw [other (by omega) isOwn]
      exact slots.saved id (by omega) positive
  · exact fun _ kernelMode => Bool.noConfusion kernelMode
  · exact fun _ => (Nat.add_sub_cancel k 1).symm

/-- The pages of one state stay mapped in another, the image page apart. -/
def KeepsMapped (layout : KernelLayout) (before after : Kernel) : Prop :=
  ∀ mappings, before.paging.Represents layout mappings →
    ∃ next, after.paging.Represents layout next ∧ mappings.Covers next

theorem KeepsProcesses.keepsMapped {before after : Kernel}
    (keeps : KeepsProcesses layout before after) :
    KeepsMapped layout before after := by
  intro mappings represents
  obtain ⟨next, nextRepresents, grows⟩ := keeps.mappings mappings represents
  exact ⟨next, nextRepresents, grows.toCovers⟩

/-- Every program that a command can start is mapped when it is loaded. -/
def LoadsCommand (layout : KernelLayout) (fs : FileSystem) (stale : StaleLocals)
    (command : Option (List UInt8)) (kernel : Kernel) : Prop :=
  ∀ inode, fs.IsProgram stale command inode → kernel.Loads layout fs inode

/-- What an `execute` does to the number of live processes. -/
def ExecuteEffect (k : Nat) (outcome : Outcome) (next : Nat) : Prop :=
  match outcome with
  | .returned _ | .pageFault => next = k
  | .running _ => next = k + 1
  | .resumed _ => False

theorem ProcessInvariant.execute {before : Kernel} {stale : StaleLocals}
    {command : Option (List UInt8)}
    (loads : k < 6 → LoadsCommand layout fs stale command before)
    (represented : ∃ mappings, before.paging.Represents layout mappings)
    (keepsMapped : KeepsMapped layout before kernel)
    (holds : ProcessInvariant layout kernel k)
    (kernelMode : kernel.userMode = false) :
    ∃ next,
      ProcessInvariant layout (kernel.execute layout fs stale command).1 next ∧
        ExecuteEffect k (kernel.execute layout fs stale command).2 next := by
  obtain ⟨earlier, representsEarlier⟩ := represented
  obtain ⟨mappings, represents, covers⟩ := keepsMapped earlier representsEarlier
  have free : Kernel.freeProcIdFrom kernel.procIdFlags maxProcesses 0 =
      if k < 6 then some k else none := holds.freeProcId_eq
  have done := kernel.execute_cases layout fs stale command
  generalize kernel.execute layout fs stale command = result at done ⊢
  cases done with
  | refused bytes =>
      exact ⟨k, holds.keeps (kernel.keeps_print layout bytes).toKeepsProcesses, rfl⟩
  | headerFault bytes =>
      have faulted := (kernel.keeps_print layout bytes).trans (Kernel.keeps_fault layout _)
      exact ⟨k, holds.keeps faulted.toKeepsProcesses, rfl⟩
  | loadFault bytes inode id program isFree faulted =>
      rw [free] at isFree
      split at isFree
      · have idEq : k = id := Option.some.inj isFree
        have running : ((kernel.print bytes).loadFor layout fs id inode).faulted =
            false :=
          Kernel.loadFor_of_loads fs (loads (by assumption) inode program)
            representsEarlier represents covers (by omega)
        rw [running] at faulted
        exact Bool.noConfusion faulted
      · exact absurd isFree (by simp)
  | started bytes inode id entryPoint arg program isFree loaded =>
      rw [free] at isFree
      split at isFree
      · have idEq : k = id := Option.some.inj isFree
        subst idEq
        exact ⟨k + 1, holds.enterProgram kernelMode (by assumption) bytes _ arg, rfl⟩
      · exact absurd isFree (by simp)

/-- A loadable shell is always started. -/
theorem LiveSlots.execute_shell (slots : LiveSlots layout kernel k)
    (kernelMode : kernel.userMode = false) (below : k < 6) (shell : fs.HasShell)
    (stale : StaleLocals) :
    ∃ entryPoint,
      (kernel.execute layout fs stale Kernel.shellCommand).2 = .running entryPoint ∧
        ProcessInvariant layout
          (kernel.execute layout fs stale Kernel.shellCommand).1 (k + 1) := by
  obtain ⟨mappings, represents⟩ := slots.represents
  have free : Kernel.freeProcIdFrom kernel.procIdFlags maxProcesses 0 =
      if k < 6 then some k else none := slots.freeProcId_eq
  rw [if_pos below] at free
  obtain ⟨inode, entryPoint, arg, -, started⟩ :=
    Kernel.execute_shell stale represents shell (by omega) free
  refine ⟨entryPoint, ?_, ?_⟩
  · rw [started]
  · rw [started]
    exact slots.enterProgram kernelMode below [] _ arg

end Execute

section Halt

variable {layout : KernelLayout} {fs : FileSystem} {kernel : Kernel} {k : Nat}

namespace Kernel

theorem keeps_haltSlot (layout : KernelLayout) (i : Nat) (kernel : Kernel) :
    KeepsProcesses layout kernel (haltSlot i kernel) := by
  unfold haltSlot
  dsimp only
  split
  · exact (kernel.keeps_close layout i).trans (keeps_setDesc layout _ _ _)
  · exact kernel.keeps_setDesc layout _ _

/-- The kernel in `halt` once the files are closed. -/
def closeFiles (kernel : Kernel) : Kernel :=
  forUpTo maxFiles haltSlot (kernel.setProcIdFlag kernel.activeProcNum flagInactive)

theorem keeps_closeFiles (layout : KernelLayout) (kernel : Kernel) :
    KeepsProcesses layout
      (kernel.setProcIdFlag kernel.activeProcNum flagInactive) kernel.closeFiles := by
  unfold closeFiles
  apply forUpTo_invariant fun _ current => KeepsProcesses layout
    (kernel.setProcIdFlag kernel.activeProcNum flagInactive) current
  · exact .refl layout _
  · intro i _ current keeps
    exact keeps.trans (keeps_haltSlot layout i current)

/-- Process 0 that halts is followed by a new shell. -/
theorem halt_of_root (layout : KernelLayout) (fs : FileSystem) (stale : StaleLocals)
    {kernel : Kernel} (status : Nat) (isRoot : kernel.activeProcNum = 0) :
    kernel.halt layout fs stale status =
      returnZero (kernel.leaveProcess.execute layout fs stale shellCommand) := by
  rw [halt, if_pos isRoot]

/-- The registers of the kernel when the parent goes on. -/
def resumeAt (kernel : Kernel) (esp ebp : Nat) : Kernel :=
  { kernel with esp := esp, ebp := ebp }

/-- Any other process that halts is followed by its parent. -/
theorem halt_of_child (layout : KernelLayout) (fs : FileSystem) (stale : StaleLocals)
    {kernel : Kernel} (status : Nat) (isChild : kernel.activeProcNum ≠ 0) :
    kernel.halt layout fs stale status =
      (kernel.leaveProcess.resumeAt kernel.leaveProcess.currentPcb.ksp
        kernel.leaveProcess.currentPcb.kbp,
        .resumed (haltValue layout.haltOperands status)) := by
  rw [halt, if_neg isChild]
  simp only [HaltRegisters.haltAssembly_eax, HaltRegisters.haltAssembly_frame]
  rfl

/-- What `halt` leaves before it switches stacks. -/
structure Leaves (layout : KernelLayout) (kernel left : Kernel) : Prop where
  procIdFlags : left.procIdFlags =
    Function.update kernel.procIdFlags kernel.activeProcNum 0
  activeProcNum : left.activeProcNum = kernel.currentPcb.parentProcNum
  tssEsp0 : left.tssEsp0 = kernelStackTop kernel.currentPcb.parentProcNum
  esp : left.esp = kernel.esp
  userMode : left.userMode = kernel.userMode
  pcb : ∀ address,
    (left.pcbAt address).procNum = (kernel.pcbAt address).procNum ∧
      (left.pcbAt address).parentProcNum = (kernel.pcbAt address).parentProcNum ∧
      (left.pcbAt address).ksp = (kernel.pcbAt address).ksp
  mappings : ∀ mappings, kernel.paging.Represents layout mappings →
    ∃ next, left.paging.Represents layout next ∧ mappings.Covers next ∧
      (kernel.currentPcb.parentProcNum ≤ 6 →
        next.image = some kernel.currentPcb.parentProcNum)

theorem leaves (layout : KernelLayout) (kernel : Kernel) :
    kernel.Leaves layout kernel.leaveProcess := by
  have keeps := kernel.keeps_closeFiles layout
  have parent : kernel.closeFiles.currentPcb.parentProcNum =
      kernel.currentPcb.parentProcNum := keeps.parentProcNum
  refine
    { procIdFlags := keeps.procIdFlags
      activeProcNum := parent
      tssEsp0 := congrArg kernelStackTop parent
      esp := keeps.esp
      userMode := keeps.userMode
      pcb := keeps.pcb
      mappings := ?_ }
  intro mappings represents
  obtain ⟨next, nextRepresents, grows⟩ := keeps.mappings mappings represents
  refine ⟨next.call (.mapUserImgPage kernel.closeFiles.currentPcb.parentProcNum),
    nextRepresents.call (.mapUserImgPage kernel.closeFiles.currentPcb.parentProcNum),
    ?_, ?_⟩
  · simp only [Mappings.call]
    split
    · exact ⟨grows.video, grows.terminal⟩
    · exact grows.toCovers
  · intro inRange
    rw [← parent] at inRange ⊢
    simp only [Mappings.call]
    rw [if_pos (by omega)]
    rfl

end Kernel

namespace ProcessInvariant

/-- Leaving a process frees the highest slot. -/
theorem leaveSlots (holds : ProcessInvariant layout kernel k) {esp ebp : Nat}
    (onStack : 0 < k - 1 → esp / stack8KB = stackBlock (k - 1 - 1)) :
    LiveSlots layout (kernel.leaveProcess.resumeAt esp ebp) (k - 1) := by
  have leaves := kernel.leaves layout
  have bounded := holds.bounded
  refine
    { bounded := by omega
      flags := ?_
      procNum := ?_
      parent := ?_
      saved := ?_
      onStack := fun live _ => onStack live
      represents := ?_ }
  · intro id idLt
    have updated : (kernel.leaveProcess.resumeAt esp ebp).procIdFlags id =
        if id = kernel.activeProcNum then 0 else kernel.procIdFlags id :=
      (congrFun leaves.procIdFlags id).trans (Function.update_apply _ _ _ _)
    have active := holds.active
    rw [updated, holds.flags id idLt]
    split_ifs <;> omega
  · intro id idLt
    exact (leaves.pcb _).1.trans (holds.procNum id (by omega))
  · intro id idLt
    exact (leaves.pcb _).2.1.trans (holds.parent id (by omega))
  · intro id idLt positive
    have saved := holds.saved id (by omega) positive
    rwa [← (leaves.pcb _).2.2] at saved
  · obtain ⟨mappings, represents, -⟩ := holds.image
    obtain ⟨next, nextRepresents, -⟩ := leaves.mappings mappings represents
    exact ⟨next, nextRepresents⟩

/-- Leaving a process makes its parent the running process. -/
theorem leave (holds : ProcessInvariant layout kernel k) {esp ebp : Nat}
    (onStack : 0 < k - 1 → esp / stack8KB = stackBlock (k - 1 - 1))
    (parent : 0 < k - 1 → kernel.currentPcb.parentProcNum = k - 1 - 1) :
    ProcessInvariant layout (kernel.leaveProcess.resumeAt esp ebp) (k - 1) := by
  have leaves := kernel.leaves layout
  have bounded := holds.bounded
  refine
    { toLiveSlots := holds.leaveSlots onStack
      active := fun live => leaves.activeProcNum.trans (parent live)
      image := ?_
      tss := fun live =>
        leaves.tssEsp0.trans (congrArg Kernel.kernelStackTop (parent live))
      trapStack := ?_ }
  · obtain ⟨mappings, represents, -⟩ := holds.image
    obtain ⟨next, nextRepresents, -, image⟩ := leaves.mappings mappings represents
    refine ⟨next, nextRepresents, fun live => ?_⟩
    rw [← parent live]
    have := parent live
    exact image (by omega)
  · intro live
    have tss : (kernel.leaveProcess.resumeAt esp ebp).tssEsp0 =
        Kernel.kernelStackTop (k - 1 - 1) :=
      leaves.tssEsp0.trans (congrArg Kernel.kernelStackTop (parent live))
    rw [Kernel.trapStack, tss]
    exact trapStack_block (by omega)

end ProcessInvariant

/-- What an event does to the number of live processes.  Only where there is no
shell can a halt leave none, and with none it has no one to resume. -/
def StackEffect (fs : FileSystem) (k : Nat) (outcome : Outcome) (next : Nat) : Prop :=
  match outcome with
  | .returned _ | .pageFault => next = k ∨ (¬fs.HasShell ∧ k ≤ 1 ∧ next = 0)
  | .running _ => next = k + 1 ∨ (k ≤ 1 ∧ next = 1)
  | .resumed _ => (k = next + 1 ∧ 0 < next) ∨ (k = 0 ∧ next = 0)

theorem ExecuteEffect.stackEffect {fs : FileSystem} {k next : Nat} {outcome : Outcome}
    (effect : ExecuteEffect k outcome next) : StackEffect fs k outcome next := by
  cases outcome with
  | returned value => exact Or.inl effect
  | running entryPoint => exact Or.inl effect
  | resumed value => exact effect.elim
  | pageFault => exact Or.inl effect

theorem StackEffect.alike {fs : FileSystem} {k next : Nat} {first second : Outcome}
    (effect : StackEffect fs k first next) (alike : first.Alike second) :
    StackEffect fs k second next := by
  cases first with
  | returned value =>
      cases second with
      | returned other => exact effect
      | running entryPoint => exact nomatch alike
      | resumed other => exact nomatch alike
      | pageFault => exact nomatch alike
  | running entryPoint => exact alike ▸ effect
  | resumed value => exact alike ▸ effect
  | pageFault => exact alike ▸ effect

theorem ProcessInvariant.halt {before : Kernel} {stale : StaleLocals}
    (loads : kernel.activeProcNum = 0 →
      LoadsCommand layout fs stale Kernel.shellCommand before)
    (represented : ∃ mappings, before.paging.Represents layout mappings)
    (keepsMapped : KeepsMapped layout before kernel)
    (holds : ProcessInvariant layout kernel k)
    (kernelMode : kernel.userMode = false) (status : Nat) :
    ∃ next,
      ProcessInvariant layout (kernel.halt layout fs stale status).1 next ∧
        StackEffect fs k (kernel.halt layout fs stale status).2 next := by
  have leaves := kernel.leaves layout
  have active := holds.active
  have leftMode : kernel.leaveProcess.userMode = false :=
    leaves.userMode.trans kernelMode
  by_cases isRoot : kernel.activeProcNum = 0
  · -- Process 0 halts, or none: a shell takes its place.
    have atMostOne : k ≤ 1 := by omega
    have none : k - 1 = 0 := by omega
    rw [Kernel.halt_of_root layout fs stale status isRoot, Kernel.returnZero_kernel]
    have left : ProcessInvariant layout kernel.leaveProcess (k - 1) :=
      holds.leave (by omega) (by omega)
    rw [none] at left
    by_cases shell : fs.HasShell
    · obtain ⟨entryPoint, running, started⟩ :=
        left.execute_shell leftMode (by omega) shell stale
      refine ⟨1, started, StackEffect.alike ?_ (Kernel.returnZero_alike _)⟩
      rw [running]
      exact Or.inr ⟨atMostOne, rfl⟩
    · have leftMapped : KeepsMapped layout before kernel.leaveProcess := by
        intro earlier representsEarlier
        obtain ⟨middle, representsMiddle, covers⟩ := keepsMapped earlier representsEarlier
        obtain ⟨next, nextRepresents, nextCovers, -⟩ :=
          leaves.mappings middle representsMiddle
        exact ⟨next, nextRepresents, covers.trans nextCovers⟩
      obtain ⟨next, nextHolds, effect⟩ :=
        ProcessInvariant.execute (fun _ => loads isRoot) represented leftMapped left
          leftMode
      refine ⟨next, nextHolds, StackEffect.alike ?_ (Kernel.returnZero_alike _)⟩
      generalize (kernel.leaveProcess.execute layout fs stale
        Kernel.shellCommand).2 = outcome at effect
      cases outcome with
      | returned value => exact Or.inr ⟨shell, atMostOne, effect⟩
      | running entryPoint => exact Or.inr ⟨atMostOne, effect⟩
      | resumed value => exact effect.elim
      | pageFault => exact Or.inr ⟨shell, atMostOne, effect⟩
  · -- Any other process returns to its parent's kernel stack.
    rw [Kernel.halt_of_child layout fs stale status isRoot]
    refine ⟨k - 1, holds.leave ?_ ?_, ?_⟩
    · intro live
      have sameBlock : kernel.leaveProcess.currentPcb =
          kernel.leaveProcess.pcbAt (pcbAddress (k - 1)) := by
        rw [Kernel.currentPcb, Kernel.getPcbPtr, leaves.esp, ← Kernel.getPcbPtr,
          holds.getPcbPtr_eq (by omega) kernelMode]
      rw [sameBlock, (leaves.pcb _).2.2]
      exact holds.saved (k - 1) (by omega) live
    · intro live
      have current : kernel.currentPcb = kernel.pcbAt (pcbAddress (k - 1)) := by
        rw [Kernel.currentPcb, holds.getPcbPtr_eq (by omega) kernelMode]
      rw [current]
      exact holds.parent (k - 1) (by omega)
    · show (k = k - 1 + 1 ∧ 0 < k - 1) ∨ (k = 0 ∧ k - 1 = 0)
      omega

end Halt

end ChapOS
