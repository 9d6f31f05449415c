import ChapOS.CommandWords
import ChapOS.DescriptorLifetimes
import ChapOS.UserSessions

/-!
# Programs that start programs

`execute` gives the processor to another program, and the kernel comes back to the
caller when that program halts or raises an exception.  For the caller this is a call
like any other: its PCB, the PCBs of the processes below, the process slots and the
kernel stack are what they were.  A program is given by its system calls, as a tree
that branches on their answers, so that the programs it starts can start others.
Nothing is said about a command whose words overrun the arrays of `execute`: what the
kernel does then depends on the frame that the compiler lays out.
-/

namespace ChapOS

open CountedLoops

/-- How a program ends. -/
inductive Ending where
  | exits (status : Int)
  | faults (message : List UInt8)

/-- A program by its system calls, for every answer to them. -/
inductive CallTree where
  | ends (ending : Ending)
  | getargs (buf : CString) (nbytes : Int) (next : Int → CString → CallTree)
  | openFile (filename : CString) (next : Int → CallTree)
  | read (fd : Int) (buf : CString) (nbytes : Int) (next : Int → CString → CallTree)
  | write (fd : Int) (buf : CString) (nbytes : Int) (next : Int → CallTree)
  | close (fd : Int) (next : Int → CallTree)
  | execute (command : CString) (next : Int → CallTree)

/-- Make the calls of a program. -/
def CallTree.run {World : Type} (calls : SystemCalls World)
    (execute : World → CString → Option (World × Int)) :
    CallTree → World → Option (World × Ending)
  | .ends ending, world => some (world, ending)
  | .getargs buf nbytes next, world =>
      let done := calls.getargs world buf nbytes
      (next done.2.1 done.2.2).run calls execute done.1
  | .openFile filename next, world =>
      let done := calls.openFile world filename
      (next done.2).run calls execute done.1
  | .read fd buf nbytes next, world =>
      let done := calls.read world fd buf nbytes
      (next done.2.1 done.2.2).run calls execute done.1
  | .write fd buf nbytes next, world =>
      let done := calls.write world fd buf nbytes
      (next done.2).run calls execute done.1
  | .close fd next, world =>
      let done := calls.close world fd
      (next done.2).run calls execute done.1
  | .execute command next, world =>
      (execute world command).bind fun done => (next done.2).run calls execute done.1

/-- No command that the program executes overruns the arrays of `execute`, whatever is
answered to its calls. -/
def CallTree.CommandsFit : CallTree → Prop
  | .ends _ => True
  | .getargs _ _ next => ∀ value content, (next value content).CommandsFit
  | .openFile _ next => ∀ value, (next value).CommandsFit
  | .read _ _ _ next => ∀ value content, (next value content).CommandsFit
  | .write _ _ _ next => ∀ value, (next value).CommandsFit
  | .close _ next => ∀ value, (next value).CommandsFit
  | .execute command next =>
      WordsFit (characters command (2 ^ 32)) ∧ ∀ value, (next value).CommandsFit

/-- Every system call but `execute` keeps a property of the world. -/
structure SystemCalls.Keep {World : Type} (calls : SystemCalls World)
    (holds : World → Prop) : Prop where
  getargs : ∀ world buf nbytes, holds world → holds (calls.getargs world buf nbytes).1
  openFile : ∀ world filename, holds world → holds (calls.openFile world filename).1
  read : ∀ world fd buf nbytes, holds world → holds (calls.read world fd buf nbytes).1
  write : ∀ world fd buf nbytes, holds world → holds (calls.write world fd buf nbytes).1
  close : ∀ world fd, holds world → holds (calls.close world fd).1

/-- Where every call returns and keeps a property, so does every program whose commands
fit.  A call of `execute` may need a bound that is large enough. -/
theorem CallTree.run_keeps {World : Type} {calls : SystemCalls World}
    {execute : Nat → World → CString → Option (World × Int)} {enough : Nat}
    {holds : World → Prop} (keep : calls.Keep holds)
    (executes : ∀ world command, WordsFit (characters command (2 ^ 32)) → holds world →
      ∃ after value, (∀ bound, enough ≤ bound →
        execute bound world command = some (after, value)) ∧ holds after)
    (program : CallTree) (fit : program.CommandsFit) {world : World}
    (start : holds world) :
    ∃ after ending, (∀ bound, enough ≤ bound →
      program.run calls (execute bound) world = some (after, ending)) ∧ holds after := by
  induction program generalizing world with
  | ends ending => exact ⟨world, ending, fun _ _ => rfl, start⟩
  | getargs buf nbytes next ih =>
      exact ih _ _ (fit _ _) (keep.getargs world buf nbytes start)
  | openFile filename next ih =>
      exact ih _ (fit _) (keep.openFile world filename start)
  | read fd buf nbytes next ih =>
      exact ih _ _ (fit _ _) (keep.read world fd buf nbytes start)
  | write fd buf nbytes next ih => exact ih _ (fit _) (keep.write world fd buf nbytes start)
  | close fd next ih => exact ih _ (fit _) (keep.close world fd start)
  | execute command next ih =>
      obtain ⟨middle, value, done, kept⟩ := executes world command fit.1 start
      obtain ⟨after, ending, ran, stillKept⟩ := ih value (fit.2 value) kept
      refine ⟨after, ending, fun bound isEnough => ?_, stillKept⟩
      rw [run, done bound isEnough]
      exact ran bound isEnough

/-- The processor has entered the kernel from the running program. -/
def Kernel.trapped (kernel : Kernel) : Kernel :=
  { kernel with esp := kernel.trapStack, userMode := false }

@[simp]
theorem Kernel.trapped_procIdFlags (kernel : Kernel) :
    kernel.trapped.procIdFlags = kernel.procIdFlags := by
  unfold trapped
  exact rfl

@[simp]
theorem Kernel.trapped_pcbAt (kernel : Kernel) : kernel.trapped.pcbAt = kernel.pcbAt := by
  unfold trapped
  exact rfl

theorem ProcessInvariant.trapped {layout : KernelLayout} {kernel : Kernel} {k : Nat}
    (holds : ProcessInvariant layout kernel (k + 1)) :
    ProcessInvariant layout kernel.trapped (k + 1) :=
  holds.moves fun live _ => holds.trapStack live

namespace Session

section Definitions

variable (layout : KernelLayout) (fs : FileSystem) (around : Surroundings)

/-- The end of a program: `_start` calls `halt` with the result of `main`, or the
handler of an exception does. -/
def finish (session : Session) (ending : Ending) : Option (Session × Int) :=
  let entered := session.enter around
  let stale := around.stale session.calls
  let done :=
    match ending with
    | .exits status => entered.kernel.halt layout fs stale (BitVec.ofInt 32 status).toNat
    | .faults message => entered.kernel.exceptionHandler layout fs stale message
  match done.2 with
  | .resumed value => some ({ entered with kernel := done.1 }, value)
  | _ => none

/-- The call of `execute` in the kernel. -/
def executed (session : Session) (command : CString) : Kernel × Outcome :=
  (session.enter around).kernel.execute layout fs (around.stale session.calls)
    (some (characters command (2 ^ 32)))

/-- The first session of a program that the call has started. -/
def child (session : Session) (command : CString) : Session :=
  { session.enter around with kernel := (session.executed layout fs around command).1.trapped }

/-- `ece391_execute`, where `body` says what a program does from its entry point on. -/
def execute (body : Nat → Session → Option (Session × Ending)) (session : Session)
    (command : CString) : Option (Session × Int) :=
  if WordsFit (characters command (2 ^ 32)) then
    let done := session.executed layout fs around command
    match done.2 with
    | .returned value => some ({ session.enter around with kernel := done.1 }, value)
    | .running entryPoint =>
        (body entryPoint (session.child layout fs around command)).bind fun ended =>
          ended.1.finish layout fs around ended.2
    | _ => none
  else none

/-- The program at an entry point, which finds in memory what it is and can start others,
down to the depth given. -/
def runNested (programs : Nat → PhysicalMemory → CallTree) :
    Nat → Nat → Session → Option (Session × Ending)
  | 0, _, _ => none
  | depth + 1, entryPoint, session =>
      (programs entryPoint session.kernel.mem).run (systemCalls fs around)
        (execute layout fs around (runNested programs depth)) session

end Definitions

end Session

/-- An image that the kernel can read: all of it lies in the kernel's page, its
entries have inodes, and no file is too large for the page of a program. -/
structure FileSystem.Resident (fs : FileSystem) : Prop where
  entries : ∀ index < 63, fs.entryInode index < fs.numInodes
  inodes : ∀ inode < fs.numInodes,
    0x400000 ≤ fs.inodePtr inode ∧ fs.inodePtr inode < 0x800000
  bytes : ∀ inode < fs.numInodes, ∀ i < fs.inodeLength inode,
    0x400000 ≤ fs.byteAddress inode i ∧ fs.byteAddress inode i < 0x800000
  headers : ∀ inode < fs.numInodes, 0 < fs.inodeLength inode → ∀ i < 28,
    0x400000 ≤ fs.byteAddress inode i ∧ fs.byteAddress inode i < 0x800000
  fits : ∀ inode < fs.numInodes, progImageVaddr + fs.inodeLength inode ≤ userImgEnd

namespace Kernel

section Resident

variable {layout : KernelLayout} {fs : FileSystem} {kernel : Kernel} {mappings : Mappings}
  {inode : Nat}

theorem loads_of_resident (represents : kernel.paging.Represents layout mappings)
    (resident : fs.Resident) (inRange : inode < fs.numInodes) :
    kernel.Loads layout fs inode := by
  have claimed := claimProcess_represents represents (show 0 ≤ 6 by omega)
  refine ⟨mapped_kernelPage claimed (resident.inodes inode inRange), fun _ i below => ?_⟩
  refine ⟨?_, mapped_kernelPage claimed (resident.bytes inode inRange i below)⟩
  have fits := resident.fits inode inRange
  simp only [progImageVaddr, userImgEnd, FileSystem.getFileSize] at fits below ⊢
  have inPage : 0x08000000 ≤ (0x08048000 + i) % 2 ^ 32 ∧
      (0x08048000 + i) % 2 ^ 32 < 0x08400000 := by omega
  have translated : (Mappings.translate { mappings with image := some 0 }
      ((0x08048000 + i) % 2 ^ 32)).isSome = true := by
    rw [Mappings.translate, if_neg (by omega), if_neg (by omega), if_pos inPage]
    rfl
  rw [← mapped_eq claimed (by omega)] at translated
  exact translated

/-- The two reads of the header do not fault. -/
theorem readContent_of_resident (represents : kernel.paging.Represents layout mappings)
    (resident : fs.Resident) (inRange : inode < fs.numInodes) {offset : Nat}
    (inHeader : offset + 4 ≤ 28) (buf : TracedMemory Nat UInt8) :
    (kernel.readContent layout fs inode offset buf).faulted = false := by
  have inodeMapped := mapped_kernelPage represents (resident.inodes inode inRange)
  by_cases atEnd : fs.inodeLength inode ≤ offset
  · rw [readContent, FileSystem.readMapped, if_neg (by simp [inodeMapped]),
      fs.readData_of_atEnd _ _ _ inRange atEnd]
  · have fits := resident.fits inode inRange
    simp only [progImageVaddr, userImgEnd] at fits
    rw [readContent, fs.readMapped_of_inside _ _ _ inRange inodeMapped (by omega) (by omega)]
    apply Copied.forUpTo_of_mapped
    intro i iLt current
    have atMost : fs.readCount inode offset minReadElfSize ≤ 4 := by
      simp only [FileSystem.readCount, minReadElfSize]
      omega
    rw [assignLocal, if_pos (mapped_kernelPage represents
      (resident.headers inode inRange (by omega) _ (by omega)))]
    rfl

/-- From a readable image, `execute` starts a program or returns. -/
theorem execute_not_pageFault (represents : kernel.paging.Represents layout mappings)
    (resident : fs.Resident) (stale : StaleLocals) (command : Option (List UInt8)) :
    (kernel.execute layout fs stale command).2 ≠ .pageFault := by
  cases command with
  | none => simp [execute]
  | some bytes =>
      obtain ⟨printed, isPrinted⟩ := kernel.exists_reported bytes
      simp only [execute, isPrinted]
      split
      · simp
      split
      · simp
      rename_i found
      have inRange : (fs.readDentryByName (parseCommand bytes).1.fileNameCommand.read
          stale.dentry).2.inodeNum < fs.numInodes := by
        cases isFound : fs.findEntry (parseCommand bytes).1.fileNameCommand.read with
        | none =>
            rw [fs.readDentryByName_of_missing stale.dentry isFound] at found
            exact absurd (show ¬(-1 : Int) = 0 by decide) found
        | some index =>
            rw [fs.readDentryByName_of_found stale.dentry isFound]
            rw [FileSystem.findEntry] at isFound
            exact resident.entries index (List.mem_range.mp (List.mem_of_find?_eq_some isFound))
      generalize (fs.readDentryByName (parseCommand bytes).1.fileNameCommand.read
        stale.dentry).2.inodeNum = inode at inRange
      have stillRepresents : (kernel.print printed).paging.Represents layout mappings :=
        represents
      unfold executeFile
      dsimp only
      rw [readContent_of_resident stillRepresents resident inRange (by omega)]
      simp only [Bool.false_eq_true, if_false]
      split
      · simp
      rw [readContent_of_resident stillRepresents resident inRange (by decide)]
      simp only [Bool.false_eq_true, if_false]
      cases free : freeProcIdFrom (kernel.print printed).procIdFlags maxProcesses 0 with
      | none =>
          rw [startProcess_of_full layout fs _ _ _ free]
          simp
      | some id =>
          obtain ⟨-, -, idLt⟩ := flag_of_freeProcIdFrom free
          simp only [maxProcesses] at idLt
          have loaded := loadFor_of_loads fs
            (loads_of_resident stillRepresents resident inRange) stillRepresents
            stillRepresents (.refl mappings) (show id ≤ 6 by omega)
          rw [startProcess_of_free layout fs _ _ _ free]
          simp only [loaded, Bool.false_eq_true, if_false]
          simp

end Resident

section Halt

variable {layout : KernelLayout} {kernel : Kernel} {k : Nat}

/-- The kernel is back in process `k`, on the stack of the call that started the
process above. -/
structure ReturnsTo (layout : KernelLayout) (k : Nat) (kernel next : Kernel) : Prop where
  holds : ProcessInvariant layout next (k + 1)
  kernelMode : next.userMode = false
  dormant : Dormant next
  esp : next.esp = (kernel.pcbAt (pcbAddress (k + 1))).ksp
  pcbs : ∀ id ≤ k, next.pcbAt (pcbAddress id) = kernel.pcbAt (pcbAddress id)

/-- `halt` of a process other than 0 goes back to its parent. -/
theorem halt_returns (holds : ProcessInvariant layout kernel (k + 2))
    (kernelMode : kernel.userMode = false) (dormant : Dormant kernel) (fs : FileSystem)
    (stale : StaleLocals) (status : Nat) :
    ∃ next, kernel.halt layout fs stale status =
        (next, .resumed (haltValue layout.haltOperands status)) ∧
      kernel.ReturnsTo layout k next := by
  have bounded := holds.bounded
  have active : kernel.activeProcNum = k + 1 := holds.active (by omega)
  have pointer : kernel.getPcbPtr = pcbAddress (k + 1) :=
    holds.getPcbPtr_eq (by omega) kernelMode
  have leaves := kernel.leaves layout
  obtain ⟨-, others⟩ := leaveProcess_pcbs layout kernel
  have current : kernel.leaveProcess.currentPcb =
      kernel.leaveProcess.pcbAt (pcbAddress (k + 1)) := by
    rw [currentPcb, getPcbPtr, leaves.esp, ← getPcbPtr, pointer]
  have saved : kernel.leaveProcess.currentPcb.ksp =
      (kernel.pcbAt (pcbAddress (k + 1))).ksp := by
    rw [current, (leaves.pcb _).2.2]
  have parent : kernel.currentPcb.parentProcNum = k := by
    rw [currentPcb, pointer]
    exact holds.parent (k + 1) (by omega)
  refine ⟨_, halt_of_child layout fs stale status (by omega), ?_⟩
  refine
    { holds := holds.leave (fun _ => ?_) fun _ => parent
      kernelMode := leaves.userMode.trans kernelMode
      dormant := (dormant.leaveProcess holds kernelMode).congr rfl rfl
      esp := saved
      pcbs := fun id idLe => others _ ?_ }
  · rw [saved]
    exact holds.saved (k + 1) (by omega) (by omega)
  · rw [pointer]
    intro same
    have := pcbAddress_injective (show id < 6 by omega) (by omega) same
    omega

end Halt

end Kernel

/-- What the assembly of `halt` tells the caller of `execute` about a program that has
ended. -/
def Ending.value (operands : HaltOperands) : Ending → Nat
  | .exits status => haltValue operands (BitVec.ofInt 32 status).toNat
  | .faults _ => haltValue operands exceptRetval

/-- The interrupts keep the processes and all PCBs. -/
def Surroundings.SparesKernel (around : Surroundings) (layout : KernelLayout) : Prop :=
  ∀ call kernel, KeepsPcbs layout kernel (around.interrupts call kernel)

theorem Surroundings.SparesKernel.sparesProcess {around : Surroundings}
    {layout : KernelLayout} (spares : around.SparesKernel layout) :
    around.SparesProcess where
  pcbAt call kernel := (spares call kernel).pcbAt
  activeProcNum call kernel := (spares call kernel).activeProcNum
  esp call kernel := (spares call kernel).esp

namespace Session

/-- The session is one of process `k`, the topmost of the live ones. -/
structure Runs (layout : KernelLayout) (k : Nat) (session : Session) : Prop where
  holds : ProcessInvariant layout session.kernel (k + 1)
  kernelMode : session.kernel.userMode = false
  dormant : Dormant session.kernel

/-- From one session of process `k` to a later one, nothing has changed for the
processes below, nor where the kernel goes on when `k` ends, and what has been shown
stays. -/
structure SameProcess (layout : KernelLayout) (k : Nat) (before after : Session) : Prop
    extends Runs layout k after where
  esp : after.kernel.esp = before.kernel.esp
  ksp : (after.kernel.pcbAt (pcbAddress k)).ksp = (before.kernel.pcbAt (pcbAddress k)).ksp
  below : ∀ id < k, after.kernel.pcbAt (pcbAddress id) = before.kernel.pcbAt (pcbAddress id)
  shown : before.shown <+: after.shown

variable {layout : KernelLayout} {fs : FileSystem} {around : Surroundings}
  {session middle after : Session} {k : Nat}

namespace Runs

/-- The session of a program that has just been entered. -/
theorem of_entered {kernel : Kernel} (holds : ProcessInvariant layout kernel (k + 1))
    (dormant : Dormant kernel) (calls : Nat) (shown : List UInt8) :
    Runs layout k ⟨kernel.trapped, calls, shown⟩ :=
  ⟨holds.trapped, rfl, dormant.congr kernel.trapped_procIdFlags kernel.trapped_pcbAt⟩

theorem kLt (runs : Runs layout k session) : k < 6 := by
  have bounded := runs.holds.bounded
  omega

theorem getPcbPtr (runs : Runs layout k session) :
    session.kernel.getPcbPtr = pcbAddress k :=
  runs.holds.getPcbPtr_eq (Nat.succ_pos k) runs.kernelMode

theorem pcb_eq (runs : Runs layout k session) :
    session.pcb = session.kernel.pcbAt (pcbAddress k) := by
  rw [pcb, Kernel.currentPcb, runs.getPcbPtr]

theorem sameProcess (runs : Runs layout k session) : SameProcess layout k session session :=
  ⟨runs, rfl, rfl, fun _ _ => rfl, List.prefix_rfl⟩

/-- What keeps the processes stays in the process. -/
theorem keeps (runs : Runs layout k session)
    (keeps : KeepsProcesses layout session.kernel after.kernel)
    (shown : session.shown <+: after.shown) : SameProcess layout k session after := by
  have kLt := runs.kLt
  have others {id : Nat} (idLt : id < 6) (different : id ≠ k) :
      after.kernel.pcbAt (pcbAddress id) = session.kernel.pcbAt (pcbAddress id) := by
    apply keeps.otherPcbs
    rw [runs.getPcbPtr]
    exact fun same => different (pcbAddress_injective idLt kLt same)
  refine
    { holds := runs.holds.keeps keeps
      kernelMode := keeps.userMode.trans runs.kernelMode
      dormant := ?_
      esp := keeps.esp
      ksp := (keeps.pcb _).2.2
      below := fun id idLt => others (by omega) (by omega)
      shown := shown }
  intro id idLt isFree
  rw [keeps.procIdFlags] at isFree
  have notRunning : id ≠ k := by
    rintro rfl
    rw [runs.holds.flags id idLt, if_pos (Nat.lt_succ_self id)] at isFree
    exact absurd isFree Nat.one_ne_zero
  rw [others idLt notRunning]
  exact runs.dormant id idLt isFree

end Runs

theorem SameProcess.trans (first : SameProcess layout k session middle)
    (second : SameProcess layout k middle after) : SameProcess layout k session after where
  toRuns := second.toRuns
  esp := second.esp.trans first.esp
  ksp := second.ksp.trans first.ksp
  below id idLt := (second.below id idLt).trans (first.below id idLt)
  shown := first.shown.trans second.shown

theorem enter_sameProcess (spares : around.SparesKernel layout)
    (runs : Runs layout k session) : SameProcess layout k session (session.enter around) :=
  runs.keeps (spares session.calls session.kernel).toKeepsProcesses List.prefix_rfl

/-- The system calls on descriptors stay in the process. -/
theorem systemCalls_keep (fs : FileSystem) (spares : around.SparesKernel layout)
    (start : Session) : (systemCalls fs around).Keep (SameProcess layout k start) := by
  have entered {current : Session} (same : SameProcess layout k start current) :
      SameProcess layout k start (current.enter around) :=
    same.trans (enter_sameProcess spares same.toRuns)
  constructor
  · intro current buf nbytes same
    exact entered same
  · intro current filename same
    exact (entered same).trans
      ((entered same).keeps (Kernel.keeps_open layout _ fs _ _) List.prefix_rfl)
  · intro current fd buf nbytes same
    exact (entered same).trans
      ((entered same).keeps (Kernel.keeps_read layout _ fs _ _ _ _ _) List.prefix_rfl)
  · intro current fd buf nbytes same
    exact (entered same).trans
      ((entered same).keeps (Kernel.keeps_write layout _ _ _ _ _) (List.prefix_append _ _))
  · intro current fd same
    exact (entered same).trans
      ((entered same).keeps (Kernel.keeps_close layout _ _) List.prefix_rfl)

/-- A program that ends goes back to the process below. -/
structure GoesBack (layout : KernelLayout) (k : Nat) (ended after : Session) : Prop
    extends Runs layout k after where
  esp : after.kernel.esp = (ended.kernel.pcbAt (pcbAddress (k + 1))).ksp
  pcbs : ∀ id ≤ k, after.kernel.pcbAt (pcbAddress id) = ended.kernel.pcbAt (pcbAddress id)
  shown : after.shown = ended.shown

theorem finish_goesBack (fs : FileSystem) (spares : around.SparesKernel layout)
    (runs : Runs layout (k + 1) session) (ending : Ending) :
    ∃ after, session.finish layout fs around ending = some
        (after, (ending.value layout.haltOperands : Int)) ∧
      GoesBack layout k session after := by
  have entered := enter_sameProcess spares runs
  have pcbs := (spares session.calls session.kernel).pcbAt
  cases ending with
  | exits status =>
      obtain ⟨next, halted, returns⟩ := Kernel.halt_returns entered.holds entered.kernelMode
        entered.dormant fs (around.stale session.calls) (BitVec.ofInt 32 status).toNat
      refine ⟨{ session.enter around with kernel := next }, ?_, ?_⟩
      · simp only [finish, halted]
        rfl
      · exact ⟨⟨returns.holds, returns.kernelMode, returns.dormant⟩,
          returns.esp.trans (congrArg Pcb.ksp (congrFun pcbs _)),
          fun id idLe => (returns.pcbs id idLe).trans (congrFun pcbs _), rfl⟩
  | faults message =>
      have keeps : KeepsPcbs layout (session.enter around).kernel
          (({ (session.enter around).kernel with faulting := false } : Kernel).print
            message) :=
        Kernel.keeps_withPeripherals layout _ _ _ false fun _ => Or.inl rfl
      obtain ⟨next, halted, returns⟩ := Kernel.halt_returns
        (entered.holds.keeps keeps.toKeepsProcesses)
        (keeps.userMode.trans entered.kernelMode)
        (entered.dormant.congr keeps.procIdFlags keeps.pcbAt) fs
        (around.stale session.calls) exceptRetval
      refine ⟨{ session.enter around with kernel := next }, ?_, ?_⟩
      · simp only [finish, Kernel.exceptionHandler, halted]
        rfl
      · exact ⟨⟨returns.holds, returns.kernelMode, returns.dormant⟩,
          returns.esp.trans (congrArg Pcb.ksp (congrFun pcbs _)),
          fun id idLe => (returns.pcbs id idLe).trans (congrFun pcbs _), rfl⟩

/-- A program has been entered in the process above, with the terminal as its only open
file, and the kernel knows where the caller waits. -/
structure Starts (layout : KernelLayout) (k : Nat) (session child : Session) : Prop
    extends Runs layout (k + 1) child where
  saved : (child.kernel.pcbAt (pcbAddress (k + 1))).ksp = session.kernel.esp
  pcbs : ∀ id ≤ k, child.kernel.pcbAt (pcbAddress id) = session.kernel.pcbAt (pcbAddress id)
  fresh : child.pcb.FreshTable
  shown : child.shown = session.shown

/-- `execute` returns at once, or a program is entered. -/
theorem execute_enters (resident : fs.Resident) (spares : around.SparesKernel layout)
    (runs : Runs layout k session) (command : CString) :
    let done := session.executed layout fs around command
    (done.2 = .returned (-1) ∧
      SameProcess layout k session { session.enter around with kernel := done.1 } ∧
      done.1.pcbAt = session.kernel.pcbAt) ∨
    ∃ entryPoint, done.2 = .running entryPoint ∧
      Starts layout k session (session.child layout fs around command) := by
  intro done
  have same : SameProcess layout k session (session.enter around) :=
    enter_sameProcess spares runs
  have pcbs : (session.enter around).kernel.pcbAt = session.kernel.pcbAt :=
    (spares session.calls session.kernel).pcbAt
  obtain ⟨mappings, represents⟩ := same.holds.represents
  have noFault : done.2 ≠ .pageFault :=
    Kernel.execute_not_pageFault represents resident _ _
  have started : StartsFresh (session.enter around).kernel done :=
    same.dormant.execute layout fs _ _
  have cases : (session.enter around).kernel.ExecuteCases layout fs
      (around.stale session.calls) (some (characters command (2 ^ 32))) done :=
    Kernel.execute_cases layout fs _ _ _
  unfold child
  rw [show session.executed layout fs around command = done from rfl]
  generalize done = result at noFault started cases ⊢
  have shown : (session.enter around).shown = session.shown := rfl
  generalize session.enter around = entered at same pcbs shown started cases ⊢
  cases cases with
  | refused bytes =>
      exact Or.inl ⟨rfl, same.trans (same.keeps
        (Kernel.keeps_print layout _ bytes).toKeepsProcesses List.prefix_rfl), pcbs⟩
  | headerFault bytes => exact absurd rfl noFault
  | loadFault bytes inode id program isFree faulted => exact absurd rfl noFault
  | started bytes inode id entryPoint arg program isFree loaded =>
      have free := same.holds.freeProcId_eq
      rw [Kernel.freeProcId, isFree] at free
      split at free
      · rename_i below
        obtain rfl : id = k + 1 := Option.some.inj free
        have holds := same.holds.enterProgram same.kernelMode below bytes
          ((entered.kernel.print bytes).loadFor layout fs (k + 1) inode).memory arg
        have entersAt := entered.kernel.entered_pcbAt bytes (k + 1)
          ((entered.kernel.print bytes).loadFor layout fs (k + 1) inode).memory arg
        generalize ((entered.kernel.print bytes).loadFor layout fs (k + 1) inode).memory = mem
          at holds entersAt started ⊢
        refine Or.inr ⟨entryPoint, rfl, ?_⟩
        have childRuns : Runs layout (k + 1)
            { entered with
              kernel := ((entered.kernel.loadedFor bytes (k + 1) mem).enterProgram (k + 1)
                arg).trapped } :=
          .of_entered holds started.dormant _ _
        have own := entersAt (pcbAddress (k + 1))
        rw [if_pos rfl] at own
        exact
          { toRuns := childRuns
            saved := by
              refine (congrArg Pcb.ksp own).trans ?_
              rw [Kernel.newPcb_ksp]
              exact same.esp
            pcbs := fun id idLe => by
              refine (entersAt (pcbAddress id)).trans ?_
              rw [if_neg fun equal => ?_, pcbs]
              have := pcbAddress_injective (show id < 6 by omega) below equal
              omega
            fresh := childRuns.pcb_eq ▸ started.fresh entryPoint rfl
            shown := shown }
      · exact absurd free (by simp)

/-- What a call of `execute` has come to, by its value: the kernel has refused the
command, or a program was started, ran to its end and gave its status. -/
inductive Called (layout : KernelLayout) (fs : FileSystem) (around : Surroundings) (k : Nat)
    (runsTo : Nat → Session → Session × Ending → Prop) (session : Session)
    (command : CString) (after : Session) : Int → Prop
  | refused (refused : (session.executed layout fs around command).2 = .returned (-1))
      (shown : after.shown = session.shown) :
      Called layout fs around k runsTo session command after (-1)
  | ended {entryPoint : Nat} {left : Session} {ending : Ending}
      (running : (session.executed layout fs around command).2 = .running entryPoint)
      (starts : Starts layout k session (session.child layout fs around command))
      (ran : runsTo entryPoint (session.child layout fs around command) (left, ending))
      (stays : SameProcess layout (k + 1) (session.child layout fs around command) left)
      (shown : after.shown = left.shown) :
      Called layout fs around k runsTo session command after
        (ending.value layout.haltOperands)

theorem Called.mono {runsTo weaker : Nat → Session → Session × Ending → Prop}
    {command : CString} {value : Int}
    (implies : ∀ entryPoint child result,
      runsTo entryPoint child result → weaker entryPoint child result)
    (called : Called layout fs around k runsTo session command after value) :
    Called layout fs around k weaker session command after value := by
  cases called with
  | refused refused shown => exact .refused refused shown
  | ended running starts ran stays shown =>
      exact .ended running starts (implies _ _ _ ran) stays shown

/-- Where the programs that can be started return, `execute` returns, and nothing has
changed for the caller. -/
theorem execute_returns_of (resident : fs.Resident) (spares : around.SparesKernel layout)
    (runs : Runs layout k session)
    {bodies : Nat → Nat → Session → Option (Session × Ending)} {enough : Nat}
    {command : CString} (fits : WordsFit (characters command (2 ^ 32)))
    (returns : ∀ entryPoint,
      (session.executed layout fs around command).2 = .running entryPoint →
      Starts layout k session (session.child layout fs around command) →
      ∃ result : Session × Ending,
        (∀ depth, enough ≤ depth →
          bodies depth entryPoint (session.child layout fs around command) = some result) ∧
        SameProcess layout (k + 1) (session.child layout fs around command) result.1) :
    ∃ after value,
      (∀ depth, enough ≤ depth →
        session.execute layout fs around (bodies depth) command = some (after, value)) ∧
      SameProcess layout k session after ∧ after.pcb = session.pcb ∧
      Called layout fs around k
        (fun entryPoint child result =>
          ∀ depth, enough ≤ depth → bodies depth entryPoint child = some result)
        session command after value := by
  rcases execute_enters resident spares runs command with
    ⟨refused, same, pcbs⟩ | ⟨entryPoint, running, starts⟩
  · refine ⟨_, -1, fun _ _ => ?_, same, ?_, .refused refused rfl⟩
    · simp only [execute, if_pos fits, refused]
    · rw [same.pcb_eq, runs.pcb_eq, pcbs]
  · obtain ⟨⟨left, ending⟩, ran, stays⟩ := returns entryPoint running starts
    obtain ⟨after, finished, goesBack⟩ := finish_goesBack fs spares stays.toRuns ending
    have pcbs (id : Nat) (idLe : id ≤ k) : after.kernel.pcbAt (pcbAddress id) =
        session.kernel.pcbAt (pcbAddress id) :=
      (goesBack.pcbs id idLe).trans
        ((stays.below id (by omega)).trans (starts.pcbs id idLe))
    refine ⟨after, ending.value layout.haltOperands, fun depth isEnough => ?_, ?_, ?_,
      .ended running starts ran stays goesBack.shown⟩
    · simp only [execute, if_pos fits, running, ran depth isEnough, Option.bind_some,
        finished]
    · exact
        { toRuns := goesBack.toRuns
          esp := goesBack.esp.trans (stays.ksp.trans starts.saved)
          ksp := congrArg Pcb.ksp (pcbs k (Nat.le_refl k))
          below := fun id idLt => pcbs id (Nat.le_of_lt idLt)
          shown := by
            rw [goesBack.shown, ← starts.shown]
            exact stays.shown }
    · rw [goesBack.pcb_eq, runs.pcb_eq, pcbs k (Nat.le_refl k)]

/-- A program in process `k` returns, whatever programs it starts and however deep they
start each other: there is no seventh process. -/
theorem runNested_returns (resident : fs.Resident) (spares : around.SparesKernel layout)
    {programs : Nat → PhysicalMemory → CallTree}
    (fit : ∀ entryPoint mem, (programs entryPoint mem).CommandsFit)
    (runs : Runs layout k session) (entryPoint : Nat) :
    ∃ result : Session × Ending,
      (∀ depth, 6 - k ≤ depth →
        runNested layout fs around programs depth entryPoint session = some result) ∧
      SameProcess layout k session result.1 := by
  induction isRoom : 6 - k generalizing k session entryPoint with
  | zero =>
      have kLt := runs.kLt
      omega
  | succ room ih =>
      obtain ⟨ended, ending, ran, same⟩ := @CallTree.run_keeps _ (systemCalls fs around)
        (fun depth => execute layout fs around (runNested layout fs around programs depth))
        room _ (systemCalls_keep fs spares session)
        (fun current command fits same => by
          obtain ⟨after, value, done, stays, -⟩ := execute_returns_of resident spares
            same.toRuns fits fun entryPoint _ starts => ih starts.toRuns entryPoint (by omega)
          exact ⟨after, value, done, same.trans stays⟩)
        (programs entryPoint session.kernel.mem) (fit _ _) _ runs.sameProcess
      refine ⟨(ended, ending), fun depth isEnough => ?_, same⟩
      obtain ⟨depth, rfl⟩ : ∃ less, depth = less + 1 := ⟨depth - 1, by omega⟩
      exact ran depth (by omega)

theorem Starts.returns {child : Session} (starts : Starts layout k session child)
    (resident : fs.Resident) (spares : around.SparesKernel layout)
    {programs : Nat → PhysicalMemory → CallTree}
    (fit : ∀ entryPoint mem, (programs entryPoint mem).CommandsFit) (entryPoint : Nat) :
    ∃ result : Session × Ending,
      (∀ depth, 5 - k ≤ depth →
        runNested layout fs around programs depth entryPoint child = some result) ∧
      SameProcess layout (k + 1) child result.1 := by
  rw [show 5 - k = 6 - (k + 1) by omega]
  exact runNested_returns resident spares fit starts.toRuns entryPoint

end Session

end ChapOS
