import ChapOS.CommandLine
import ChapOS.SystemCalls

/-!
# The process system calls of `system_call.c`

`execute` and `halt` with what they call: the header check, the process slots,
the loader, the PCB of the new process and the switch back to its parent.  Every
copy goes through the page tables, so it can end in a page fault.
-/

namespace ChapOS

open CountedLoops

@[simp] abbrev asciiElf : Nat := 0x7F454C46
@[simp] abbrev entryPtwStart : Nat := 24
@[simp] abbrev exceptRetval : Nat := 1

/-- `strcpy`: the bytes up to the first NUL of the source, and that NUL. -/
def strcpy (dest src : CString) : CString :=
  fun i => if ∃ j < i, src j = 0 then dest i else src i

/-- Memory that is copied into until a page fault stops the copy. -/
structure Copied (Memory : Type) where
  memory : Memory
  faulted : Bool

/-- One assignment of a copy; `none` is a page fault. -/
def Copied.assign {Memory : Type} (assign : Nat → Nat → Memory → Option Memory)
    (i source : Nat) (copied : Copied Memory) : Copied Memory :=
  if copied.faulted then copied
  else
    match assign i source copied.memory with
    | none => ⟨copied.memory, true⟩
    | some memory => ⟨memory, false⟩

/-- `read_data` with its value dropped, where `mapped` says which addresses can
be read. -/
def FileSystem.readMapped {Memory : Type} (fs : FileSystem) (mapped : Nat → Bool)
    (assign : Nat → Nat → Memory → Option Memory) (inode offset : Nat)
    (memory : Memory) (length : Nat) : Copied Memory :=
  if inode < fs.numInodes ∧ mapped (fs.inodePtr inode) = false then ⟨memory, true⟩
  else (fs.readData (Copied.assign assign) inode offset ⟨memory, false⟩ length).2

/-- How a kernel function is left. -/
inductive Outcome where
  /-- It returns to its caller. -/
  | returned (value : Int)
  /-- The processor enters a program at its entry point. -/
  | running (entryPoint : Nat)
  /-- The `execute` call that started the halted process returns the value. -/
  | resumed (value : Nat)
  /-- A page fault stops it. -/
  | pageFault
  deriving DecidableEq, Repr

namespace Kernel

/-- Stop at a page fault. -/
def fault (kernel : Kernel) : Kernel :=
  { kernel with faulting := true }

/-- The kernel with other page tables. -/
def setPaging (kernel : Kernel) (paging : Paging) : Kernel :=
  { kernel with paging := paging }

/-- `proc_id_flags[id] = flag`. -/
def setProcIdFlag (kernel : Kernel) (id flag : Nat) : Kernel :=
  { kernel with procIdFlags := Function.update kernel.procIdFlags id flag }

/-- The address is mapped. -/
def mapped (layout : KernelLayout) (kernel : Kernel) (linear : Nat) : Bool :=
  (kernel.paging.walk layout linear).isSome

/-- `buf[i] = *source` for a local array. -/
def assignLocal (layout : KernelLayout) (fs : FileSystem) (kernel : Kernel)
    (i source : Nat) (buf : TracedMemory Nat UInt8) :
    Option (TracedMemory Nat UInt8) :=
  if kernel.mapped layout source then some (buf.store i (fs.mem source)) else none

/-- `buf[i] = *source` for an array at a linear address. -/
def assignLinear (layout : KernelLayout) (fs : FileSystem) (kernel : Kernel)
    (buf i source : Nat) (mem : PhysicalMemory) : Option PhysicalMemory :=
  if kernel.mapped layout source then
    (kernel.paging.walk layout ((buf + i) % 2 ^ 32)).map fun translation =>
      mem.store translation.physical (fs.mem source)
  else none

/-- The first four bytes of a file, or those at `offset`, read into
`f_content_buf`. -/
def readContent (layout : KernelLayout) (fs : FileSystem) (kernel : Kernel)
    (inode offset : Nat) (buf : TracedMemory Nat UInt8) :
    Copied (TracedMemory Nat UInt8) :=
  fs.readMapped (kernel.mapped layout) (kernel.assignLocal layout fs) inode offset buf
    minReadElfSize

/-- `f_content`: the bytes of `f_content_buf` shifted and or-ed together, first byte
first. -/
def contentWord (buf : Nat → UInt8) : Nat :=
  let byte (i : Nat) : BitVec 32 := BitVec.ofNat 32 (buf i).toNat
  let shifted := forUpTo (minReadElfSize - 1)
    (fun i content => (content ||| byte i) <<< 8) (0 : BitVec 32)
  (shifted ||| byte (minReadElfSize - 1)).toNat

/-- The scan of `gen_new_proc_id` from id `i`, with `remaining` ids to go. -/
def freeProcIdFrom (flags : Nat → Nat) : Nat → Nat → Option Nat
  | 0, _ => none
  | remaining + 1, i =>
      if flags i = 0 then some i else freeProcIdFrom flags remaining (i + 1)

/-- `gen_new_proc_id`. -/
def genNewProcId (kernel : Kernel) : Kernel × Int :=
  match freeProcIdFrom kernel.procIdFlags maxProcesses 0 with
  | none => (kernel, -1)
  | some id => (kernel.setProcIdFlag id 1, id)

/-- Load a program into the image page. -/
def loadProgram (layout : KernelLayout) (fs : FileSystem) (kernel : Kernel)
    (inode : Nat) : Copied PhysicalMemory :=
  if kernel.mapped layout (fs.inodePtr inode) then
    fs.readMapped (kernel.mapped layout) (kernel.assignLinear layout fs progImageVaddr)
      inode 0 kernel.mem (fs.getFileSize inode)
  else ⟨kernel.mem, true⟩

/-- The initial `tss.esp0` of a process. -/
def kernelStackTop (processId : Nat) : Nat :=
  (page8MB + 2 ^ 32 - (stack8KB * processId + 4) % 2 ^ 32) % 2 ^ 32

/-- The PCB that `execute` fills in at the slot of the new process. -/
def newPcb (kernel : Kernel) (id : Nat) (arg : CString) : Pcb :=
  let old := kernel.pcbAt (pcbAddress id)
  let stdin := { old.fDescs fdsStdinIdx with
    flags := flagActive, fopsJmpTbPtr := FileOps.stdinOpsTbl }
  let stdout := { old.fDescs fdsStdoutIdx with
    flags := flagActive, fopsJmpTbPtr := FileOps.stdoutOpsTbl }
  let opened := (old.setDesc fdsStdinIdx stdin).setDesc fdsStdoutIdx stdout
  let filled : Pcb :=
    { opened with
      procNum := id
      kbp := kernel.ebp
      ksp := kernel.esp
      argBuff := strcpy old.argBuff arg }
  if id = 0 then
    { filled with
      parentProcNum := id
      parentKsp := kernel.esp
      parentKbp := kernel.ebp }
  else
    let parent := kernel.pcbAt (parentPcbAddress id)
    { filled with
      parentProcNum := parent.procNum
      parentKsp := parent.ksp
      parentKbp := parent.kbp }

/-- The end of `execute`: set up the PCB and enter the program. -/
def enterProgram (kernel : Kernel) (id : Nat) (arg : CString) : Kernel :=
  { kernel.setPcb (pcbAddress id) (kernel.newPcb id arg) with
    activeProcNum := id
    tssSs0 := kernelDs
    tssEsp0 := kernelStackTop id
    userMode := true }

/-- `execute` from the call of `gen_new_proc_id` on. -/
def startProcess (layout : KernelLayout) (fs : FileSystem) (kernel : Kernel)
    (inode entryPoint : Nat) (arg : CString) : Kernel × Outcome :=
  let claimed := kernel.genNewProcId
  if claimed.2 = -1 then (kernel.printfPlain "Too many processes\n", .returned (-1))
  else
    let mapping := claimed.1.setPaging (claimed.1.paging.mapUserImgPage claimed.2).1
    let loaded := mapping.loadProgram layout fs inode
    let filled := mapping.setMem loaded.memory
    if loaded.faulted then (filled.fault, .pageFault)
    else (filled.enterProgram claimed.2.toNat arg, .running entryPoint)

/-- `execute` once the file is found: the header check and the start. -/
def executeFile (layout : KernelLayout) (fs : FileSystem) (stale : StaleLocals)
    (kernel : Kernel) (inode : Nat) (arg : CString) : Kernel × Outcome :=
  let header := kernel.readContent layout fs inode 0 (freshBuffer stale.contentBuf)
  if header.faulted then (kernel.fault, .pageFault)
  else if contentWord header.memory.read ≠ asciiElf then
    (kernel.printfPlain " \n", .returned (-1))
  else
    let entry := kernel.readContent layout fs inode entryPtwStart header.memory
    if entry.faulted then (kernel.fault, .pageFault)
    else
      kernel.startProcess layout fs inode (firstWord entry.memory.read).toNat arg

/-- `execute`.  `command` is `none` for a NULL pointer. -/
def execute (layout : KernelLayout) (fs : FileSystem) (stale : StaleLocals)
    (kernel : Kernel) (command : Option (List UInt8)) : Kernel × Outcome :=
  match command with
  | none => (kernel, .returned (-1))
  | some bytes =>
      let parsed := parseCommand bytes
      let reported :=
        if parsed.2 = .argSpace then kernel.printfPlain "See arg Space\n" else kernel
      if parsed.2 = .refused then (kernel, .returned (-1))
      else
        let found := fs.readDentryByName parsed.1.fileNameCommand.read stale.dentry
        if found.1 ≠ 0 then (reported, .returned (-1))
        else
          reported.executeFile layout fs stale found.2.inodeNum
            parsed.1.argCommand.read

/-- The command that restarts a shell. -/
def shellCommand : Option (List UInt8) :=
  some ("shell".toList.map fun c => UInt8.ofNat c.toNat)

/-- The body of the loop of `halt` that closes the files. -/
def haltSlot (i : Nat) (kernel : Kernel) : Kernel :=
  let closed :=
    if (kernel.currentPcb.fDescs i).flags = flagActive then (kernel.close i).1
    else kernel
  closed.setDesc i
    { closed.currentPcb.fDescs i with fopsJmpTbPtr := .noFileOps }

/-- `halt` up to the switch back: free the slot, close all files, and go back to
the parent's id, image and kernel stack. -/
def leaveProcess (kernel : Kernel) : Kernel :=
  let freed := kernel.setProcIdFlag kernel.activeProcNum flagInactive
  let closed := forUpTo maxFiles haltSlot freed
  let parent := closed.currentPcb.parentProcNum
  let switched := closed.setPaging (closed.paging.mapUserImgPage parent).1
  { switched with
    activeProcNum := parent
    tssEsp0 := kernelStackTop parent }

/-- The end of a function that calls `execute` and returns 0. -/
def returnZero (done : Kernel × Outcome) : Kernel × Outcome :=
  match done.2 with
  | .returned _ => (done.1, .returned 0)
  | _ => done

/-- `halt`.  The assembly reads no other register than the operands. -/
def halt (layout : KernelLayout) (fs : FileSystem) (stale : StaleLocals)
    (kernel : Kernel) (status : Nat) : Kernel × Outcome :=
  let left := kernel.leaveProcess
  if kernel.activeProcNum = 0 then
    returnZero (left.execute layout fs stale shellCommand)
  else
    let pcb := left.currentPcb
    let registers := ((HaltRegisters.mk (fun _ => 0) left.ebp left.esp).load
      layout.haltOperands (status % 256) pcb.kbp pcb.ksp).haltAssembly layout.haltOperands
    ({ left with esp := registers.esp, ebp := registers.ebp },
      .resumed (registers.operand .eax))

/-- An exception handler, entered by the fault it handles: print the message and
halt. -/
def exceptionHandler (layout : KernelLayout) (fs : FileSystem) (stale : StaleLocals)
    (kernel : Kernel) (message : List UInt8) : Kernel × Outcome :=
  (({ kernel with faulting := false } : Kernel).print message).halt layout fs stale
    exceptRetval

end Kernel

end ChapOS
