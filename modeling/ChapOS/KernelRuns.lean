import ChapOS.LabelledRuns
import ChapOS.Terminals

/-!
# Runs of the kernel

The kernel is entered from programs by system calls, exceptions and interrupts.
Each event below is one such entry, one function called with interrupts
disabled, or a step of the program that runs; a run is any sequence of events
the processor admits.
-/

namespace ChapOS

/-- One step of the processor.  The functions that call `execute` carry the
contents of its uninitialised locals. -/
inductive Event where
  /-- A program enters the kernel. -/
  | trap
  /-- The kernel returns to the program. -/
  | iret
  /-- The kernel pushes, pops, calls or returns. -/
  | moveStack (esp ebp : Nat)
  | initTerminals (stale : StaleLocals)
  | execute (command : Option (List UInt8)) (stale : StaleLocals)
  | halt (status : Nat) (stale : StaleLocals)
  | exception (message : List UInt8) (stale : StaleLocals)
  | fileCall (call : FileRequest) (stale : StaleLocals)
  | vidmap (screenStart : Nat)
  | keyboard (key : Nat) (stale : StaleLocals)
  | rtcInterrupt
  | pitInterrupt
  | print (bytes : List UInt8)
  | terminalSave (id : Nat)
  | terminalRestore (id : Nat)
  /-- The program stores a byte. -/
  | userStore (linear : Nat) (value : UInt8)

namespace Kernel

/-- `entry` up to the call of `init_terminals`; `report` is what it prints about
the machine before. -/
def entry (layout : KernelLayout) (report : List UInt8) (kernel : Kernel) : Kernel :=
  let cleared := (kernel.setConsole kernel.tty.console.clear).print report
  let started :=
    (cleared.setTty cleared.tty.initializeClearBuffer).setDevices
      (((cleared.devices.i8259Init.rtcInit).enableIrq pitIrq).openKeyboard)
  let enabled := started.printfPlain "Enabling Interrupts\n"
  { enabled.setPaging (enabled.paging.initializePaging layout) with
    tssSs0 := kernelDs
    tssEsp0 := page8MB }

/-- The address of ESP after the processor has switched to the kernel stack and
pushed the five words of an interrupt frame. -/
def trapStack (kernel : Kernel) : Nat :=
  (kernel.tssEsp0 + 2 ^ 32 - 20) % 2 ^ 32

/-- A program may store through a translation. -/
def userWritable (translation : PageWalk.Translation) : Bool :=
  translation.userLevel && translation.writable

/-- A store of the program; one that is not allowed changes nothing, and the
program traps. -/
def userStore (layout : KernelLayout) (kernel : Kernel) (linear : Nat)
    (value : UInt8) : Kernel :=
  match kernel.paging.walk layout linear with
  | none => kernel
  | some translation =>
      if userWritable translation then
        kernel.setMem (kernel.mem.store translation.physical value)
      else kernel

/-- What a function leaves that returns a value or stops at a page fault. -/
def finished (done : Kernel × Int) : Kernel × Outcome :=
  (done.1, if done.1.faulting then .pageFault else .returned done.2)

/-- The kernel functions that events call. -/
def handle (layout : KernelLayout) (fs : FileSystem) (kernel : Kernel) :
    Event → Kernel × Outcome
  | .trap =>
      ({ kernel with esp := kernel.trapStack, userMode := false }, .returned 0)
  | .iret => ({ kernel with userMode := true }, .returned 0)
  | .moveStack esp ebp => ({ kernel with esp := esp, ebp := ebp }, .returned 0)
  | .initTerminals stale => kernel.initTerminals layout fs stale
  | .execute command stale => kernel.execute layout fs stale command
  | .halt status stale => kernel.halt layout fs stale status
  | .exception message stale => kernel.exceptionHandler layout fs stale message
  | .fileCall request stale =>
      finished (kernel.fileCall fs ⟨request.wokenIn kernel.tty, stale⟩)
  | .vidmap screenStart => finished (kernel.vidmap layout screenStart)
  | .keyboard key stale => kernel.keyboardIntHandler layout fs stale key
  | .rtcInterrupt =>
      (kernel.setDevices kernel.devices.rtcIrqHandler, .returned 0)
  | .pitInterrupt =>
      (kernel.setDevices (kernel.devices.sendEoi pitIrq), .returned 0)
  | .print bytes => (kernel.print bytes, .returned 0)
  | .terminalSave id => finished (kernel.terminalSave layout id)
  | .terminalRestore id => finished (kernel.terminalRestore layout id)
  | .userStore linear value => (kernel.userStore layout linear value, .returned 0)

/-- Whether the processor admits an event.  A pending page fault is handled
first; a program only traps and stores; only processes have descriptors; the
kernel's stack pointers stay in their 8KB block. -/
def Admits (kernel : Kernel) : Event → Prop
  | .trap | .userStore _ _ => kernel.faulting = false ∧ kernel.userMode = true
  | .moveStack esp ebp =>
      kernel.faulting = false ∧ kernel.userMode = false ∧
        esp / stack8KB = kernel.esp / stack8KB ∧ ebp / stack8KB = kernel.esp / stack8KB
  | .exception _ _ => kernel.userMode = false
  | .fileCall _ _ =>
      kernel.faulting = false ∧ kernel.userMode = false ∧
        ∃ id < maxProcesses, kernel.procIdFlags id ≠ 0
  | _ => kernel.faulting = false ∧ kernel.userMode = false

/-- The step relation of the kernel; its labels are the events with how they are
left. -/
def Step (layout : KernelLayout) (fs : FileSystem) (kernel : Kernel)
    (label : Event × Outcome) (next : Kernel) : Prop :=
  kernel.Admits label.1 ∧ kernel.handle layout fs label.1 = (next, label.2)

end Kernel

end ChapOS
