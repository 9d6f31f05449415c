import ChapOS.Devices
import ChapOS.FileSystem
import ChapOS.Keyboard
import ChapOS.Paging

/-!
# The state of the kernel

Process control blocks and their descriptor tables, the saved terminals, and
the machine registers the system calls depend on.
-/

namespace ChapOS

@[simp] abbrev maxProcesses : Nat := 6
@[simp] abbrev maxFiles : Nat := 8
@[simp] abbrev maxOpenFile : Nat := 8
@[simp] abbrev minOpenFile : Nat := 2
@[simp] abbrev maxFileSize : Nat := 32
@[simp] abbrev flagActive : Nat := 1
@[simp] abbrev flagInactive : Nat := 0
@[simp] abbrev fileTypeDir : Nat := 1
@[simp] abbrev fileTypeFile : Nat := 2
@[simp] abbrev fdsStdinIdx : Nat := 0
@[simp] abbrev fdsStdoutIdx : Nat := 1
@[simp] abbrev kernelDs : Nat := 0x18

/-- The operation tables a descriptor can point to. -/
inductive FileOps where
  | rtcOpsTbl
  | fileOpsTbl
  | dirOpsTbl
  | stdinOpsTbl
  | stdoutOpsTbl
  | noFileOps
  deriving DecidableEq, Repr

/-- `file_desc_t`. -/
structure FileDesc where
  fopsJmpTbPtr : FileOps
  inode : Nat
  filePos : Nat
  flags : Nat
  deriving DecidableEq, Repr

/-- The fields of `pcb_t` that are used. -/
structure Pcb where
  fDescs : Nat → FileDesc
  argBuff : CString
  fNames : Nat → CString
  procNum : Nat
  ksp : Nat
  kbp : Nat
  parentProcNum : Nat
  parentKsp : Nat
  parentKbp : Nat

/-- The fields of `term_t` that are used; all but the last are bytes. -/
structure Term where
  termId : Nat
  activeFlag : Bool
  termVidMem : Nat
  x : Nat
  y : Nat
  bufferIndex : Nat
  isInUseFlag : Bool
  deriving DecidableEq, Repr

/-- The kernel: its statics, the PCBs by address, and the registers ESP and
EBP in kernel mode.  `userMode` says that the processor runs the program, and
`faulting` that a page fault of the kernel waits for its handler. -/
structure Kernel where
  tty : Tty
  terminals : Nat → Term
  paging : Paging
  procIdFlags : Nat → Nat
  activeProcNum : Nat
  pcbAt : Nat → Pcb
  tssEsp0 : Nat
  tssSs0 : Nat
  devices : Devices
  esp : Nat
  ebp : Nat
  userMode : Bool
  faulting : Bool

/-- `PAGE_8MB - STACK_8KB*(process_id + 1)`. -/
@[irreducible]
def pcbAddress (processId : Nat) : Nat :=
  page8MB - stack8KB * (processId + 1)

/-- `PAGE_8MB - STACK_8KB*proc_num`, the slot above. -/
@[irreducible]
def parentPcbAddress (procNum : Nat) : Nat :=
  page8MB - stack8KB * procNum

namespace Pcb

/-- Overwrite one descriptor. -/
def setDesc (pcb : Pcb) (fd : Nat) (desc : FileDesc) : Pcb :=
  { pcb with fDescs := Function.update pcb.fDescs fd desc }

@[simp]
theorem setDesc_fDescs_self (pcb : Pcb) (fd : Nat) (desc : FileDesc) :
    (pcb.setDesc fd desc).fDescs fd = desc := by
  simp [setDesc]

theorem setDesc_fDescs_of_ne (pcb : Pcb) {fd other : Nat} (desc : FileDesc)
    (different : other ≠ fd) :
    (pcb.setDesc fd desc).fDescs other = pcb.fDescs other := by
  simp [setDesc, different]

end Pcb

namespace Kernel

/-- The kernel as it is loaded, every static zero, with ESP on the boot stack. -/
def loaded : Kernel where
  tty :=
    { keyboard :=
        { keyboardMode := .pressNothing
          ctrlFlag := false
          altFlag := false
          bufferKey := fun _ => ⟨fun _ => 0, []⟩
          bufferIndex := 0
          returnFlag := false
          curTermId := 0 }
      console :=
        { mem := ⟨fun _ => 0, []⟩
          screenX := 0
          screenY := 0
          cursorLocation := 0 } }
  terminals _ := ⟨0, false, 0, 0, 0, 0, false⟩
  paging := ⟨fun _ => 0, fun _ => 0, fun _ => 0⟩
  procIdFlags _ := 0
  activeProcNum := 0
  pcbAt _ :=
    { fDescs := fun _ => ⟨.noFileOps, 0, 0, 0⟩
      argBuff := fun _ => 0
      fNames := fun _ _ => 0
      procNum := 0
      ksp := 0
      kbp := 0
      parentProcNum := 0
      parentKsp := 0
      parentKbp := 0 }
  tssEsp0 := page8MB
  tssSs0 := kernelDs
  devices := ⟨0xFF, 0xFF, ⟨0xFF, 0, 0⟩, ⟨0xFF, 0, 0⟩, 0, 0, false⟩
  esp := page8MB - 0x100
  ebp := page8MB - 0x80
  userMode := false
  faulting := false

/-- `get_pcb_ptr`. -/
def getPcbPtr (kernel : Kernel) : Nat :=
  kernel.esp &&& pcbMask

/-- The PCB that `get_pcb_ptr` points to. -/
def currentPcb (kernel : Kernel) : Pcb :=
  kernel.pcbAt kernel.getPcbPtr

/-- Overwrite the PCB at an address. -/
def setPcb (kernel : Kernel) (address : Nat) (pcb : Pcb) : Kernel :=
  { kernel with pcbAt := Function.update kernel.pcbAt address pcb }

@[simp]
theorem setPcb_currentPcb (kernel : Kernel) (pcb : Pcb) :
    (kernel.setPcb kernel.getPcbPtr pcb).currentPcb = pcb := by
  simp [setPcb, currentPcb, getPcbPtr]

/-- Overwrite one descriptor of the current PCB. -/
def setDesc (kernel : Kernel) (fd : Nat) (desc : FileDesc) : Kernel :=
  kernel.setPcb kernel.getPcbPtr (kernel.currentPcb.setDesc fd desc)

@[simp]
theorem setDesc_currentPcb (kernel : Kernel) (fd : Nat) (desc : FileDesc) :
    (kernel.setDesc fd desc).currentPcb = kernel.currentPcb.setDesc fd desc :=
  kernel.setPcb_currentPcb _

/-- The kernel with other device registers. -/
def setDevices (kernel : Kernel) (devices : Devices) : Kernel :=
  { kernel with devices := devices }

@[simp]
theorem setDevices_currentPcb (kernel : Kernel) (devices : Devices) :
    (kernel.setDevices devices).currentPcb = kernel.currentPcb :=
  rfl

/-- The kernel with another keyboard and console. -/
def setTty (kernel : Kernel) (tty : Tty) : Kernel :=
  { kernel with tty := tty }

@[simp]
theorem setTty_currentPcb (kernel : Kernel) (tty : Tty) :
    (kernel.setTty tty).currentPcb = kernel.currentPcb :=
  rfl

/-- The kernel with another console. -/
def setConsole (kernel : Kernel) (console : Console) : Kernel :=
  kernel.setTty { kernel.tty with console := console }

@[simp]
theorem setConsole_currentPcb (kernel : Kernel) (console : Console) :
    (kernel.setConsole console).currentPcb = kernel.currentPcb :=
  rfl

/-- Print through `putc`. -/
def print (kernel : Kernel) (bytes : List UInt8) : Kernel :=
  kernel.setConsole (kernel.tty.console.putAll bytes)

/-- `printf` of a format without conversion specifications. -/
def printfPlain (kernel : Kernel) (format : String) : Kernel :=
  kernel.setConsole (kernel.tty.console.printfPlain format)

/-- Physical memory. -/
def mem (kernel : Kernel) : PhysicalMemory :=
  kernel.tty.console.mem

/-- The kernel with another physical memory. -/
def setMem (kernel : Kernel) (mem : PhysicalMemory) : Kernel :=
  kernel.setConsole { kernel.tty.console with mem := mem }

end Kernel

end ChapOS
