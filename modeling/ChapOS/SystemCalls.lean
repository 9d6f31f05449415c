import ChapOS.Kernel

/-!
# The descriptor system calls of `system_call.c`

`open`, `read`, `write` and `close` go through the operation table of a
descriptor.  A read of the terminal is given the state in which its wait for
the next line ends.
-/

namespace ChapOS

/-- Bytes of a string literal in the source. -/
def literal (text : String) : CString :=
  cString (text.toList.map fun c => UInt8.ofNat c.toNat)

/-- What the uninitialised locals of the kernel functions hold: the `dentry_t`
entries, `f_content_buf` of `execute` and `rate` of `rtc_write`. -/
structure StaleLocals where
  dentry : Dentry
  contentBuf : Nat → UInt8
  rate : Nat

/-- The locals on a stack that holds only zeros. -/
def StaleLocals.zero : StaleLocals :=
  ⟨⟨fun _ => 0, 0, 0⟩, fun _ => 0, 0⟩

namespace Kernel

/-- The slot scan of `open` from slot `i`, with `remaining` slots left below
`MAX_OPEN_FILE`. -/
def freeSlotFrom (pcb : Pcb) : Nat → Nat → Option Nat
  | 0, _ => none
  | remaining + 1, i =>
      if (pcb.fDescs i).flags ≠ flagActive then some i
      else freeSlotFrom pcb remaining (i + 1)

/-- The first slot from `MIN_OPEN_FILE` on that is not active. -/
def freeSlot (pcb : Pcb) : Option Nat :=
  freeSlotFrom pcb (maxOpenFile - minOpenFile) minOpenFile

/-- `open`.  `filename` is `none` for a NULL pointer. -/
def «open» (fs : FileSystem) (stale : StaleLocals) (kernel : Kernel)
    (filename : Option CString) : Kernel × Int :=
  match filename with
  | none => (kernel, -1)
  | some name =>
      if name 0 = 0 then (kernel, -1)
      else
        let found := fs.readDentryByName name stale.dentry
        if found.1 = -1 then (kernel, -1)
        else
          let entry := found.2
          let pcb := kernel.currentPcb
          match freeSlot pcb with
          | none => (kernel, -1)
          | some i =>
              let desc : FileDesc :=
                { pcb.fDescs i with flags := flagActive, filePos := 0 }
              if entry.fileType = fileTypeDir then
                (kernel.setDesc i { desc with fopsJmpTbPtr := .dirOpsTbl, inode := 0 },
                  i)
              else if entry.fileType = fileTypeFile then
                let named : Pcb :=
                  { pcb with
                    fNames := Function.update pcb.fNames i
                      (strncpy (pcb.fNames i) name maxFileSize) }
                (kernel.setPcb kernel.getPcbPtr
                  (named.setDesc i
                    { desc with
                      fopsJmpTbPtr := .fileOpsTbl, inode := entry.inodeNum }), i)
              else
                let opened := kernel.devices.rtcOpen
                if opened.2 = 0 then
                  ((kernel.setDesc i
                    { desc with fopsJmpTbPtr := .rtcOpsTbl, inode := 0 }).setDevices
                      opened.1, i)
                else ((kernel.setDesc i desc).setDevices opened.1, -1)

/-- `file_read`. -/
def fileRead (fs : FileSystem) (kernel : Kernel) (fd : Nat) (buf : UserBuffer)
    (nbytes : Int) : Kernel × Int × UserBuffer :=
  let desc := kernel.currentPcb.fDescs fd
  let done := fs.readData fs.assignBuffer desc.inode desc.filePos buf
    (nbytes % 2 ^ 32).toNat
  (kernel.setDesc fd
    { desc with filePos := ((desc.filePos + done.1) % 2 ^ 32).toNat }, done)

/-- `dir_read`. -/
def dirRead (fs : FileSystem) (stale : StaleLocals) (kernel : Kernel) (fd : Nat)
    (buf : UserBuffer) : Kernel × Int × UserBuffer :=
  let desc := kernel.currentPcb.fDescs fd
  let found := fs.readDentryByIndex desc.filePos stale.dentry
  if found.1 = 0 then
    (kernel.setDesc fd { desc with filePos := (desc.filePos + 1) % 2 ^ 32 },
      fileNameSize, buf.storeSequence (fun i => i) found.2.fileName fileNameSize)
  else (kernel.setDesc fd { desc with filePos := 0 }, 0, buf)

/-- The read operation of a table.  `woken` is the terminal when the wait of
`keyboard_read` ends. -/
def readOp (fs : FileSystem) (stale : StaleLocals) (woken : Tty)
    (kernel : Kernel) (ops : FileOps) (fd : Nat) (buf : UserBuffer)
    (nbytes : Int) : Kernel × Int × UserBuffer :=
  match ops with
  | .rtcOpsTbl =>
      let waited := kernel.devices.rtcRead
      (kernel.setDevices waited.1, waited.2, buf)
  | .fileOpsTbl => kernel.fileRead fs fd buf nbytes
  | .dirOpsTbl => kernel.dirRead fs stale fd buf
  | .stdinOpsTbl =>
      (kernel.setTty woken, keyboardRead woken buf nbytes)
  | .stdoutOpsTbl => (kernel, -1, buf)
  | .noFileOps => (kernel, -1, buf)

/-- `read`.  `buf` is `none` for a NULL pointer. -/
def read (fs : FileSystem) (stale : StaleLocals) (woken : Tty)
    (kernel : Kernel) (fd : Int) (buf : Option UserBuffer) (nbytes : Int) :
    Kernel × Int × Option UserBuffer :=
  match buf with
  | none => (kernel, -1, none)
  | some memory =>
      if (maxOpenFile : Int) ≤ fd ∨ fd < 0 then (kernel, -1, some memory)
      else
        let desc := kernel.currentPcb.fDescs fd.toNat
        if desc.flags ≠ flagActive then (kernel, -1, some memory)
        else
          let done := kernel.readOp fs stale woken desc.fopsJmpTbPtr fd.toNat
            memory nbytes
          (done.1, done.2.1, some done.2.2)

/-- The 32-bit word at the start of a buffer. -/
def firstWord (buf : CString) : BitVec 32 :=
  BitVec.ofNat 32 ((buf 0).toNat + 0x100 * (buf 1).toNat +
    0x10000 * (buf 2).toNat + 0x1000000 * (buf 3).toNat)

/-- The write operation of a table. -/
def writeOp (stale : StaleLocals) (kernel : Kernel) (ops : FileOps)
    (buf : CString) (nbytes : Int) : Kernel × Int :=
  match ops with
  | .rtcOpsTbl =>
      let written := kernel.devices.rtcWrite stale.rate (some (firstWord buf)) nbytes
      (kernel.setDevices written.1, written.2)
  | .fileOpsTbl => (kernel, -1)
  | .dirOpsTbl => (kernel, -1)
  | .stdinOpsTbl => (kernel, -1)
  | .stdoutOpsTbl =>
      let printed := keyboardWrite kernel.tty.console buf nbytes
      (kernel.setConsole printed.1, printed.2)
  | .noFileOps => (kernel, -1)

/-- `write`.  `buf` is `none` for a NULL pointer. -/
def write (stale : StaleLocals) (kernel : Kernel) (fd : Int)
    (buf : Option CString) (nbytes : Int) : Kernel × Int :=
  match buf with
  | none => (kernel, -1)
  | some bytes =>
      if (maxOpenFile : Int) ≤ fd ∨ fd < 0 then (kernel, -1)
      else
        let desc := kernel.currentPcb.fDescs fd.toNat
        if desc.flags ≠ flagActive then (kernel, -1)
        else kernel.writeOp stale desc.fopsJmpTbPtr bytes nbytes

/-- The close operation of a table. -/
def closeOp (kernel : Kernel) (ops : FileOps) : Kernel × Int :=
  match ops with
  | .rtcOpsTbl =>
      let closed := kernel.devices.rtcClose
      (kernel.setDevices closed.1, closed.2)
  | .fileOpsTbl => (kernel, 0)
  | .dirOpsTbl => (kernel, 0)
  | .stdinOpsTbl | .stdoutOpsTbl =>
      let closed := kernel.devices.closeKeyboard
      (kernel.setDevices closed.1, closed.2)
  | .noFileOps => (kernel, -1)

/-- `close`. -/
def close (kernel : Kernel) (fd : Int) : Kernel × Int :=
  if (maxOpenFile : Int) ≤ fd ∨ fd < 0 then (kernel, -1)
  else if fd = fdsStdinIdx ∨ fd = fdsStdoutIdx then (kernel, -1)
  else
    let desc := kernel.currentPcb.fDescs fd.toNat
    if desc.flags ≠ flagActive then (kernel, -1)
    else
      (kernel.setDesc fd.toNat { desc with flags := flagInactive }).closeOp
        desc.fopsJmpTbPtr

end Kernel

/-- One of the four system calls on descriptors, with the state the terminal
has when a wait for a line ends. -/
inductive FileRequest where
  | open (filename : Option CString)
  | close (fd : Int)
  | read (fd : Int) (buf : Option CString) (nbytes : Int) (woken : Tty)
  | write (fd : Int) (buf : Option CString) (nbytes : Int)

/-- A call and what the uninitialised locals hold while it runs. -/
structure FileCall where
  request : FileRequest
  stale : StaleLocals

/-- A read whose wait for a line ends in the given state of the terminal. -/
def FileRequest.wokenIn (tty : Tty) : FileRequest → FileRequest
  | .read fd buf nbytes _ => .read fd buf nbytes tty
  | request => request

namespace Kernel

/-- Run a system call on descriptors. -/
def fileCall (fs : FileSystem) (kernel : Kernel) (call : FileCall) : Kernel × Int :=
  match call.request with
  | .open filename => kernel.open fs call.stale filename
  | .close fd => kernel.close fd
  | .read fd buf nbytes woken =>
      let done := kernel.read fs call.stale woken fd (buf.map freshBuffer) nbytes
      (done.1, done.2.1)
  | .write fd buf nbytes => kernel.write call.stale fd buf nbytes

/-- A sequence of calls, with their values. -/
def fileCalls (fs : FileSystem) : Kernel → List FileCall → Kernel × List Int
  | kernel, [] => (kernel, [])
  | kernel, call :: rest =>
      let done := kernel.fileCall fs call
      let later := fileCalls fs done.1 rest
      (later.1, done.2 :: later.2)

end Kernel

end ChapOS
