import ChapOS.FileReads
import ChapOS.SystemCalls
import Mathlib.Data.List.Find

/-!
# The descriptor table as a partial map

Seen from a program, a descriptor table maps the numbers 2 to 7 to open files,
beside the terminal at 0 and 1.  The abstract table says which file each call
opens, moves or closes; the PCB's array of descriptors, with its flags, stale
pointers and positions, is shown to simulate it call by call.
-/

namespace ChapOS

namespace FileSystem

/-- The lowest directory entry that `read_dentry_by_name` matches. -/
def findEntry (fs : FileSystem) (fname : CString) : Option Nat :=
  (List.range' 0 63).find? fun index =>
    decide (strncmp fname (fs.entryName index) 32 = 0)

private theorem searchByName_eq (fs : FileSystem) (fname : CString)
    (dentry : Dentry) (remaining index : Nat) :
    fs.searchByName fname dentry remaining index =
      match (List.range' index remaining).find? fun current =>
          decide (strncmp fname (fs.entryName current) 32 = 0) with
      | none => (-1, dentry)
      | some current =>
          (0,
            { fileName := strncpy dentry.fileName fname fileNameSize
              fileType := fs.entryType current
              inodeNum := fs.entryInode current }) := by
  induction remaining generalizing index with
  | zero => rfl
  | succ remaining ih =>
      rw [searchByName, List.range'_succ, List.find?_cons]
      by_cases same : strncmp fname (fs.entryName index) 32 = 0
      · simp [same]
      · simp [same, ih]

theorem readDentryByName_of_missing (fs : FileSystem) {fname : CString}
    (dentry : Dentry) (missing : fs.findEntry fname = none) :
    fs.readDentryByName fname dentry = (-1, dentry) := by
  rw [findEntry] at missing
  rw [readDentryByName, searchByName_eq, maxDentryNum, missing]

theorem readDentryByName_of_found (fs : FileSystem) {fname : CString} {index : Nat}
    (dentry : Dentry) (found : fs.findEntry fname = some index) :
    fs.readDentryByName fname dentry =
      (0,
        { fileName := strncpy dentry.fileName fname fileNameSize
          fileType := fs.entryType index
          inodeNum := fs.entryInode index }) := by
  rw [findEntry] at found
  rw [readDentryByName, searchByName_eq, maxDentryNum, found]

end FileSystem

/-- What a descriptor can be open on. -/
inductive FileKind where
  | directory
  | regular (inode : Nat)
  | rtc
  deriving DecidableEq, Repr

namespace FileKind

/-- The kind that a directory entry stands for. -/
def ofEntry (fileType inode : Nat) : FileKind :=
  if fileType = 1 then .directory else if fileType = 2 then .regular inode else .rtc

/-- The operation table of a kind. -/
def ops : FileKind → FileOps
  | .directory => .dirOpsTbl
  | .regular _ => .fileOpsTbl
  | .rtc => .rtcOpsTbl

end FileKind

/-- An open file and the position it has reached. -/
structure OpenFile where
  kind : FileKind
  position : Nat
  deriving DecidableEq, Repr

/-- The abstract descriptor table of a process, meant for the numbers 2 to 7. -/
abbrev FileTable := Nat → Option OpenFile

namespace FileTable

/-- No file is open. -/
def empty : FileTable :=
  fun _ => none

/-- The smallest number from 2 to 7 that is not in use. -/
def smallestFree (table : FileTable) : Option Nat :=
  (List.range' 2 6).find? fun fd => (table fd).isNone

/-- Open a file by name. -/
def openFile (fs : FileSystem) (table : FileTable) :
    Option CString → FileTable × Int
  | none => (table, -1)
  | some name =>
      if name 0 = 0 then (table, -1)
      else
        match fs.findEntry name, table.smallestFree with
        | some index, some fd =>
            (Function.update table fd
              (some ⟨.ofEntry (fs.entryType index) (fs.entryInode index), 0⟩), fd)
        | _, _ => (table, -1)

/-- Close an open file. -/
def closeFile (table : FileTable) (fd : Int) : FileTable × Int :=
  if 2 ≤ fd ∧ fd < 8 ∧ (table fd.toNat).isSome then
    (Function.update table fd.toNat none, 0)
  else (table, -1)

/-- Read from an open file: its new position, and the value of the call. -/
def readOpenFile (fs : FileSystem) (file : OpenFile) (buf : UserBuffer)
    (nbytes : Int) : Nat × Int :=
  match file.kind with
  | .directory =>
      if file.position < 63 ∧ fs.entryName file.position 0 ≠ 0 then
        ((file.position + 1) % 2 ^ 32, 32)
      else (0, 0)
  | .regular inode =>
      let value := (fs.readData fs.assignBuffer inode file.position buf
        (nbytes % 2 ^ 32).toNat).1
      (((file.position + value) % 2 ^ 32).toNat, value)
  | .rtc => (file.position, 0)

/-- Read by descriptor number. -/
def readFile (fs : FileSystem) (table : FileTable) (fd : Int)
    (buf : Option CString) (nbytes : Int) (woken : Tty) : FileTable × Int :=
  match buf with
  | none => (table, -1)
  | some content =>
      if fd = 0 then (table, (keyboardRead woken (freshBuffer content) nbytes).1)
      else if 2 ≤ fd ∧ fd < 8 then
        match table fd.toNat with
        | none => (table, -1)
        | some file =>
            let moved := readOpenFile fs file (freshBuffer content) nbytes
            (Function.update table fd.toNat (some { file with position := moved.1 }),
              moved.2)
      else (table, -1)

/-- The frequencies that a write to the clock accepts. -/
def writeRtc (frequency : BitVec 32) (nbytes : Int) : Int :=
  if nbytes = 4 ∧ frequency ≠ 0 ∧ frequency &&& (frequency - 1) = 0 ∧
      0 ≤ frequency.toInt ∧ frequency.toInt ≤ 1024 then 4
  else -1

/-- Write to an open file: the value of the call. -/
def writeOpenFile (file : OpenFile) (bytes : CString) (nbytes : Int) : Int :=
  match file.kind with
  | .directory | .regular _ => -1
  | .rtc => writeRtc (Kernel.firstWord bytes) nbytes

/-- Write by descriptor number. -/
def writeFile (table : FileTable) (fd : Int) (buf : Option CString)
    (nbytes : Int) : Int :=
  match buf with
  | none => -1
  | some bytes =>
      if fd = 1 then nbytes.toNat
      else if 2 ≤ fd ∧ fd < 8 then
        match table fd.toNat with
        | none => -1
        | some file => writeOpenFile file bytes nbytes
      else -1

/-- The abstract effect and value of a call. -/
def call (fs : FileSystem) (table : FileTable) : FileRequest → FileTable × Int
  | .open filename => table.openFile fs filename
  | .close fd => table.closeFile fd
  | .read fd buf nbytes woken => table.readFile fs fd buf nbytes woken
  | .write fd buf nbytes => (table, table.writeFile fd buf nbytes)

/-- A sequence of calls, with their values. -/
def calls (fs : FileSystem) : FileTable → List FileRequest → FileTable × List Int
  | table, [] => (table, [])
  | table, request :: rest =>
      let done := table.call fs request
      let later := calls fs done.1 rest
      (later.1, done.2 :: later.2)

/-- Every number from 2 to 7 is in use. -/
def Full (table : FileTable) : Prop :=
  ∀ fd, 2 ≤ fd → fd < 8 → (table fd).isSome = true

/-- The fd names an open file of the table. -/
def InUse (table : FileTable) (fd : Int) : Prop :=
  2 ≤ fd ∧ fd < 8 ∧ (table fd.toNat).isSome = true

/-- What is promised about a call: when it is refused, and what it does to the
table when it is not. -/
def Promises (fs : FileSystem) (table : FileTable) (request : FileRequest) : Prop :=
  let done := table.call fs request
  match request with
  | .open filename =>
      (done.2 = -1 ↔
        filename = none ∨
          (∃ name, filename = some name ∧
            (name 0 = 0 ∨ fs.findEntry name = none)) ∨
          table.Full) ∧
        (done.2 = -1 → done.1 = table) ∧
        (done.2 ≠ -1 → ∃ name index fd,
          filename = some name ∧ fs.findEntry name = some index ∧
            2 ≤ fd ∧ fd < 8 ∧ table fd = none ∧
            (∀ lower, 2 ≤ lower → lower < fd → (table lower).isSome = true) ∧
            done = (Function.update table fd
              (some ⟨.ofEntry (fs.entryType index) (fs.entryInode index), 0⟩), (fd : Int)))
  | .close fd =>
      (table.InUse fd → done = (Function.update table fd.toNat none, 0)) ∧
        (¬table.InUse fd → done = (table, -1))
  | .read fd _ _ _ => fd = 1 ∨ (fd ≠ 0 ∧ ¬table.InUse fd) → done = (table, -1)
  | .write fd _ _ =>
      done.1 = table ∧ (fd = 0 ∨ (fd ≠ 1 ∧ ¬table.InUse fd) → done.2 = -1)

theorem smallestFree_eq_none {table : FileTable} :
    table.smallestFree = none ↔ table.Full := by
  unfold smallestFree Full
  rw [List.find?_eq_none]
  constructor
  · intro noneFree fd low high
    have member : fd ∈ List.range' 2 6 := by
      rw [List.mem_range'_1]
      omega
    simpa [Option.isSome_iff_ne_none] using noneFree fd member
  · intro full fd member
    rw [List.mem_range'_1] at member
    have used := full fd (by omega) (by omega)
    simpa [Option.isSome_iff_ne_none] using used

theorem smallestFree_eq_some {table : FileTable} {fd : Nat}
    (free : table.smallestFree = some fd) :
    2 ≤ fd ∧ fd < 8 ∧ table fd = none ∧
      ∀ lower, 2 ≤ lower → lower < fd → (table lower).isSome = true := by
  unfold smallestFree at free
  rw [List.find?_range'_eq_some] at free
  obtain ⟨isFree, member, below⟩ := free
  rw [List.mem_range'_1] at member
  refine ⟨by omega, by omega, by simpa using isFree, ?_⟩
  intro lower low lowerLt
  simpa using below lower low lowerLt

theorem openFile_promises (fs : FileSystem) (table : FileTable)
    (filename : Option CString) : table.Promises fs (.open filename) := by
  cases filename with
  | none => exact ⟨by simp [call, openFile], fun _ => rfl, fun accepted => (accepted rfl).elim⟩
  | some name =>
      by_cases isEmpty : name 0 = 0
      · simp [Promises, call, openFile, isEmpty]
      cases found : fs.findEntry name with
      | none => simp [Promises, call, openFile, isEmpty, found]
      | some index =>
          cases free : table.smallestFree with
          | none =>
              have full := smallestFree_eq_none.mp free
              simp [Promises, call, openFile, isEmpty, found, free, full]
          | some fd =>
              obtain ⟨low, high, isFree, below⟩ := smallestFree_eq_some free
              have notFull : ¬table.Full := by
                intro full
                simpa [isFree] using full fd low high
              have positive : ¬(fd : Int) = -1 := by omega
              simp only [Promises, call, openFile, isEmpty, found, free, if_false]
              refine ⟨by simp [isEmpty, found, notFull, positive], ?_, ?_⟩
              · intro refused
                exact (positive refused).elim
              · intro _
                exact ⟨name, index, fd, rfl, found, low, high, isFree, below, rfl⟩

/-- A number that is not in use is refused. -/
theorem readFile_of_unused (fs : FileSystem) {table : FileTable} {fd : Int}
    (notStdin : fd ≠ 0) (unused : ¬table.InUse fd) (buf : Option CString) (nbytes : Int)
    (woken : Tty) : table.readFile fs fd buf nbytes woken = (table, -1) := by
  cases buf with
  | none => rfl
  | some content =>
      simp only [readFile, if_neg notStdin]
      by_cases inside : 2 ≤ fd ∧ fd < 8
      · have absent : table fd.toNat = none := by
          simpa [InUse, inside.1, inside.2] using unused
        rw [if_pos inside, absent]
      · rw [if_neg inside]

theorem writeFile_of_unused {table : FileTable} {fd : Int} (notStdout : fd ≠ 1)
    (unused : ¬table.InUse fd) (buf : Option CString) (nbytes : Int) :
    table.writeFile fd buf nbytes = -1 := by
  cases buf with
  | none => rfl
  | some bytes =>
      simp only [writeFile, if_neg notStdout]
      by_cases inside : 2 ≤ fd ∧ fd < 8
      · have absent : table fd.toNat = none := by
          simpa [InUse, inside.1, inside.2] using unused
        rw [if_pos inside, absent]
      · rw [if_neg inside]

/-- Every abstract call keeps its promises. -/
theorem call_promises (fs : FileSystem) (table : FileTable) (request : FileRequest) :
    table.Promises fs request := by
  cases request with
  | «open» filename => exact openFile_promises fs table filename
  | close fd =>
      refine ⟨fun used => ?_, fun unused => ?_⟩
      · simp only [call, closeFile]
        exact if_pos used
      · simp only [call, closeFile]
        exact if_neg unused
  | read fd buf nbytes woken =>
      intro refused
      have notStdin : fd ≠ 0 := by
        rcases refused with isStdout | ⟨notStdin, -⟩
        · omega
        · exact notStdin
      have unused : ¬table.InUse fd := by
        rcases refused with isStdout | ⟨-, notUsed⟩
        · exact fun used => absurd used.1 (by omega)
        · exact notUsed
      exact readFile_of_unused fs notStdin unused buf nbytes woken
  | write fd buf nbytes =>
      refine ⟨rfl, fun refused => ?_⟩
      have notStdout : fd ≠ 1 := by
        rcases refused with isStdin | ⟨notStdout, -⟩
        · omega
        · exact notStdout
      have unused : ¬table.InUse fd := by
        rcases refused with isStdin | ⟨-, notUsed⟩
        · exact fun used => absurd used.1 (by omega)
        · exact notUsed
      exact writeFile_of_unused notStdout unused buf nbytes

end FileTable

namespace Kernel

/-- A close operation works on the devices only. -/
theorem closeOp_currentPcb (kernel : Kernel) (ops : FileOps) :
    (kernel.closeOp ops).1.currentPcb = kernel.currentPcb := by
  cases ops <;> rfl

/-- What closing a descriptor leaves in the PCB. -/
theorem closed_fDescs (kernel : Kernel) (fd : Nat) (ops : FileOps) :
    ((kernel.setDesc fd { kernel.currentPcb.fDescs fd with flags := flagInactive }).closeOp
        ops).1.currentPcb.fDescs =
      Function.update kernel.currentPcb.fDescs fd
        { kernel.currentPcb.fDescs fd with flags := flagInactive } := by
  rw [closeOp_currentPcb, setDesc_currentPcb]
  rfl

/-- The accepting branch of `close`. -/
theorem close_of_active (kernel : Kernel) {fd : Int} (low : 2 ≤ fd) (high : fd < 8)
    (active : (kernel.currentPcb.fDescs fd.toNat).flags = flagActive) :
    kernel.close fd =
      (kernel.setDesc fd.toNat
        { kernel.currentPcb.fDescs fd.toNat with flags := flagInactive }).closeOp
          (kernel.currentPcb.fDescs fd.toNat).fopsJmpTbPtr := by
  rw [close, if_neg (by simp only [maxOpenFile]; omega),
    if_neg (by simp only [fdsStdinIdx, fdsStdoutIdx]; omega)]
  simp only [active, ne_eq, not_true_eq_false, if_false]

/-- The accepting branch of `read`. -/
theorem read_of_active (fs : FileSystem) (stale : StaleLocals) (woken : Tty)
    (kernel : Kernel) {fd : Int} (low : 0 ≤ fd) (high : fd < 8)
    (active : (kernel.currentPcb.fDescs fd.toNat).flags = flagActive)
    (memory : UserBuffer) (nbytes : Int) :
    kernel.read fs stale woken fd (some memory) nbytes =
      let done := kernel.readOp fs stale woken
        (kernel.currentPcb.fDescs fd.toNat).fopsJmpTbPtr fd.toNat memory nbytes
      (done.1, done.2.1, some done.2.2) := by
  rw [read, if_neg (by simp only [maxOpenFile]; omega)]
  simp only [active, ne_eq, not_true_eq_false, if_false]

/-- The accepting branch of `write`. -/
theorem write_of_active (stale : StaleLocals) (kernel : Kernel) {fd : Int}
    (low : 0 ≤ fd) (high : fd < 8)
    (active : (kernel.currentPcb.fDescs fd.toNat).flags = flagActive)
    (bytes : CString) (nbytes : Int) :
    kernel.write stale fd (some bytes) nbytes =
      kernel.writeOp stale (kernel.currentPcb.fDescs fd.toNat).fopsJmpTbPtr bytes
        nbytes := by
  rw [write, if_neg (by simp only [maxOpenFile]; omega)]
  simp only [active, ne_eq, not_true_eq_false, if_false]

/-- A number that is out of range or not active. -/
def Unusable (kernel : Kernel) (fd : Int) : Prop :=
  ((maxOpenFile : Int) ≤ fd ∨ fd < 0) ∨
    (kernel.currentPcb.fDescs fd.toNat).flags ≠ flagActive

theorem read_of_unusable (fs : FileSystem) (stale : StaleLocals) (woken : Tty)
    {kernel : Kernel} {fd : Int} (unusable : kernel.Unusable fd)
    (buf : Option UserBuffer) (nbytes : Int) :
    kernel.read fs stale woken fd buf nbytes = (kernel, -1, buf) := by
  cases buf with
  | none => rfl
  | some memory =>
      by_cases outside : (maxOpenFile : Int) ≤ fd ∨ fd < 0
      · rw [read, if_pos outside]
      · have inactive := unusable.resolve_left outside
        rw [read, if_neg outside]
        simp only [inactive, ne_eq, not_false_eq_true, if_true]

theorem write_of_unusable (stale : StaleLocals) {kernel : Kernel} {fd : Int}
    (unusable : kernel.Unusable fd) (buf : Option CString) (nbytes : Int) :
    kernel.write stale fd buf nbytes = (kernel, -1) := by
  cases buf with
  | none => rfl
  | some bytes =>
      by_cases outside : (maxOpenFile : Int) ≤ fd ∨ fd < 0
      · rw [write, if_pos outside]
      · have inactive := unusable.resolve_left outside
        rw [write, if_neg outside]
        simp only [inactive, ne_eq, not_false_eq_true, if_true]

theorem close_of_unusable {kernel : Kernel} {fd : Int}
    (unusable : kernel.Unusable fd) : kernel.close fd = (kernel, -1) := by
  by_cases outside : (maxOpenFile : Int) ≤ fd ∨ fd < 0
  · rw [close, if_pos outside]
  have inactive := unusable.resolve_left outside
  rw [close, if_neg outside]
  by_cases isTerminal : fd = fdsStdinIdx ∨ fd = fdsStdoutIdx
  · rw [if_pos isTerminal]
  · rw [if_neg isTerminal]
    simp only [inactive, ne_eq, not_false_eq_true, if_true]

end Kernel

/-- The descriptor that a call names: the one an open returns, the one a
successful close frees, the one a read or write is given. -/
def FileRequest.Names (request : FileRequest) (value : Int) (fd : Nat) : Prop :=
  match request with
  | .open _ => value = fd
  | .close named => value = 0 ∧ named = fd
  | .read named _ _ _ => named = fd
  | .write named _ _ => named = fd

/-- A descriptor is open on a file. -/
structure FileDesc.Describes (desc : FileDesc) (file : OpenFile) : Prop where
  flags : desc.flags = flagActive
  ops : desc.fopsJmpTbPtr = file.kind.ops
  inode : ∀ inode, file.kind = .regular inode → desc.inode = inode
  position : desc.filePos = file.position

/-- Descriptors 0 and 1 are the terminal's. -/
structure Pcb.HasTerminal (pcb : Pcb) : Prop where
  stdin : (pcb.fDescs 0).flags = flagActive ∧
    (pcb.fDescs 0).fopsJmpTbPtr = .stdinOpsTbl
  stdout : (pcb.fDescs 1).flags = flagActive ∧
    (pcb.fDescs 1).fopsJmpTbPtr = .stdoutOpsTbl

/-- The table that `execute` builds: the terminal, and nothing else. -/
structure Pcb.FreshTable (pcb : Pcb) : Prop extends pcb.HasTerminal where
  others : ∀ fd, 2 ≤ fd → fd < 8 → (pcb.fDescs fd).flags ≠ flagActive

/-- The PCB's descriptors simulate an abstract table. -/
structure Pcb.Simulates (pcb : Pcb) (table : FileTable) : Prop
    extends pcb.HasTerminal where
  unused : ∀ fd, 2 ≤ fd → fd < 8 → table fd = none →
    (pcb.fDescs fd).flags ≠ flagActive
  opened : ∀ fd, 2 ≤ fd → fd < 8 → ∀ file, table fd = some file →
    (pcb.fDescs fd).Describes file

namespace Pcb

variable {pcb : Pcb} {table : FileTable}

/-- Overwriting the descriptor of an abstract entry keeps the simulation. -/
theorem Simulates.update (simulates : pcb.Simulates table) {fd : Nat}
    (two_le : 2 ≤ fd) {next : Pcb} {desc : FileDesc}
    (descs : next.fDescs = Function.update pcb.fDescs fd desc)
    {entry : Option OpenFile}
    (unused : entry = none → desc.flags ≠ flagActive)
    (opened : ∀ file, entry = some file → desc.Describes file) :
    next.Simulates (Function.update table fd entry) := by
  refine
    { stdin := ?_
      stdout := ?_
      unused := ?_
      opened := ?_ }
  · rw [descs, Function.update_of_ne (by omega)]
    exact simulates.stdin
  · rw [descs, Function.update_of_ne (by omega)]
    exact simulates.stdout
  · intro other low high absent
    rw [descs]
    by_cases same : other = fd
    · subst same
      rw [Function.update_self] at absent ⊢
      exact unused absent
    · rw [Function.update_of_ne same] at absent ⊢
      exact simulates.unused other low high absent
  · intro other low high file present
    rw [descs]
    by_cases same : other = fd
    · subst same
      rw [Function.update_self] at present ⊢
      exact opened file present
    · rw [Function.update_of_ne same] at present ⊢
      exact simulates.opened other low high file present

/-- A descriptor is active exactly when its abstract entry is in use. -/
theorem Simulates.active_iff (simulates : pcb.Simulates table) {fd : Nat}
    (low : 2 ≤ fd) (high : fd < 8) :
    (pcb.fDescs fd).flags = flagActive ↔ (table fd).isSome = true := by
  cases entry : table fd with
  | none => simpa using simulates.unused fd low high entry
  | some file => simpa using (simulates.opened fd low high file entry).flags

theorem freeSlotFrom_eq (pcb : Pcb) (remaining slot : Nat) :
    Kernel.freeSlotFrom pcb remaining slot =
      (List.range' slot remaining).find? fun fd =>
        decide ((pcb.fDescs fd).flags ≠ flagActive) := by
  induction remaining generalizing slot with
  | zero => rfl
  | succ remaining ih =>
      rw [Kernel.freeSlotFrom, List.range'_succ, List.find?_cons, ih]
      by_cases active : (pcb.fDescs slot).flags = flagActive
      · simp [active]
      · simp [active]

/-- The slot scan of `open` finds the smallest free number. -/
theorem Simulates.freeSlot_eq (simulates : pcb.Simulates table) :
    Kernel.freeSlot pcb = table.smallestFree := by
  rw [Kernel.freeSlot, freeSlotFrom_eq]
  apply List.find?_congr
  intro fd member
  have bounds : 2 ≤ fd ∧ fd < 8 := by simpa using member
  have active := simulates.active_iff bounds.1 bounds.2
  cases entry : table fd with
  | none => simpa [entry] using active
  | some file => simpa [entry] using active

theorem FreshTable.simulates (fresh : pcb.FreshTable) :
    pcb.Simulates FileTable.empty where
  stdin := fresh.stdin
  stdout := fresh.stdout
  unused fd low high _ := fresh.others fd low high
  opened fd low high file absurdity := by simp [FileTable.empty] at absurdity

end Pcb

/-- A finished call matches its abstract call: the same value, tables still in
step, and no descriptor changed but the one the call names. -/
structure CallMatches (fs : FileSystem) (before : Pcb) (table : FileTable)
    (request : FileRequest) (done : Kernel × Int) : Prop where
  simulates : done.1.currentPcb.Simulates (table.call fs request).1
  value : done.2 = (table.call fs request).2
  frame : ∀ fd, ¬request.Names done.2 fd →
    done.1.currentPcb.fDescs fd = before.fDescs fd

/-- The read operation of an open descriptor moves its position as the abstract
file does. -/
theorem readOp_of_open (fs : FileSystem) (stale : StaleLocals) (woken : Tty)
    {kernel : Kernel} {fd : Nat} {file : OpenFile}
    (describes : (kernel.currentPcb.fDescs fd).Describes file) (buf : UserBuffer)
    (nbytes : Int) :
    let done := kernel.readOp fs stale woken
      (kernel.currentPcb.fDescs fd).fopsJmpTbPtr fd buf nbytes
    let moved := FileTable.readOpenFile fs file buf nbytes
    done.1.currentPcb.fDescs =
        Function.update kernel.currentPcb.fDescs fd
          { kernel.currentPcb.fDescs fd with filePos := moved.1 } ∧
      done.2.1 = moved.2 := by
  obtain ⟨flags, ops, inode, position⟩ := describes
  intro done moved
  cases kind : file.kind with
  | directory =>
      have isDir : done = kernel.dirRead fs stale fd buf := by
        simp only [done, ops, kind, FileKind.ops, Kernel.readOp]
      by_cases entry : file.position < 63 ∧ fs.entryName file.position 0 ≠ 0
      · have found := fs.readDentryByIndex_of_entry stale.dentry
          (position ▸ entry.1) (position ▸ entry.2)
        have abstract : moved = ((file.position + 1) % 2 ^ 32, 32) := by
          simp only [moved, FileTable.readOpenFile, kind]
          rw [if_pos entry]
        simp only [Kernel.dirRead, found, if_true] at isDir
        rw [isDir, abstract, Kernel.setDesc_currentPcb, position]
        exact ⟨rfl, rfl⟩
      · have missing := fs.readDentryByIndex_of_noEntry stale.dentry (position ▸ entry)
        have abstract : moved = (0, 0) := by
          simp only [moved, FileTable.readOpenFile, kind]
          rw [if_neg entry]
        have failed : ¬(-1 : Int) = 0 := by decide
        simp only [Kernel.dirRead, missing, if_neg failed] at isDir
        rw [isDir, abstract, Kernel.setDesc_currentPcb]
        exact ⟨rfl, rfl⟩
  | regular inodeNum =>
      have isFile : done = kernel.fileRead fs fd buf nbytes := by
        simp only [done, ops, kind, FileKind.ops, Kernel.readOp]
      have abstract : moved =
          (let value := (fs.readData fs.assignBuffer inodeNum file.position buf
            (nbytes % 2 ^ 32).toNat).1
          (((file.position + value) % 2 ^ 32).toNat, value)) := by
        simp only [moved, FileTable.readOpenFile, kind]
      rw [← position, ← inode inodeNum kind] at abstract
      rw [isFile, abstract, Kernel.fileRead, Kernel.setDesc_currentPcb]
      exact ⟨rfl, rfl⟩
  | rtc =>
      have abstract : moved = (file.position, 0) := by
        simp only [moved, FileTable.readOpenFile, kind]
      have waited : done = (kernel.setDevices kernel.devices.rtcRead.1, 0, buf) := by
        simp only [done, ops, kind, FileKind.ops, Kernel.readOp]
        rfl
      rw [waited, abstract, Kernel.setDevices_currentPcb]
      refine ⟨?_, rfl⟩
      rw [← position]
      exact (Function.update_eq_self fd _).symm

/-- A write to the clock is accepted for a power of two up to 1024, whatever
the registers hold. -/
theorem rtcWrite_value (devices : Devices) (rate : Nat) (frequency : BitVec 32)
    (nbytes : Int) :
    (devices.rtcWrite rate (some frequency) nbytes).2 =
      FileTable.writeRtc frequency nbytes := by
  unfold Devices.rtcWrite FileTable.writeRtc
  by_cases size : nbytes = 4
  · rw [if_neg (not_not_intro size)]
    by_cases power : frequency ≠ 0 ∧ frequency &&& (frequency - 1) = 0
    · by_cases outside : 1024 < frequency.toInt ∨ frequency.toInt < 0
      · have refused : ¬(0 ≤ frequency.toInt ∧ frequency.toInt ≤ 1024) := by omega
        simp only [if_neg (not_not_intro power), if_pos outside]
        rw [if_neg (fun accepted => refused accepted.2.2.2)]
      · have accepted : 0 ≤ frequency.toInt ∧ frequency.toInt ≤ 1024 := by omega
        simp only [if_neg (not_not_intro power), if_neg outside]
        rw [if_pos ⟨size, power.1, power.2, accepted⟩]
        exact size
    · simp only [if_pos power]
      rw [if_neg (fun accepted => power ⟨accepted.2.1, accepted.2.2.1⟩)]
  · rw [if_pos size, if_neg (fun accepted => size accepted.1)]

/-- The write operation of an open descriptor leaves the descriptors alone. -/
theorem writeOp_of_open (stale : StaleLocals) {kernel : Kernel} {fd : Nat}
    {file : OpenFile} (describes : (kernel.currentPcb.fDescs fd).Describes file)
    (bytes : CString) (nbytes : Int) :
    let done := kernel.writeOp stale (kernel.currentPcb.fDescs fd).fopsJmpTbPtr bytes
      nbytes
    done.1.currentPcb = kernel.currentPcb ∧
      done.2 = FileTable.writeOpenFile file bytes nbytes := by
  rw [describes.ops, FileTable.writeOpenFile]
  cases file.kind with
  | directory => exact ⟨rfl, rfl⟩
  | regular inode => exact ⟨rfl, rfl⟩
  | rtc => exact ⟨rfl, rtcWrite_value _ _ _ _⟩

section Calls

variable {kernel : Kernel} {table : FileTable}
  (simulates : kernel.currentPcb.Simulates table)

include simulates

/-- A call that does nothing matches an abstract call that does nothing. -/
private theorem callMatches_of_refused {fs : FileSystem} {request : FileRequest}
    {after : Kernel} {value : Int} (same : after.currentPcb = kernel.currentPcb)
    (abstract : table.call fs request = (table, value)) :
    CallMatches fs kernel.currentPcb table request (after, value) where
  simulates := by rw [abstract, same]; exact simulates
  value := by rw [abstract]
  frame fd _ := by rw [same]

/-- A call that overwrites one descriptor matches an abstract call that
overwrites the same entry. -/
private theorem callMatches_of_update {fs : FileSystem} {request : FileRequest}
    {after : Kernel} {value : Int} {fd : Nat} {desc : FileDesc}
    {entry : Option OpenFile} (two_le : 2 ≤ fd)
    (descs : after.currentPcb.fDescs =
      Function.update kernel.currentPcb.fDescs fd desc)
    (abstract : table.call fs request = (Function.update table fd entry, value))
    (names : request.Names value fd)
    (unused : entry = none → desc.flags ≠ flagActive)
    (opened : ∀ file, entry = some file → desc.Describes file) :
    CallMatches fs kernel.currentPcb table request (after, value) where
  simulates := by
    rw [abstract]
    exact simulates.update two_le descs unused opened
  value := by rw [abstract]
  frame other notNamed := by
    have different : other ≠ fd := fun same => notNamed (same ▸ names)
    rw [descs, Function.update_of_ne different]

theorem open_matches (fs : FileSystem) (stale : StaleLocals)
    (filename : Option CString) :
    CallMatches fs kernel.currentPcb table (.open filename)
      (kernel.open fs stale filename) := by
  cases filename with
  | none => exact callMatches_of_refused simulates rfl rfl
  | some name =>
      by_cases isEmpty : name 0 = 0
      · rw [Kernel.open, if_pos isEmpty]
        apply callMatches_of_refused simulates rfl
        simp [FileTable.call, FileTable.openFile, isEmpty]
      cases found : fs.findEntry name with
      | none =>
          simp only [Kernel.open, if_neg isEmpty,
            fs.readDentryByName_of_missing _ found, if_true]
          apply callMatches_of_refused simulates rfl
          simp [FileTable.call, FileTable.openFile, isEmpty, found]
      | some index =>
          have success : ¬(0 : Int) = -1 := by decide
          cases free : table.smallestFree with
          | none =>
              simp only [Kernel.open, if_neg isEmpty,
                fs.readDentryByName_of_found _ found, if_neg success,
                simulates.freeSlot_eq, free]
              apply callMatches_of_refused simulates rfl
              simp [FileTable.call, FileTable.openFile, isEmpty, found, free]
          | some fd =>
              have member := List.mem_of_find?_eq_some free
              have bounds : 2 ≤ fd ∧ fd < 8 := by simpa using member
              have abstract : table.call fs (.open (some name)) =
                  (Function.update table fd
                    (some ⟨.ofEntry (fs.entryType index) (fs.entryInode index), 0⟩),
                    (fd : Int)) := by
                simp [FileTable.call, FileTable.openFile, isEmpty, found, free]
              simp only [Kernel.open, if_neg isEmpty,
                fs.readDentryByName_of_found _ found, if_neg success,
                simulates.freeSlot_eq, free]
              by_cases isDir : fs.entryType index = fileTypeDir
              · rw [if_pos isDir]
                refine callMatches_of_update simulates bounds.1
                  (by rw [Kernel.setDesc_currentPcb]; rfl) abstract rfl (by simp) ?_
                rintro file ⟨⟩
                exact ⟨rfl, by simp [FileKind.ofEntry, isDir, FileKind.ops],
                  by simp [FileKind.ofEntry, isDir], rfl⟩
              rw [if_neg isDir]
              by_cases isFile : fs.entryType index = fileTypeFile
              · rw [if_pos isFile]
                refine callMatches_of_update simulates bounds.1
                  (by rw [Kernel.setPcb_currentPcb]; rfl) abstract rfl (by simp) ?_
                rintro file ⟨⟩
                exact ⟨rfl, by simp [FileKind.ofEntry, isFile, FileKind.ops],
                  by simp [FileKind.ofEntry, isFile], rfl⟩
              · rw [if_neg isFile, if_pos (show kernel.devices.rtcOpen.2 = 0 from rfl)]
                refine callMatches_of_update simulates bounds.1
                  (by rw [Kernel.setDevices_currentPcb, Kernel.setDesc_currentPcb]; rfl)
                  abstract rfl (by simp) ?_
                rintro file ⟨⟩
                exact ⟨rfl, by simp [FileKind.ofEntry, isDir, isFile, FileKind.ops],
                  by simp [FileKind.ofEntry, isDir, isFile], rfl⟩

/-- A number in use names an active descriptor of an open file. -/
private theorem opened_of_inUse {fd : Int} (used : table.InUse fd) :
    (kernel.currentPcb.fDescs fd.toNat).flags = flagActive ∧
      ∃ file, table fd.toNat = some file ∧
        (kernel.currentPcb.fDescs fd.toNat).Describes file := by
  obtain ⟨low, high, used⟩ := used
  obtain ⟨file, entry⟩ := Option.isSome_iff_exists.mp used
  have describes := simulates.opened fd.toNat (by omega) (by omega) file entry
  exact ⟨describes.flags, file, entry, describes⟩

/-- Numbers without an entry, the terminal's apart, are unusable. -/
private theorem unusable_of_none {fd : Int} (notTerminal : fd ≠ 0 ∧ fd ≠ 1)
    (notUsed : ¬table.InUse fd) :
    kernel.Unusable fd := by
  by_cases outside : (maxOpenFile : Int) ≤ fd ∨ fd < 0
  · exact Or.inl outside
  · refine Or.inr fun active => notUsed ?_
    simp only [maxOpenFile] at outside
    exact ⟨by omega, by omega,
      (simulates.active_iff (by omega) (by omega)).mp active⟩

theorem close_matches (fs : FileSystem) (fd : Int) :
    CallMatches fs kernel.currentPcb table (.close fd) (kernel.close fd) := by
  by_cases usable : table.InUse fd
  · obtain ⟨active, file, entry, describes⟩ := opened_of_inUse simulates usable
    obtain ⟨low, high, used⟩ := usable
    have abstract : table.call fs (.close fd) =
        (Function.update table fd.toNat none, 0) := by
      simp [FileTable.call, FileTable.closeFile, low, high, used]
    have named : FileRequest.Names (.close fd) 0 fd.toNat := ⟨rfl, by omega⟩
    rw [kernel.close_of_active low high active]
    have value : ((kernel.setDesc fd.toNat
        { kernel.currentPcb.fDescs fd.toNat with flags := flagInactive }).closeOp
          (kernel.currentPcb.fDescs fd.toNat).fopsJmpTbPtr).2 = 0 := by
      rw [describes.ops]
      cases file.kind <;> rfl
    have descs := kernel.closed_fDescs fd.toNat
      (kernel.currentPcb.fDescs fd.toNat).fopsJmpTbPtr
    rw [← value] at abstract named
    exact callMatches_of_update simulates (by omega) descs abstract named
      (by simp) (by simp)
  · have abstract : table.call fs (.close fd) = (table, -1) := by
      simp only [FileTable.call, FileTable.closeFile]
      exact if_neg usable
    by_cases isTerminal : fd = fdsStdinIdx ∨ fd = fdsStdoutIdx
    · have refused : kernel.close fd = (kernel, -1) := by
        rw [Kernel.close]
        split
        · rfl
        · rfl
      rw [refused]
      exact callMatches_of_refused simulates rfl abstract
    · simp only [fdsStdinIdx, fdsStdoutIdx] at isTerminal
      have unusable := unusable_of_none simulates (by omega) usable
      rw [Kernel.close_of_unusable unusable]
      exact callMatches_of_refused simulates rfl abstract

theorem read_matches (fs : FileSystem) (stale : StaleLocals) (fd : Int)
    (buf : Option CString) (nbytes : Int) (woken : Tty) :
    CallMatches fs kernel.currentPcb table (.read fd buf nbytes woken)
      (kernel.fileCall fs ⟨.read fd buf nbytes woken, stale⟩) := by
  cases buf with
  | none => exact callMatches_of_refused simulates rfl rfl
  | some content =>
      by_cases isStdin : fd = 0
      · subst isStdin
        have stdin := simulates.stdin
        simp only [Kernel.fileCall, Option.map_some]
        rw [Kernel.read_of_active fs stale woken kernel (by omega) (by omega)
          (by simpa using stdin.1)]
        simp only [Int.toNat_zero, stdin.2]
        refine callMatches_of_refused simulates ?_ ?_
        · rfl
        · simp [FileTable.call, FileTable.readFile, Kernel.readOp]
      by_cases isStdout : fd = 1
      · subst isStdout
        have stdout := simulates.stdout
        simp only [Kernel.fileCall, Option.map_some]
        rw [Kernel.read_of_active fs stale woken kernel (by omega) (by omega)
          (by simpa using stdout.1)]
        simp only [Int.toNat_one, stdout.2]
        exact callMatches_of_refused simulates rfl rfl
      by_cases usable : table.InUse fd
      · obtain ⟨active, file, entry, describes⟩ := opened_of_inUse simulates usable
        obtain ⟨low, high, used⟩ := usable
        have named : FileRequest.Names (.read fd (some content) nbytes woken)
            (FileTable.readOpenFile fs file (freshBuffer content) nbytes).2 fd.toNat :=
          Int.eq_natCast_toNat.mpr (by omega)
        have abstract : table.call fs (.read fd (some content) nbytes woken) =
            (Function.update table fd.toNat (some { file with
              position := (FileTable.readOpenFile fs file
                (freshBuffer content) nbytes).1 }),
              (FileTable.readOpenFile fs file (freshBuffer content) nbytes).2) := by
          simp [FileTable.call, FileTable.readFile, isStdin, low, high, entry]
        simp only [Kernel.fileCall, Option.map_some]
        rw [Kernel.read_of_active fs stale woken kernel (by omega) high active]
        obtain ⟨descs, value⟩ := readOp_of_open fs stale woken describes
          (freshBuffer content) nbytes
        rw [← value] at abstract named
        refine callMatches_of_update simulates (by omega) descs abstract named
          (by simp) ?_
        rintro moved ⟨⟩
        exact ⟨active, describes.ops, describes.inode, rfl⟩
      · have unusable := unusable_of_none simulates ⟨isStdin, isStdout⟩ usable
        simp only [Kernel.fileCall]
        rw [Kernel.read_of_unusable fs stale woken unusable]
        apply callMatches_of_refused simulates rfl
        exact FileTable.readFile_of_unused fs isStdin usable (some content) nbytes woken

theorem write_matches (fs : FileSystem) (stale : StaleLocals) (fd : Int)
    (buf : Option CString) (nbytes : Int) :
    CallMatches fs kernel.currentPcb table (.write fd buf nbytes)
      (kernel.write stale fd buf nbytes) := by
  cases buf with
  | none => exact callMatches_of_refused simulates rfl rfl
  | some bytes =>
      by_cases isStdin : fd = 0
      · subst isStdin
        have stdin := simulates.stdin
        rw [Kernel.write_of_active stale kernel (by omega) (by omega)
          (by simpa using stdin.1)]
        simp only [Int.toNat_zero, stdin.2]
        exact callMatches_of_refused simulates rfl rfl
      by_cases isStdout : fd = 1
      · subst isStdout
        have stdout := simulates.stdout
        rw [Kernel.write_of_active stale kernel (by omega) (by omega)
          (by simpa using stdout.1)]
        simp only [Int.toNat_one, stdout.2]
        refine callMatches_of_refused simulates ?_ ?_
        · rfl
        · rfl
      by_cases usable : table.InUse fd
      · obtain ⟨active, file, entry, describes⟩ := opened_of_inUse simulates usable
        obtain ⟨low, high, used⟩ := usable
        obtain ⟨same, value⟩ := writeOp_of_open stale describes bytes nbytes
        have abstract : table.call fs (.write fd (some bytes) nbytes) =
            (table, FileTable.writeOpenFile file bytes nbytes) := by
          simp [FileTable.call, FileTable.writeFile, isStdout, low, high, entry]
        rw [Kernel.write_of_active stale kernel (by omega) high active]
        rw [← value] at abstract
        exact callMatches_of_refused simulates same abstract
      · have unusable := unusable_of_none simulates ⟨isStdin, isStdout⟩ usable
        rw [Kernel.write_of_unusable stale unusable]
        apply callMatches_of_refused simulates rfl
        rw [FileTable.call, FileTable.writeFile_of_unused isStdout usable]

/-- Every system call on descriptors matches its abstract call. -/
theorem fileCall_matches (fs : FileSystem) (call : FileCall) :
    CallMatches fs kernel.currentPcb table call.request
      (kernel.fileCall fs call) := by
  obtain ⟨request, stale⟩ := call
  cases request with
  | «open» filename => exact open_matches simulates fs stale filename
  | close fd => exact close_matches simulates fs fd
  | read fd buf nbytes woken =>
      exact read_matches simulates fs stale fd buf nbytes woken
  | write fd buf nbytes => exact write_matches simulates fs stale fd buf nbytes

/-- A sequence of system calls is simulated call by call. -/
theorem fileCalls_match (fs : FileSystem) (calls : List FileCall) :
    let done := kernel.fileCalls fs calls
    let abstract := table.calls fs (calls.map FileCall.request)
    done.1.currentPcb.Simulates abstract.1 ∧ done.2 = abstract.2 := by
  induction calls generalizing kernel table with
  | nil => exact ⟨simulates, rfl⟩
  | cons call rest ih =>
      have first := fileCall_matches simulates fs call
      obtain ⟨later, values⟩ := ih first.simulates
      refine ⟨later, ?_⟩
      simp only [Kernel.fileCalls, List.map_cons, FileTable.calls]
      rw [values, first.value]

end Calls

/-- Whatever a process opens, closes, reads and writes, its descriptors go on
simulating a partial map from numbers to open files: the calls return what
their abstract calls return, each next call again matches its abstract call,
and that call keeps the promises of the table. -/
theorem descriptor_table_refines (fs : FileSystem) {kernel : Kernel}
    (fresh : kernel.currentPcb.FreshTable) (calls : List FileCall) :
    let reached := kernel.fileCalls fs calls
    let abstract := FileTable.empty.calls fs (calls.map FileCall.request)
    reached.2 = abstract.2 ∧
      reached.1.currentPcb.Simulates abstract.1 ∧
        ∀ call : FileCall,
          CallMatches fs reached.1.currentPcb abstract.1 call.request
              (reached.1.fileCall fs call) ∧
            abstract.1.Promises fs call.request := by
  intro reached abstract
  obtain ⟨simulates, values⟩ := fileCalls_match fresh.simulates fs calls
  refine ⟨values, simulates, fun call => ⟨?_, ?_⟩⟩
  · exact fileCall_matches simulates fs call
  · exact FileTable.call_promises fs abstract.1 call.request

/-- A process that has just been started, before it opens the file of an image
twice, reads it, closes the first descriptor and opens the file again. -/
theorem descriptor_table_refines_reopened :
    let started := Kernel.loaded.setPcb Kernel.loaded.getPcbPtr
      { Kernel.loaded.currentPcb with
        fDescs := fun fd =>
          if fd = 0 then ⟨.stdinOpsTbl, 0, 0, 1⟩
          else if fd = 1 then ⟨.stdoutOpsTbl, 0, 0, 1⟩
          else ⟨.noFileOps, 0, 0, 0⟩ }
    let fs := FileSystem.ofFiles 0 [⟨[0x61], 2, 3⟩] [0x68, 0x69, 0x21]
    let calls : List FileCall :=
      [⟨.open (some (literal "a")), .zero⟩, ⟨.open (some (literal "a")), .zero⟩,
        ⟨.close 2, .zero⟩, ⟨.write 2 (some (literal "x")) 1, .zero⟩,
        ⟨.open (some (literal "a")), .zero⟩, ⟨.open (some (literal "b")), .zero⟩]
    (started.fileCalls fs calls).2 =
        (FileTable.empty.calls fs (calls.map FileCall.request)).2 ∧
      (started.fileCalls fs calls).2 = [2, 3, 0, -1, 2, -1] := by
  intro started fs calls
  have fresh : started.currentPcb.FreshTable := by
    simp only [started, Kernel.setPcb_currentPcb]
    exact
      { stdin := ⟨rfl, rfl⟩
        stdout := ⟨rfl, rfl⟩
        others := by
          intro fd low _
          simp only [if_neg (show fd ≠ 0 by omega), if_neg (show fd ≠ 1 by omega)]
          decide }
  exact ⟨(descriptor_table_refines fs fresh calls).1, by decide +kernel⟩

end ChapOS
