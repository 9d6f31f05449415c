import ChapOS.ConsoleSheet
import ChapOS.DirectoryListing
import ChapOS.FileStream
import ChapOS.KernelEvents
import ChapOS.UserSupport
import ChapOS.WhileLoops

/-!
# The kernel under a program

A program runs from one system call to the next.  Before each of them the kernel may
be interrupted any number of times, and all that is asked of the interrupts is that
they leave the process alone.  A session keeps the bytes that the writes of the
program have sent to the screen.
-/

namespace ChapOS

open WhileLoops

/-- What happens around the system calls of a program, by the number of the call: the
interrupts before it, what the uninitialised locals hold in it, and the terminal when
a wait for a line ends in it. -/
structure Surroundings where
  interrupts : Nat → Kernel → Kernel
  stale : Nat → StaleLocals
  woken : Nat → Tty

/-- The interrupts do not touch the process and its stack. -/
structure Surroundings.SparesProcess (around : Surroundings) : Prop where
  pcbAt : ∀ call kernel, (around.interrupts call kernel).pcbAt = kernel.pcbAt
  activeProcNum : ∀ call kernel,
    (around.interrupts call kernel).activeProcNum = kernel.activeProcNum
  esp : ∀ call kernel, (around.interrupts call kernel).esp = kernel.esp

/-- The interrupts print nothing. -/
def Surroundings.SparesScreen (around : Surroundings) : Prop :=
  ∀ call kernel, (around.interrupts call kernel).tty.console = kernel.tty.console

section Interrupts

/-- A key that neither ends a process nor asks for a terminal, whatever keys are held
down: not C and not F1 to F3. -/
abbrev QuietKey (key : Nat) : Prop :=
  key ≠ 0x2E ∧ key ≠ f1Down ∧ key ≠ f2Down ∧ key ≠ f3Down

/-- Only the key C has the letter. -/
theorem scancodeArray_ne_c {key : Nat} (mapped : key < numActualMapKeys)
    (notC : key ≠ 0x2E) (mode : KeyboardMode) :
    ¬(scancodeArray mode key = 0x63 ∨ scancodeArray mode key = 0x43) := by
  have table : ∀ other < numActualMapKeys, other ≠ 0x2E →
      ¬(scancodeArray mode other = 0x63 ∨ scancodeArray mode other = 0x43) := by
    cases mode <;> decide +kernel
  exact table key mapped notC

theorem pressOtherKey_of_quiet {key : Nat} (notC : key ≠ 0x2E) (tty : Tty) :
    (tty.pressOtherKey key).2 = .done := by
  unfold Tty.pressOtherKey
  split
  · rfl
  · rename_i mapped
    have noHalt := scancodeArray_ne_c (Nat.lt_of_not_le mapped) notC
      tty.keyboard.keyboardMode
    dsimp only
    split
    · rfl
    split
    · split <;> rfl
    · rfl

theorem handleKey_of_quiet {key : Nat} (quiet : QuietKey key) (tty : Tty) :
    (tty.handleKey key).2 = .done := by
  obtain ⟨notC, notFirst, notSecond, notThird⟩ := quiet
  have other := pressOtherKey_of_quiet notC tty
  unfold Tty.handleKey
  rw [if_neg notFirst, if_neg notSecond, if_neg notThird]
  iterate 11
    refine iteInduction (motive := fun handled : Tty × KeyAction => handled.2 = .done)
      (fun _ => rfl) fun _ => ?_
  exact other

/-- The interrupts that leave the running process alone. -/
inductive QuietInterrupt : Event → Prop
  | key {key : Nat} (quiet : QuietKey key) (stale : StaleLocals) :
      QuietInterrupt (.keyboard key stale)
  | clock : QuietInterrupt .rtcInterrupt
  | timer : QuietInterrupt .pitInterrupt

/-- Surroundings in which the given interrupts arrive before each call. -/
def Surroundings.ofEvents (layout : KernelLayout) (fs : FileSystem)
    (events : Nat → List Event) (stale : Nat → StaleLocals) (woken : Nat → Tty) :
    Surroundings where
  interrupts call kernel :=
    (events call).foldl (fun current event => (current.handle layout fs event).1) kernel
  stale := stale
  woken := woken

theorem QuietInterrupt.keeps {event : Event} (quiet : QuietInterrupt event)
    (layout : KernelLayout) (fs : FileSystem) (kernel : Kernel) :
    (kernel.handle layout fs event).1.pcbAt = kernel.pcbAt ∧
      (kernel.handle layout fs event).1.activeProcNum = kernel.activeProcNum ∧
      (kernel.handle layout fs event).1.esp = kernel.esp := by
  cases quiet with
  | key quiet stale =>
      obtain ⟨devices, handled⟩ := @keyboard_of_done layout fs kernel _ stale
        (handleKey_of_quiet quiet kernel.tty)
      rw [Kernel.handle, handled]
      exact ⟨rfl, rfl, rfl⟩
  | clock => exact ⟨rfl, rfl, rfl⟩
  | timer => exact ⟨rfl, rfl, rfl⟩

/-- Typing, clock ticks and timer ticks spare the process. -/
theorem Surroundings.ofEvents_sparesProcess (layout : KernelLayout) (fs : FileSystem)
    {events : Nat → List Event} (quiet : ∀ call, ∀ event ∈ events call, QuietInterrupt event)
    (stale : Nat → StaleLocals) (woken : Nat → Tty) :
    (ofEvents layout fs events stale woken).SparesProcess := by
  have keeps (list : List Event) (allQuiet : ∀ event ∈ list, QuietInterrupt event)
      (kernel : Kernel) :
      let after := list.foldl (fun current event => (current.handle layout fs event).1) kernel
      after.pcbAt = kernel.pcbAt ∧ after.activeProcNum = kernel.activeProcNum ∧
        after.esp = kernel.esp := by
    induction list generalizing kernel with
    | nil => exact ⟨rfl, rfl, rfl⟩
    | cons event list ih =>
        obtain ⟨pcbAt, activeProcNum, esp⟩ :=
          (allQuiet event List.mem_cons_self).keeps layout fs kernel
        obtain ⟨laterPcbAt, laterProcNum, laterEsp⟩ :=
          ih (fun later mem => allQuiet later (List.mem_cons_of_mem event mem))
            (kernel.handle layout fs event).1
        exact ⟨laterPcbAt.trans pcbAt, laterProcNum.trans activeProcNum, laterEsp.trans esp⟩
  constructor
  · intro call kernel
    exact (keeps (events call) (quiet call) kernel).1
  · intro call kernel
    exact (keeps (events call) (quiet call) kernel).2.1
  · intro call kernel
    exact (keeps (events call) (quiet call) kernel).2.2

end Interrupts

/-- The kernel, the number of system calls so far, and the bytes that the program has
sent to the screen. -/
structure Session where
  kernel : Kernel
  calls : Nat
  shown : List UInt8

/-- The bytes that a write sends to the screen. -/
def Kernel.shownBy (kernel : Kernel) (fd : Int) (buf : CString) (nbytes : Int) :
    List UInt8 :=
  let desc := kernel.currentPcb.fDescs fd.toNat
  if 0 ≤ fd ∧ fd < 8 ∧ desc.flags = flagActive ∧ desc.fopsJmpTbPtr = .stdoutOpsTbl then
    ((List.range nbytes.toNat).map buf).filter fun c => c ≠ 0
  else []

/-- What `open` makes of an entry that is a directory or a regular file. -/
inductive FileSystem.Opens (fs : FileSystem) (index : Nat) : FileDesc → Prop
  | directory (isDir : fs.entryType index = fileTypeDir) :
      fs.Opens index ⟨.dirOpsTbl, 0, 0, flagActive⟩
  | regular (isFile : fs.entryType index = fileTypeFile) :
      fs.Opens index ⟨.fileOpsTbl, fs.entryInode index, 0, flagActive⟩

/-- `open` of a name in the directory fills the first free slot. -/
theorem Kernel.open_descs {fs : FileSystem} (kernel : Kernel) (stale : StaleLocals)
    {name : CString} {index fd : Nat} (named : name 0 ≠ 0)
    (found : fs.findEntry name = some index)
    (free : freeSlot kernel.currentPcb = some fd) {desc : FileDesc}
    (opens : fs.Opens index desc) :
    ∃ next, kernel.open fs stale (some name) = (next, (fd : Int)) ∧
      next.currentPcb.fDescs = Function.update kernel.currentPcb.fDescs fd desc ∧
      next.tty = kernel.tty := by
  have entry := fs.readDentryByName_of_found stale.dentry found
  have accepted : ¬(0 : Int) = -1 := by decide
  unfold «open»
  dsimp only
  rw [if_neg named, entry, if_neg accepted, free]
  dsimp only
  cases opens with
  | directory isDir =>
      rw [if_pos isDir]
      refine ⟨_, rfl, ?_, rfl⟩
      rw [setDesc_currentPcb]
      rfl
  | regular isFile =>
      rw [if_neg (by rw [isFile]; decide), if_pos isFile]
      refine ⟨_, rfl, ?_, rfl⟩
      rw [setPcb_currentPcb]
      rfl

namespace Session

/-- The PCB of the program. -/
def pcb (session : Session) : Pcb :=
  session.kernel.currentPcb

/-- The interrupts before a system call. -/
def enter (around : Surroundings) (session : Session) : Session :=
  { session with
    kernel := around.interrupts session.calls session.kernel
    calls := session.calls + 1 }

/-- The system calls of the kernel. -/
def systemCalls (fs : FileSystem) (around : Surroundings) : SystemCalls Session where
  getargs session buf nbytes :=
    let entered := session.enter around
    let done := entered.kernel.getargs (some (freshBuffer buf)) (BitVec.ofInt 32 nbytes)
    (entered, done.1, done.2.elim buf TracedMemory.read)
  openFile session filename :=
    let entered := session.enter around
    let done := entered.kernel.open fs (around.stale session.calls) (some filename)
    ({ entered with kernel := done.1 }, done.2)
  read session fd buf nbytes :=
    let entered := session.enter around
    let done := entered.kernel.read fs (around.stale session.calls)
      (around.woken session.calls) fd (some (freshBuffer buf)) nbytes
    ({ entered with kernel := done.1 }, done.2.1, done.2.2.elim buf TracedMemory.read)
  write session fd buf nbytes :=
    let entered := session.enter around
    let done := entered.kernel.write (around.stale session.calls) fd (some buf) nbytes
    ({ entered with
        kernel := done.1
        shown := entered.shown ++ entered.kernel.shownBy fd buf nbytes }, done.2)
  close session fd :=
    let entered := session.enter around
    let done := entered.kernel.close fd
    ({ entered with kernel := done.1 }, done.2)

/-- From one session to a later one the program has printed some bytes.  Unless
interrupts print as well, these are all that changes the screen. -/
structure Prints (around : Surroundings) (before : Session) (bytes : List UInt8)
    (after : Session) : Prop where
  shown : after.shown = before.shown ++ bytes
  screen : around.SparesScreen →
    after.kernel.tty.console = before.kernel.tty.console.putAll bytes

/-- Descriptor 1 of the program is the terminal. -/
structure HasStdout (session : Session) : Prop where
  flags : (session.pcb.fDescs 1).flags = flagActive
  ops : (session.pcb.fDescs 1).fopsJmpTbPtr = .stdoutOpsTbl

variable {around : Surroundings} {fs : FileSystem} {session middle after : Session}
  {bytes more : List UInt8}

namespace Prints

theorem refl (around : Surroundings) (session : Session) :
    Prints around session [] session :=
  ⟨(List.append_nil _).symm, fun _ => rfl⟩

theorem trans (first : Prints around session bytes middle)
    (second : Prints around middle more after) :
    Prints around session (bytes ++ more) after := by
  constructor
  · rw [second.shown, first.shown, List.append_assoc]
  · intro quiet
    rw [second.screen quiet, first.screen quiet, Console.putAll, Console.putAll,
      Console.putAll, List.foldl_append]

theorem silent (first : Prints around session [] middle)
    (second : Prints around middle bytes after) : Prints around session bytes after :=
  first.trans second

end Prints

theorem HasStdout.congr (stdout : session.HasStdout)
    (same : after.pcb.fDescs 1 = session.pcb.fDescs 1) : after.HasStdout :=
  ⟨same ▸ stdout.flags, same ▸ stdout.ops⟩

theorem enter_pcb (spares : around.SparesProcess) (session : Session) :
    (session.enter around).kernel.currentPcb = session.pcb := by
  unfold pcb Kernel.currentPcb Kernel.getPcbPtr enter
  rw [spares.pcbAt, spares.esp]

theorem enter_argBuff (spares : around.SparesProcess) (session : Session) :
    ((session.enter around).kernel.pcbAt
        (pcbAddress (session.enter around).kernel.activeProcNum)).argBuff =
      (session.kernel.pcbAt (pcbAddress session.kernel.activeProcNum)).argBuff := by
  unfold enter
  rw [spares.pcbAt, spares.activeProcNum]

/-- A call that leaves the console alone prints nothing. -/
theorem prints_of_console {kernel : Kernel}
    (same : kernel.tty.console = (session.enter around).kernel.tty.console) :
    Prints around session [] { session.enter around with kernel := kernel } := by
  constructor
  · exact (List.append_nil _).symm
  · intro quiet
    exact same.trans (quiet session.calls session.kernel)

/-- A write to the terminal prints the bytes that are not NUL. -/
theorem write_stdout (fs : FileSystem) (spares : around.SparesProcess)
    (stdout : session.HasStdout) (buf : CString) (nbytes : Int) :
    ∃ after, (systemCalls fs around).write session 1 buf nbytes =
        (after, (nbytes.toNat : Int)) ∧
      after.pcb = session.pcb ∧
      Prints around session (((List.range nbytes.toNat).map buf).filter fun c => c ≠ 0)
        after := by
  have flags := stdout.flags
  have ops := stdout.ops
  have entered := enter_pcb spares session
  have written : (session.enter around).kernel.write (around.stale session.calls) 1
      (some buf) nbytes =
        ((session.enter around).kernel.setConsole
          (keyboardWrite (session.enter around).kernel.tty.console buf nbytes).1,
          (nbytes.toNat : Int)) := by
    have active : ((session.enter around).kernel.currentPcb.fDescs (1 : Int).toNat).flags =
        flagActive := by
      rw [entered]
      exact flags
    rw [Kernel.write_of_active _ _ (by decide) (by decide) active, entered]
    simp only [Int.toNat_one, ops]
    rfl
  have shown : (session.enter around).kernel.shownBy 1 buf nbytes =
      ((List.range nbytes.toNat).map buf).filter fun c => c ≠ 0 := by
    unfold Kernel.shownBy
    rw [entered]
    exact if_pos ⟨by omega, by omega, flags, ops⟩
  refine ⟨{ session.enter around with
      kernel := (session.enter around).kernel.setConsole
        (keyboardWrite (session.enter around).kernel.tty.console buf nbytes).1
      shown := session.shown ++ (session.enter around).kernel.shownBy 1 buf nbytes },
    ?_, entered, congrArg (session.shown ++ ·) shown, ?_⟩
  · simp only [systemCalls, written]
    rfl
  · intro quiet
    have same : (session.enter around).kernel.tty.console = session.kernel.tty.console :=
      quiet session.calls session.kernel
    show (keyboardWrite _ buf nbytes).1 = _
    rw [Console.keyboardWrite_eq_putAll, same]

/-- The bytes of a string and the NULs behind it. -/
theorem filter_of_spells {s : CString} {word : List UInt8} (spells : Spells s word)
    {count : Nat} (within : word.length ≤ count)
    (padded : ∀ k, word.length ≤ k → k < count → s k = 0) :
    ((List.range count).map s).filter (fun c => c ≠ 0) = word := by
  have bytes : (List.range word.length).map s = word := by
    apply List.ext_getElem (by simp)
    intro index low high
    rw [List.getElem_map, List.getElem_range, spells.read (by omega), cString_of_lt high]
  have noNul : word.filter (fun c => c ≠ 0) = word := by
    rw [List.filter_eq_self]
    intro character mem
    simpa using spells.noNul character mem
  obtain ⟨rest, rfl⟩ : ∃ rest, count = word.length + rest :=
    ⟨count - word.length, by omega⟩
  rw [List.range_add, List.map_append, List.filter_append, bytes, noNul,
    List.append_right_eq_self, List.filter_eq_nil_iff]
  intro character mem
  simp only [List.mem_map, List.mem_range] at mem
  obtain ⟨_, ⟨index, indexLt, rfl⟩, rfl⟩ := mem
  simpa using padded (word.length + index) (by omega) (by omega)

/-- The program has printed some bytes and kept its PCB. -/
structure Writes (around : Surroundings) (before : Session) (bytes : List UInt8)
    (after : Session) : Prop where
  pcb : after.pcb = before.pcb
  prints : Prints around before bytes after

namespace Writes

theorem refl (around : Surroundings) (session : Session) :
    Writes around session [] session :=
  ⟨rfl, .refl around session⟩

theorem trans (first : Writes around session bytes middle)
    (second : Writes around middle more after) :
    Writes around session (bytes ++ more) after :=
  ⟨second.pcb.trans first.pcb, first.prints.trans second.prints⟩

theorem hasStdout (writes : Writes around session bytes after)
    (stdout : session.HasStdout) : after.HasStdout :=
  stdout.congr (by rw [writes.pcb])

end Writes

/-- `ece391_fdputs` prints a string. -/
theorem fdputs_writes (fs : FileSystem) (spares : around.SparesProcess)
    (stdout : session.HasStdout) {s : CString} {word : List UInt8} (spells : Spells s word)
    (short : word.length < 2 ^ 31) :
    Writes around session word ((systemCalls fs around).ece391Fdputs session 1 s) := by
  have length : int32 (ece391Strlen s) = word.length := by
    rw [ece391Strlen, strlen_of_spells spells (by omega)]
    exact Int.bmod_eq_of_le (by omega) (by omega)
  obtain ⟨after, written, samePcb, prints⟩ := write_stdout fs spares stdout s word.length
  rw [Int.toNat_natCast, filter_of_spells spells (Nat.le_refl _) (by omega)] at prints
  unfold SystemCalls.ece391Fdputs
  rw [length, written]
  exact ⟨samePcb, prints⟩

/-- `ece391_getargs` with room for the argument. -/
theorem getargs_argument (fs : FileSystem) (spares : around.SparesProcess)
    {word : List UInt8}
    (spells : Spells
      (session.kernel.pcbAt (pcbAddress session.kernel.activeProcNum)).argBuff word)
    (buf : CString) {nbytes : Nat} (room : word.length ≤ nbytes) (short : nbytes < 2 ^ 31) :
    ∃ after content,
      (systemCalls fs around).getargs session buf nbytes = (after, 0, content) ∧
        Spells content word ∧ after.pcb = session.pcb ∧ Prints around session [] after := by
  rw [← enter_argBuff spares session] at spells
  have value : (BitVec.ofInt 32 nbytes).toNat = nbytes := by
    rw [BitVec.ofInt_natCast, BitVec.toNat_ofNat, Nat.mod_eq_of_lt (by omega)]
  have length := strlen_of_spells spells (by omega)
  have copied := strcpyTo_eq spells (by omega) (freshBuffer buf)
  have done : (session.enter around).kernel.getargs (some (freshBuffer buf))
      (BitVec.ofInt 32 nbytes) = (0, some (strcpyTo (freshBuffer buf) 0
        ((session.enter around).kernel.pcbAt
          (pcbAddress (session.enter around).kernel.activeProcNum)).argBuff)) := by
    unfold Kernel.getargs
    dsimp only
    rw [length, value, if_neg (by omega)]
  refine ⟨session.enter around, (strcpyTo (freshBuffer buf) 0
        ((session.enter around).kernel.pcbAt
          (pcbAddress (session.enter around).kernel.activeProcNum)).argBuff).read,
    ?_, ?_, enter_pcb spares session, prints_of_console rfl⟩
  · simp only [systemCalls, done]
    rfl
  · rw [copied]
    apply spells_of_read spells.noNul
    intro k inside
    rw [if_pos inside]

/-- `ece391_open` of a name in the directory. -/
theorem openFile_found (spares : around.SparesProcess) {name : CString} {index fd : Nat}
    (named : name 0 ≠ 0) (found : fs.findEntry name = some index)
    (free : Kernel.freeSlot session.pcb = some fd) {desc : FileDesc}
    (opens : fs.Opens index desc) :
    ∃ after, (systemCalls fs around).openFile session name = (after, (fd : Int)) ∧
      after.pcb.fDescs = Function.update session.pcb.fDescs fd desc ∧
      Prints around session [] after := by
  rw [← enter_pcb spares session] at free
  obtain ⟨next, done, descs, sameTty⟩ := Kernel.open_descs (session.enter around).kernel
    (around.stale session.calls) named found free opens
  rw [enter_pcb spares session] at descs
  refine ⟨{ session.enter around with kernel := next }, ?_, descs,
    prints_of_console (congrArg Tty.console sameTty)⟩
  simp only [systemCalls, done]

section Reads

variable {fd inode position : Nat}

/-- A read of the kernel as the program sees it. -/
theorem read_of_done {fd nbytes value : Int} {buf : CString} {next : Kernel}
    {out : UserBuffer}
    (done : (session.enter around).kernel.read fs (around.stale session.calls)
      (around.woken session.calls) fd (some (freshBuffer buf)) nbytes =
        (next, value, some out)) :
    (systemCalls fs around).read session fd buf nbytes =
      ({ session.enter around with kernel := next }, value, out.read) := by
  simp only [systemCalls, done]
  rfl

/-- A read that starts inside a regular file. -/
theorem read_inside (spares : around.SparesProcess) (fdLt : fd < 8)
    (placed : session.pcb.fDescs fd = ⟨.fileOpsTbl, inode, position, flagActive⟩)
    (inRange : inode < fs.numInodes) (inside : position < fs.inodeLength inode)
    (lengthLt : fs.inodeLength inode + 1 < 2 ^ 32) (buf : CString) {nbytes : Nat}
    (bounded : nbytes < 2 ^ 31) :
    ∃ after content,
      (systemCalls fs around).read session fd buf nbytes =
          (after, (fs.readCount inode position nbytes : Int), content) ∧
        after.pcb.fDescs = Function.update session.pcb.fDescs fd
          ⟨.fileOpsTbl, inode, position + fs.readCount inode position nbytes, flagActive⟩ ∧
        Prints around session [] after ∧
        ∀ k, content k =
          if k < fs.readCount inode position nbytes then
            fs.mem (fs.byteAddress inode (position + k))
          else buf k := by
  have entered := enter_pcb spares session
  have atPosition : (session.enter around).kernel.AtPosition fd inode position := by
    unfold Kernel.AtPosition
    rw [entered, placed]
  have length : ((nbytes : Int) % 2 ^ 32).toNat = nbytes := by
    rw [Int.emod_eq_of_lt (by omega) (by omega), Int.toNat_natCast]
  have countLe : position + fs.readCount inode position nbytes ≤
      fs.inodeLength inode + 1 := by
    unfold FileSystem.readCount
    omega
  have advanced : ((position + (fs.readCount inode position nbytes : Int)) %
      2 ^ 32).toNat = position + fs.readCount inode position nbytes := by
    rw [Int.emod_eq_of_lt (by omega) (by omega)]
    omega
  have copied := fs.readData_eq fs.assignBuffer (freshBuffer buf) nbytes inRange inside
    lengthLt
  rw [FileSystem.forUpTo_assignBuffer] at copied
  have done : (session.enter around).kernel.fileRead fs fd (freshBuffer buf) nbytes =
      ((session.enter around).kernel.setDesc fd
          ⟨.fileOpsTbl, inode, position + fs.readCount inode position nbytes, flagActive⟩,
        (fs.readCount inode position nbytes : Int),
        (freshBuffer buf).storeSequence (fun k => k)
          (fun k => fs.mem (fs.byteAddress inode (position + k)))
          (fs.readCount inode position nbytes)) := by
    unfold Kernel.fileRead
    rw [atPosition]
    dsimp only
    rw [length, copied]
    dsimp only
    rw [advanced]
  have answered := @read_of_atPosition fs (around.stale session.calls)
    (around.woken session.calls) _ fd _ _ fdLt atPosition (freshBuffer buf) nbytes
  rw [done] at answered
  refine ⟨_, _, read_of_done answered, ?_, prints_of_console rfl, fun k => ?_⟩
  · unfold pcb
    rw [Kernel.setDesc_currentPcb, entered]
    rfl
  · split
    · rename_i kLt
      exact TracedMemory.storeSequence_read _ _ (by intros; assumption) kLt
    · rename_i outside
      apply (TracedMemory.storeSequence_storesOnly _ _ _ _).read_eq
      rintro ⟨index, indexLt, rfl⟩
      exact outside indexLt

/-- A read at the end of a regular file. -/
theorem read_atEnd (spares : around.SparesProcess) (fdLt : fd < 8)
    (placed : session.pcb.fDescs fd = ⟨.fileOpsTbl, inode, position, flagActive⟩)
    (inRange : inode < fs.numInodes) (atEnd : fs.inodeLength inode ≤ position)
    (positionLt : position < 2 ^ 32) (buf : CString) (nbytes : Int) :
    ∃ after,
      (systemCalls fs around).read session fd buf nbytes = (after, 0, buf) ∧
        after.pcb.fDescs = session.pcb.fDescs ∧ Prints around session [] after := by
  have entered := enter_pcb spares session
  have atPosition : (session.enter around).kernel.AtPosition fd inode position := by
    unfold Kernel.AtPosition
    rw [entered, placed]
  have nothing := fs.readData_of_atEnd fs.assignBuffer (freshBuffer buf)
    (nbytes % 2 ^ 32).toNat inRange atEnd
  have still : (((position : Int) + 0) % 2 ^ 32).toNat = position := by
    rw [Int.add_zero, Int.emod_eq_of_lt (by omega) (by omega), Int.toNat_natCast]
  have done : (session.enter around).kernel.fileRead fs fd (freshBuffer buf) nbytes =
      ((session.enter around).kernel.setDesc fd
        ⟨.fileOpsTbl, inode, position, flagActive⟩, 0, freshBuffer buf) := by
    unfold Kernel.fileRead
    rw [atPosition]
    dsimp only
    rw [nothing]
    dsimp only
    rw [still]
  have answered := @read_of_atPosition fs (around.stale session.calls)
    (around.woken session.calls) _ fd _ _ fdLt atPosition (freshBuffer buf) nbytes
  rw [done] at answered
  refine ⟨_, read_of_done answered, ?_, prints_of_console rfl⟩
  unfold pcb
  rw [Kernel.setDesc_currentPcb, entered, ← placed]
  exact Function.update_eq_self fd _

/-- A read of the directory takes no notice of the count. -/
theorem read_directory (spares : around.SparesProcess) (fdLt : fd < 8)
    (lists : (session.pcb.fDescs fd).ListsFrom position) (buf : CString) (nbytes : Int) :
    (session.enter around).kernel.read fs (around.stale session.calls)
        (around.woken session.calls) fd (some (freshBuffer buf)) nbytes =
      (session.enter around).kernel.readDirectory fs fd
        ⟨around.stale session.calls, around.woken session.calls, freshBuffer buf⟩ := by
  have active : ((session.enter around).kernel.currentPcb.fDescs (fd : Int).toNat).flags =
      flagActive := by
    rw [enter_pcb spares session, Int.toNat_natCast]
    exact lists.flags
  have entered : ((session.enter around).kernel.currentPcb.fDescs fd).ListsFrom position := by
    rw [enter_pcb spares session]
    exact lists
  rw [Kernel.readDirectory_eq entered fdLt,
    Kernel.read_of_active _ _ _ _ (by omega) (by omega) active]
  simp only [Int.toNat_natCast, entered.ops, Kernel.readOp]

/-- A read of the directory in front of the end of the listing. -/
theorem read_entry (spares : around.SparesProcess) (fdLt : fd < 8)
    (lists : (session.pcb.fDescs fd).ListsFrom position)
    (inFront : position < fs.listingLength) (buf : CString) (nbytes : Int) :
    ∃ after content,
      (systemCalls fs around).read session fd buf nbytes = (after, 32, content) ∧
        after.pcb.fDescs = Function.update session.pcb.fDescs fd
          { session.pcb.fDescs fd with filePos := position + 1 } ∧
        Prints around session [] after ∧
        ∀ k, content k = if k < 32 then fs.paddedName position k else buf k := by
  have entered : ((session.enter around).kernel.currentPcb.fDescs fd).ListsFrom position := by
    rw [enter_pcb spares session]
    exact lists
  have answered := Kernel.readDirectory_of_entry entered fdLt
    ⟨around.stale session.calls, around.woken session.calls, freshBuffer buf⟩ inFront
  rw [← read_directory spares fdLt lists buf nbytes] at answered
  refine ⟨_, _, read_of_done answered, ?_, prints_of_console rfl, fun k => ?_⟩
  · unfold pcb
    rw [Kernel.setDesc_currentPcb, enter_pcb spares session]
    rfl
  · split
    · rename_i kLt
      exact TracedMemory.storeSequence_read _ _ (by intros; assumption) kLt
    · rename_i outside
      apply (TracedMemory.storeSequence_storesOnly _ _ _ _).read_eq
      rintro ⟨index, indexLt, rfl⟩
      exact outside indexLt

/-- A read of the directory at the end of the listing. -/
theorem read_listingEnd (spares : around.SparesProcess) (fdLt : fd < 8)
    (lists : (session.pcb.fDescs fd).ListsFrom position)
    (atEnd : position = fs.listingLength) (buf : CString) (nbytes : Int) :
    ∃ after,
      (systemCalls fs around).read session fd buf nbytes = (after, 0, buf) ∧
        after.pcb.fDescs = Function.update session.pcb.fDescs fd
          { session.pcb.fDescs fd with filePos := 0 } ∧
        Prints around session [] after := by
  have entered : ((session.enter around).kernel.currentPcb.fDescs fd).ListsFrom position := by
    rw [enter_pcb spares session]
    exact lists
  have answered := Kernel.readDirectory_of_end entered fdLt
    ⟨around.stale session.calls, around.woken session.calls, freshBuffer buf⟩ atEnd
  rw [← read_directory spares fdLt lists buf nbytes] at answered
  refine ⟨_, read_of_done answered, ?_, prints_of_console rfl⟩
  unfold pcb
  rw [Kernel.setDesc_currentPcb, enter_pcb spares session]
  rfl

end Reads

/-- `ece391_close` of a regular file or a directory. -/
theorem close_open (fs : FileSystem) (spares : around.SparesProcess) {fd : Nat}
    (fdLow : 2 ≤ fd) (fdLt : fd < 8) (active : (session.pcb.fDescs fd).flags = flagActive)
    (ops : (session.pcb.fDescs fd).fopsJmpTbPtr = .fileOpsTbl ∨
      (session.pcb.fDescs fd).fopsJmpTbPtr = .dirOpsTbl) :
    ∃ after, (systemCalls fs around).close session fd = (after, 0) ∧
      after.pcb.fDescs = Function.update session.pcb.fDescs fd
        { session.pcb.fDescs fd with flags := flagInactive } ∧
      Prints around session [] after := by
  have entered := enter_pcb spares session
  have inTable : ¬((maxOpenFile : Int) ≤ fd ∨ (fd : Int) < 0) := by
    simp only [maxOpenFile]
    omega
  have notTerminal : ¬((fd : Int) = fdsStdinIdx ∨ (fd : Int) = fdsStdoutIdx) := by
    simp only [fdsStdinIdx, fdsStdoutIdx]
    omega
  have done : (session.enter around).kernel.close fd =
      ((session.enter around).kernel.setDesc fd
        { session.pcb.fDescs fd with flags := flagInactive }, 0) := by
    unfold Kernel.close
    rw [if_neg inTable, if_neg notTerminal, Int.toNat_natCast, entered]
    dsimp only
    rw [if_neg (not_not_intro active)]
    rcases ops with isFile | isDir
    · rw [isFile]
      rfl
    · rw [isDir]
      rfl
  refine ⟨{ session.enter around with
      kernel := (session.enter around).kernel.setDesc fd
        { session.pcb.fDescs fd with flags := flagInactive } },
    ?_, ?_, prints_of_console rfl⟩
  · simp only [systemCalls, done]
  · unfold pcb
    rw [Kernel.setDesc_currentPcb, entered]
    rfl

/-- Which slot is the first free one only depends on the slots in use. -/
theorem freeSlot_congr {pcb other : Pcb}
    (same : ∀ fd, (other.fDescs fd).flags = flagActive ↔
      (pcb.fDescs fd).flags = flagActive) :
    Kernel.freeSlot other = Kernel.freeSlot pcb := by
  have scan (remaining i : Nat) :
      Kernel.freeSlotFrom other remaining i = Kernel.freeSlotFrom pcb remaining i := by
    induction remaining generalizing i with
    | zero => rfl
    | succ remaining ih => simp only [Kernel.freeSlotFrom, ne_eq, same, ih]
  exact scan _ _

/-- The slots in front of the first free one are in use. -/
theorem freeSlot_of_flags {pcb : Pcb} {fd : Nat} (low : 2 ≤ fd) (high : fd < 8)
    (used : ∀ i, 2 ≤ i → i < fd → (pcb.fDescs i).flags = flagActive)
    (free : (pcb.fDescs fd).flags ≠ flagActive) : Kernel.freeSlot pcb = some fd := by
  rw [Kernel.freeSlot, Pcb.freeSlotFrom_eq, List.find?_range'_eq_some]
  refine ⟨by simpa using free, ?_, ?_⟩
  · rw [List.mem_range'_1]
    simp only [maxOpenFile, minOpenFile]
    omega
  · intro i lower upper
    have active := used i lower upper
    simp [active]

/-- A loop that prints one piece after the other.  Loops inside a turn may need turns of
their own. -/
theorem ends_of_pieces
    (turn : Nat → Session × CString → Turn (Session × CString) (Session × Int))
    {count : Nat} (holds : Nat → Session → Prop) (piece : Nat → List UInt8)
    (atPiece : ∀ n < count, ∀ session buf, holds n session →
      ∃ enough next content,
        (∀ turns, enough ≤ turns → turn turns (session, buf) = .next (next, content)) ∧
          holds (n + 1) next ∧ Prints around session (piece n) next)
    (atEnd : ∀ session buf, holds count session →
      ∃ after, (∀ turns, turn turns (session, buf) = .exit (after, 0)) ∧
        Prints around session [] after)
    {n left : Nat} (isLeft : n + left = count) (start : holds n session) (buf : CString) :
    ∃ enough after,
      (∀ turns, enough ≤ turns → runFor (turn turns) turns (session, buf) = some (after, 0)) ∧
        Prints around session ((List.range' n left).flatMap piece) after := by
  have loop : ∃ enough after,
      (∀ turns, enough ≤ turns → ∀ more, enough ≤ more →
        runFor (turn turns) more (session, buf) = some (after, 0)) ∧
        Prints around session ((List.range' n left).flatMap piece) after := by
    induction left generalizing n session buf with
    | zero =>
        obtain rfl : n = count := isLeft
        obtain ⟨after, exits, silent⟩ := atEnd session buf start
        refine ⟨1, after, fun turns _ more isMore => ?_, silent⟩
        obtain ⟨more, rfl⟩ : ∃ rest, more = rest + 1 := ⟨more - 1, by omega⟩
        exact runFor_exit (exits turns) more
    | succ left ih =>
        obtain ⟨enough, next, content, goesOn, kept, prints⟩ :=
          atPiece n (by omega) session buf start
        obtain ⟨enoughRest, after, ends, printsRest⟩ := ih (by omega) kept content
        rw [List.range'_succ, List.flatMap_cons]
        refine ⟨max enough enoughRest + 1, after, fun turns isEnough more isMore => ?_,
          prints.trans printsRest⟩
        obtain ⟨more, rfl⟩ : ∃ rest, more = rest + 1 := ⟨more - 1, by omega⟩
        rw [runFor_next (goesOn turns (by omega))]
        exact ends turns (by omega) more (by omega)
  obtain ⟨enough, after, ends, prints⟩ := loop
  exact ⟨enough, after, fun turns isEnough => ends turns isEnough turns isEnough, prints⟩

section Start

/-- The loaded kernel with a process that has been given an argument, and nothing open
but the terminal. -/
def started (word : List UInt8) : Session where
  kernel := Kernel.loaded.setPcb Kernel.loaded.getPcbPtr
    { Kernel.loaded.currentPcb with
      argBuff := cString word
      fDescs := fun fd =>
        if fd = 0 then ⟨.stdinOpsTbl, 0, 0, flagActive⟩
        else if fd = 1 then ⟨.stdoutOpsTbl, 0, 0, flagActive⟩
        else ⟨.noFileOps, 0, 0, flagInactive⟩ }
  calls := 0
  shown := []

/-- Someone types `a` and the clock ticks before every call. -/
def busy (fs : FileSystem) : Surroundings :=
  .ofEvents lowLayout fs (fun _ => [.keyboard 0x1E .zero, .rtcInterrupt, .pitInterrupt])
    (fun _ => .zero) fun _ => Kernel.loaded.tty

theorem busy_sparesProcess (fs : FileSystem) : (busy fs).SparesProcess := by
  apply Surroundings.ofEvents_sparesProcess
  intro call event mem
  simp only [List.mem_cons, List.not_mem_nil, or_false] at mem
  rcases mem with rfl | rfl | rfl
  · exact .key (by decide) .zero
  · exact .clock
  · exact .timer

theorem started_fDescs (word : List UInt8) :
    (started word).pcb.fDescs = fun fd =>
      if fd = 0 then ⟨.stdinOpsTbl, 0, 0, flagActive⟩
      else if fd = 1 then ⟨.stdoutOpsTbl, 0, 0, flagActive⟩
      else ⟨.noFileOps, 0, 0, flagInactive⟩ := by
  unfold pcb started
  rw [Kernel.setPcb_currentPcb]

theorem started_hasStdout (word : List UInt8) : (started word).HasStdout := by
  constructor
  · rw [started_fDescs]
    rfl
  · rw [started_fDescs]
    rfl

theorem started_freeSlot (word : List UInt8) :
    Kernel.freeSlot (started word).pcb = some 2 := by
  unfold Kernel.freeSlot
  rw [show maxOpenFile - minOpenFile = 5 + 1 from rfl, Kernel.freeSlotFrom,
    started_fDescs]
  rfl

theorem started_spells {word : List UInt8} (noNul : ∀ character ∈ word, character ≠ 0) :
    Spells ((started word).kernel.pcbAt
      (pcbAddress (started word).kernel.activeProcNum)).argBuff word := by
  have first : pcbAddress Kernel.loaded.activeProcNum = Kernel.loaded.getPcbPtr := by
    decide +kernel
  have same : ((started word).kernel.pcbAt
      (pcbAddress (started word).kernel.activeProcNum)).argBuff = cString word := by
    unfold started Kernel.setPcb
    dsimp only
    rw [first, Function.update_self]
  rw [same]
  exact spells_cString noNul

end Start

end Session

end ChapOS
