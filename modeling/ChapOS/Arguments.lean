import ChapOS.ProcessStack

/-!
# The argument of a program

`execute` stores the argument in the PCB of the new process, and `getargs` copies
it to the program.  The emulation layer for Linux does the same from the argument
vector of the host, and is what the test of the buffer's size is compared with.
-/

namespace ChapOS

/-- The loop of `strcpy` to `dest + start` from index `i`, with `remaining`
characters before the index overflows. -/
def strcpyFrom (src : CString) (start : Nat) : Nat → Nat → UserBuffer → UserBuffer
  | 0, _, dest => dest
  | remaining + 1, i, dest =>
      if src i = 0 then dest.store (start + i) 0
      else strcpyFrom src start remaining (i + 1) (dest.store (start + i) (src i))

/-- `strcpy` to `dest + start`. -/
def strcpyTo (dest : UserBuffer) (start : Nat) (src : CString) : UserBuffer :=
  strcpyFrom src start (2 ^ 31) 0 dest

/-- `getargs`.  `buf` is `none` for a NULL pointer; the comparison is unsigned. -/
def Kernel.getargs (kernel : Kernel) (buf : Option UserBuffer) (nbytes : BitVec 32) :
    Int × Option UserBuffer :=
  match buf with
  | none => (-1, none)
  | some memory =>
      let argBuff := (kernel.pcbAt (pcbAddress kernel.activeProcNum)).argBuff
      if nbytes.toNat < strlen argBuff then (-1, some memory)
      else (0, some (strcpyTo memory 0 argBuff))

namespace Emulation

/-- The loop of `ece391_getargs` over the arguments from `idx` on.  `buf` has
advanced by `start`. -/
def copyArgs (start : Nat) (nbytes : Int) : List CString → UserBuffer → Int × UserBuffer
  | [], buf => if nbytes < 1 then (-1, buf) else (0, buf.store start 0)
  | arg :: rest, buf =>
      let len := strlen arg
      if nbytes < len then (-1, buf)
      else
        let copied := strcpyTo buf start arg
        match rest with
        | [] =>
            if nbytes - len < 1 then (-1, copied) else (0, copied.store (start + len) 0)
        | _ :: _ =>
            if nbytes - len < 1 then (-1, copied)
            else
              copyArgs (start + len + 1) (nbytes - len - 1) rest
                (copied.store (start + len) 0x20)

/-- `ece391_getargs`, where `args` is `argv` without the name of the program. -/
def getargs (args : List CString) (buf : UserBuffer) (nbytes : BitVec 32) :
    Int × UserBuffer :=
  copyArgs 0 nbytes.toInt args buf

/-- The arguments that `ece391_execute` passes on for one word. -/
def argsOf (word : List UInt8) : List CString :=
  if word = [] then [] else [cString word]

end Emulation

section Copies

variable {src : CString} {word : List UInt8} {start i remaining : Nat}

theorem strcpyFrom_storesOnly (spells : SpellsFrom src i word)
    (short : word.length < remaining) (dest : UserBuffer) :
    TracedMemory.StoresOnly {index | start + i ≤ index ∧ index ≤ start + i + word.length}
      dest (strcpyFrom src start remaining i dest) := by
  induction word generalizing i remaining dest with
  | nil =>
      have isEnd : src i = 0 := spells
      cases remaining with
      | zero => exact absurd short (Nat.not_lt_zero _)
      | succ remaining =>
          rw [strcpyFrom, if_pos isEnd]
          exact dest.store_storesOnly 0 ⟨Nat.le_refl _, Nat.le_refl _⟩
  | cons character rest ih =>
      obtain ⟨reads, notNul, tail⟩ := spells
      rw [List.length_cons] at short ⊢
      cases remaining with
      | zero => exact absurd short (Nat.not_lt_zero _)
      | succ remaining =>
          rw [strcpyFrom, reads, if_neg notNul]
          have first : start + i ∈
              {index | start + i ≤ index ∧ index ≤ start + i + (rest.length + 1)} :=
            ⟨Nat.le_refl _, by omega⟩
          refine (dest.store_storesOnly character first).trans
            ((ih tail (by omega) _).mono ?_)
          rintro index ⟨low, high⟩
          exact ⟨by omega, by omega⟩

theorem strcpyFrom_read (spells : SpellsFrom src i word)
    (short : word.length < remaining) (dest : UserBuffer) {offset : Nat}
    (inside : offset ≤ word.length) :
    (strcpyFrom src start remaining i dest).read (start + i + offset) =
      src (i + offset) := by
  induction word generalizing i remaining dest offset with
  | nil =>
      have isEnd : src i = 0 := spells
      obtain rfl : offset = 0 := Nat.le_zero.mp inside
      cases remaining with
      | zero => exact absurd short (Nat.not_lt_zero _)
      | succ remaining =>
          rw [strcpyFrom, if_pos isEnd]
          simp [isEnd]
  | cons character rest ih =>
      have tailSpells := spells.2.2
      obtain ⟨reads, notNul, -⟩ := spells
      rw [List.length_cons] at short inside
      cases remaining with
      | zero => exact absurd short (Nat.not_lt_zero _)
      | succ remaining =>
          rw [strcpyFrom, reads, if_neg notNul]
          cases offset with
          | zero =>
              have later : TracedMemory.StoresOnly
                  {index | start + (i + 1) ≤ index ∧
                    index ≤ start + (i + 1) + rest.length}
                  (dest.store (start + i) character)
                  (strcpyFrom src start remaining (i + 1)
                    (dest.store (start + i) character)) :=
                strcpyFrom_storesOnly tailSpells (show rest.length < remaining by omega) _
              show (strcpyFrom src start remaining (i + 1) _).read (start + i) = src i
              rw [reads, later.read_eq (by simp), TracedMemory.store_read_self]
          | succ offset =>
              have copied := ih tailSpells (show rest.length < remaining by omega)
                (dest.store (start + i) character) (show offset ≤ rest.length by omega)
              have position : start + (i + 1) + offset = start + i + (offset + 1) := by
                omega
              have source : i + 1 + offset = i + (offset + 1) := by omega
              rwa [position, source] at copied

/-- Where `strcpy` stores, and what is there then. -/
theorem strcpyTo_storesOnly (spells : Spells src word) (short : word.length < 2 ^ 31)
    (dest : UserBuffer) (start : Nat) :
    TracedMemory.StoresOnly {index | start ≤ index ∧ index ≤ start + word.length} dest
      (strcpyTo dest start src) :=
  strcpyFrom_storesOnly spells short dest

theorem strcpyTo_read (spells : Spells src word) (short : word.length < 2 ^ 31)
    (dest : UserBuffer) (start : Nat) {offset : Nat} (inside : offset ≤ word.length) :
    (strcpyTo dest start src).read (start + offset) = src offset := by
  have copied : (strcpyTo dest start src).read (start + 0 + offset) = src (0 + offset) :=
    strcpyFrom_read spells short dest inside
  rwa [Nat.add_zero, Nat.zero_add] at copied

theorem strcpyTo_eq (spells : Spells src word) (short : word.length < 2 ^ 31)
    (dest : UserBuffer) :
    (strcpyTo dest 0 src).read =
      fun index => if index ≤ word.length then cString word index else dest.read index := by
  funext index
  split
  · rename_i inside
    have copied := strcpyTo_read spells short dest 0 inside
    rwa [Nat.zero_add, spells.read inside] at copied
  · rename_i outside
    exact (strcpyTo_storesOnly spells short dest 0).read_eq
      fun inside => outside (by simpa using inside.2)

/-- What `strcpy` leaves in the PCB spells the argument. -/
theorem spells_strcpy (spells : Spells src word) (dest : CString) :
    Spells (strcpy dest src) word := by
  obtain ⟨-, inside, -⟩ := spellsFrom_reads spells
  refine SpellsFrom.congr spells fun k _ high => ?_
  have noNul : ¬∃ j < k, src j = 0 := by
    rintro ⟨j, before, isNul⟩
    exact inside j (Nat.zero_le _) (by omega) isNul
  rw [strcpy, if_neg noNul]

end Copies

namespace Kernel

variable {layout : KernelLayout} {fs : FileSystem} {stale : StaleLocals}
  {kernel next : Kernel} {bytes : List UInt8} {entryPoint : Nat}

theorem executeFile_argBuff {inode : Nat} {arg : CString}
    (started : kernel.executeFile layout fs stale inode arg =
      (next, .running entryPoint)) :
    ∃ old, (next.pcbAt (pcbAddress next.activeProcNum)).argBuff = strcpy old arg := by
  unfold executeFile at started
  dsimp only at started
  split at started
  · exact nomatch started
  split at started
  · exact nomatch started
  split at started
  · exact nomatch started
  cases free : freeProcIdFrom kernel.procIdFlags maxProcesses 0 with
  | none =>
      rw [startProcess_of_full layout fs _ _ _ free] at started
      exact nomatch started
  | some id =>
      rw [startProcess_of_free layout fs _ _ _ free] at started
      dsimp only at started
      generalize kernel.loadFor layout fs id inode = loaded at started
      split at started
      · exact nomatch started
      · obtain ⟨rfl, -⟩ := Prod.mk.inj started
        generalize (kernel.claimProcess id).setMem loaded.memory = filled
        refine ⟨(filled.pcbAt (pcbAddress id)).argBuff, ?_⟩
        have own : (filled.enterProgram id arg).pcbAt (pcbAddress id) =
            filled.newPcb id arg := Function.update_self _ _ _
        have active : (filled.enterProgram id arg).activeProcNum = id := rfl
        rw [active, own, newPcb]
        split <;> rfl

/-- `execute` stores the argument in the PCB of the process it starts. -/
theorem execute_argBuff
    (started : kernel.execute layout fs stale (some bytes) =
      (next, .running entryPoint)) :
    ∃ old, (next.pcbAt (pcbAddress next.activeProcNum)).argBuff =
      strcpy old (parseCommand bytes).1.argCommand.read := by
  unfold execute at started
  dsimp only at started
  split at started
  · exact nomatch started
  split at started
  · exact nomatch started
  · exact executeFile_argBuff started

end Kernel

/-- What `getargs` should do for an argument: copy it with its NUL if both fit,
refuse otherwise, store behind no end of the buffer, and agree with the emulation. -/
structure PassesArgs (kernel : Kernel) (word : List UInt8) (content : Nat → UInt8)
    (nbytes : BitVec 32) : Prop where
  fits : (word.length : Int) + 1 ≤ nbytes.toInt →
    ∃ buf, kernel.getargs (some (freshBuffer content)) nbytes = (0, some buf) ∧
      ∀ i ≤ word.length, buf.read i = cString word i
  refused : ¬(word.length : Int) + 1 ≤ nbytes.toInt →
    kernel.getargs (some (freshBuffer content)) nbytes = (-1, some (freshBuffer content))
  inside : ∀ buf, (kernel.getargs (some (freshBuffer content)) nbytes).2 = some buf →
    ∀ index ∈ buf.stores, (index : Int) < max nbytes.toInt 0
  emulated :
    let host := Emulation.getargs (Emulation.argsOf word) (freshBuffer content) nbytes
    (kernel.getargs (some (freshBuffer content)) nbytes).1 = host.1 ∧
      (kernel.getargs (some (freshBuffer content)) nbytes).2.map TracedMemory.read =
        some host.2.read

section Claim

variable {layout : KernelLayout} {fs : FileSystem} {stale : StaleLocals}
  {kernel next : Kernel} {bytes word : List UInt8} {entryPoint : Nat}
  {nbytes : BitVec 32}

theorem Emulation.getargs_of_short (noNul : ∀ character ∈ word, character ≠ 0)
    (short : word.length < 100) (tooShort : nbytes.toInt < word.length)
    (buf : UserBuffer) :
    Emulation.getargs (argsOf word) buf nbytes = (-1, buf) := by
  unfold argsOf
  split
  · rename_i isEmpty
    subst isEmpty
    have none : nbytes.toInt < 1 := by
      rw [List.length_nil] at tooShort
      omega
    rw [Emulation.getargs, copyArgs, if_pos none]
  · have length := strlen_of_spells (spells_cString noNul) (by omega)
    rw [Emulation.getargs, copyArgs, length]
    dsimp only
    rw [if_pos tooShort]

theorem Emulation.getargs_of_fits (noNul : ∀ character ∈ word, character ≠ 0)
    (short : word.length < 100) (fits : (word.length : Int) + 1 ≤ nbytes.toInt)
    (buf : UserBuffer) :
    (Emulation.getargs (argsOf word) buf nbytes).1 = 0 ∧
      (Emulation.getargs (argsOf word) buf nbytes).2.read =
        fun index =>
          if index ≤ word.length then cString word index else buf.read index := by
  unfold argsOf
  split
  · rename_i isEmpty
    subst isEmpty
    rw [List.length_nil] at fits
    rw [Emulation.getargs, copyArgs, if_neg (by omega)]
    refine ⟨rfl, funext fun index => ?_⟩
    rw [TracedMemory.store_read]
    by_cases first : index = 0
    · rw [if_pos first, if_pos (by simp [first]), first]
      rfl
    · rw [if_neg first, if_neg (by simpa using first)]
  · have spells := spells_cString noNul
    have length := strlen_of_spells spells (by omega)
    rw [Emulation.getargs, copyArgs, length]
    dsimp only
    rw [if_neg (by omega), if_neg (by omega)]
    refine ⟨rfl, funext fun index => ?_⟩
    rw [TracedMemory.store_read, Nat.zero_add, strcpyTo_eq spells (by omega)]
    by_cases last : index = word.length
    · rw [if_pos last, if_pos (by omega), last]
      exact (spellsFrom_reads spells).2.2.symm.trans (by rw [Nat.zero_add])
    · rw [if_neg last]

theorem getargs_of_spells
    (spells : Spells (kernel.pcbAt (pcbAddress kernel.activeProcNum)).argBuff word)
    (short : word.length < 100) (memory : UserBuffer) (nbytes : BitVec 32) :
    kernel.getargs (some memory) nbytes =
      if nbytes.toNat < word.length then (-1, some memory)
      else (0, some (strcpyTo memory 0
        (kernel.pcbAt (pcbAddress kernel.activeProcNum)).argBuff)) := by
  rw [← strlen_of_spells spells (by omega)]
  rfl

/-- A count that is not negative and not the length of the argument is handled as it
should be. -/
theorem passesArgs_of_other
    (spells : Spells (kernel.pcbAt (pcbAddress kernel.activeProcNum)).argBuff word)
    (short : word.length < 100) (content : Nat → UInt8) (positive : 0 ≤ nbytes.toInt)
    (different : nbytes.toInt ≠ word.length) :
    PassesArgs kernel word content nbytes := by
  have unsigned : (nbytes.toNat : Int) = nbytes.toInt := by
    rw [BitVec.toInt_eq_toNat_cond] at positive ⊢
    split
    · rfl
    · omega
  have called := getargs_of_spells spells short (freshBuffer content) nbytes
  generalize (kernel.pcbAt (pcbAddress kernel.activeProcNum)).argBuff = argBuff
    at spells called
  by_cases fits : (word.length : Int) + 1 ≤ nbytes.toInt
  · rw [if_neg (by omega)] at called
    have copied := strcpyTo_eq spells (by omega) (freshBuffer content)
    obtain ⟨value, emulated⟩ := Emulation.getargs_of_fits spells.noNul short fits
      (freshBuffer content)
    constructor
    · intro _
      refine ⟨_, called, fun i inside => ?_⟩
      rw [copied]
      exact if_pos inside
    · exact fun refused => absurd fits refused
    · intro buf result index stored
      rw [called] at result
      obtain rfl := Option.some.inj result
      have stores := strcpyTo_storesOnly spells (by omega) (freshBuffer content) 0
      have inside := (stores.mem_region rfl stored).2
      omega
    · dsimp only
      rw [called, value, emulated]
      exact ⟨rfl, congrArg some copied⟩
  · rw [if_pos (by omega)] at called
    have refused := Emulation.getargs_of_short spells.noNul short
      (show nbytes.toInt < word.length by omega) (freshBuffer content)
    constructor
    · exact fun now => absurd now fits
    · exact fun _ => called
    · intro buf result index stored
      rw [called] at result
      obtain rfl := Option.some.inj result
      exact nomatch stored
    · dsimp only
      rw [called, refused]
      exact ⟨rfl, rfl⟩

/-- `getargs` in the process that `execute` has started.  The test converts a negative
count to a large one, and leaves out the NUL. -/
theorem getargs_passes_iff
    (started : kernel.execute layout fs stale (some bytes) = (next, .running entryPoint))
    (spells : Spells (parseCommand bytes).1.argCommand.read word)
    (short : word.length < 100) (content : Nat → UInt8) (nbytes : BitVec 32) :
    PassesArgs next word content nbytes ↔
      0 ≤ nbytes.toInt ∧ nbytes.toInt ≠ word.length := by
  obtain ⟨old, stored⟩ := Kernel.execute_argBuff started
  have passed : Spells (next.pcbAt (pcbAddress next.activeProcNum)).argBuff word :=
    stored ▸ spells_strcpy spells old
  constructor
  · intro law
    by_contra wrong
    have tooShort : ¬(word.length : Int) + 1 ≤ nbytes.toInt := by omega
    have accepted : ¬nbytes.toNat < word.length := by
      rw [BitVec.toInt_eq_toNat_cond] at wrong tooShort
      split at wrong <;> omega
    have called := getargs_of_spells passed short (freshBuffer content) nbytes
    rw [law.refused tooShort, if_neg accepted] at called
    have different : ¬(-1 : Int) = 0 := by decide
    exact different (congrArg Prod.fst called)
  · rintro ⟨positive, different⟩
    exact passesArgs_of_other passed short content positive different

/-- The command `shell ab`. -/
def shellWithArgument : List UInt8 :=
  [0x73, 0x68, 0x65, 0x6C, 0x6C, 0x20, 0x61, 0x62]

theorem shellWithArgument_spells :
    Spells (parseCommand shellWithArgument).1.argCommand.read [0x61, 0x62] :=
  ⟨by decide +kernel, by decide, by decide +kernel, by decide,
    show (parseCommand shellWithArgument).1.argCommand.read 2 = 0 by decide +kernel⟩

theorem shellWithArgument_started :
    ∃ next entryPoint,
      startedKernel.execute lowLayout oversizedImage .zero (some shellWithArgument) =
        (next, .running entryPoint) := by
  obtain ⟨index, named, loadable⟩ := oversizedImage_hasShell
  have found : oversizedImage.findEntry
      (parseCommand shellWithArgument).1.fileNameCommand.read = some index := by
    rw [← named]
    decide +kernel
  obtain ⟨mappings, represents⟩ := startedKernel_boots.serves.holds.represents
  obtain ⟨entryPoint, entered⟩ := Kernel.executeFile_of_loadable .zero
    (parseCommand shellWithArgument).1.argCommand.read represents loadable
    (show 0 ≤ 6 by omega) rfl
  rw [← Kernel.execute_of_found lowLayout .zero startedKernel (by decide +kernel) found]
    at entered
  exact ⟨_, entryPoint, entered⟩

/-- Room for two characters and the NUL. -/
theorem getargs_passes_with_room :
    ∃ next entryPoint,
      startedKernel.execute lowLayout oversizedImage .zero (some shellWithArgument) =
        (next, .running entryPoint) ∧ PassesArgs next [0x61, 0x62] (fun _ => 0xFF) 3 := by
  obtain ⟨next, entryPoint, started⟩ := shellWithArgument_started
  have passes := (getargs_passes_iff started shellWithArgument_spells (by decide)
    (fun _ => 0xFF) 3).mpr (by decide)
  exact ⟨next, entryPoint, started, passes⟩

/-- Room for the two characters only: the NUL is stored behind the buffer.  A negative
count is taken for a large one. -/
theorem getargs_overruns :
    ∃ next entryPoint,
      startedKernel.execute lowLayout oversizedImage .zero (some shellWithArgument) =
        (next, .running entryPoint) ∧
      ¬PassesArgs next [0x61, 0x62] (fun _ => 0xFF) 2 ∧
      ¬PassesArgs next [0x61, 0x62] (fun _ => 0xFF) (-1) ∧
      ∃ buf, next.getargs (some (freshBuffer fun _ => 0xFF)) 2 = (0, some buf) ∧
        buf.read 2 = 0 := by
  obtain ⟨next, entryPoint, started⟩ := shellWithArgument_started
  obtain ⟨old, stored⟩ := Kernel.execute_argBuff started
  have passed : Spells (next.pcbAt (pcbAddress next.activeProcNum)).argBuff [0x61, 0x62] :=
    stored ▸ spells_strcpy shellWithArgument_spells old
  have fits := getargs_of_spells passed (by decide) (freshBuffer fun _ => 0xFF) 2
  have negative := getargs_of_spells passed (by decide) (freshBuffer fun _ => 0xFF) (-1)
  rw [if_neg (by decide)] at fits negative
  have different : ¬(0 : Int) = -1 := by decide
  refine ⟨next, entryPoint, started, fun law => ?_, fun law => ?_, _, fits, ?_⟩
  · have refused := law.refused (by decide)
    rw [fits] at refused
    exact different (congrArg Prod.fst refused)
  · have refused := law.refused (by decide)
    rw [negative] at refused
    exact different (congrArg Prod.fst refused)
  · rw [strcpyTo_eq passed (by decide)]
    rfl

end Claim

end ChapOS
