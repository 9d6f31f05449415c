import ChapOS.ConsoleSheet
import ChapOS.ExecutableHeader

/-!
# What a failed `execute` leaves behind

Every return of `execute` comes before the first irreversible step: only output
differs.  The texts of the failures are told apart by the stores they make to the
screen, of which each character makes two and each scroll four thousand.
-/

namespace ChapOS

open CountedLoops

namespace Console

private theorem storeCell_length (mem : PhysicalMemory) (y x : Int) (character : UInt8) :
    (storeCell mem y x character).stores.length = mem.stores.length + 2 :=
  rfl

private theorem storeColumns_length (count : Nat) (row : Nat → Int)
    (character : Nat → PhysicalMemory → UInt8) (mem : PhysicalMemory) :
    (forUpTo count
      (fun column current =>
        storeCell current (row column) column (character column current))
      mem).stores.length = mem.stores.length + 2 * count := by
  induction count with
  | zero => rfl
  | succ count ih =>
      rw [forUpTo_succ, storeCell_length, ih]
      omega

theorem moveScreenUp_length (console : Console) :
    console.moveScreenUp.mem.stores.length = console.mem.stores.length + 4000 := by
  have rows (count : Nat) : (forUpTo count
      (fun row => forUpTo numCols (shiftCell row)) console.mem).stores.length =
        console.mem.stores.length + 160 * count := by
    induction count with
    | zero => rfl
    | succ count ih =>
        have columns := storeColumns_length numCols (fun _ => count)
          (fun column mem => mem.read (cellAddress (count + 1) column))
          (forUpTo count (fun row => forUpTo numCols (shiftCell row)) console.mem)
        rw [forUpTo_succ]
        refine columns.trans ?_
        rw [ih]
        simp only [numCols]
        omega
  have blanked := storeColumns_length numCols (fun _ => (numRows : Int) - 1)
    (fun _ _ => space)
    (forUpTo (numRows - 1) (fun row => forUpTo numCols (shiftCell row)) console.mem)
  refine blanked.trans ?_
  rw [rows]
  simp only [numRows, numCols]

/-- A character makes two stores, and a scroll a multiple of four thousand. -/
theorem putc_length (console : Console) (c : UInt8) :
    (console.putc c).mem.stores.length % 4000 =
      (console.mem.stores.length + if BreaksRow c then 0 else 2) % 4000 := by
  have written := storeCell_length console.mem console.screenY console.screenX c
  unfold putc
  by_cases breaks : BreaksRow c
  · rw [if_pos breaks, if_pos (show c = newLine ∨ c = carriageReturn from breaks),
      moveCurser_mem]
    dsimp only
    split
    · rfl
    · rw [moveScreenUp_length]
      omega
  · rw [if_neg breaks, if_neg (show ¬(c = newLine ∨ c = carriageReturn) from breaks)]
    dsimp only
    rw [moveCurser_mem]
    dsimp only
    split
    · rw [moveScreenUp_length]
      dsimp only
      omega
    split
    · rw [written]
    · rw [written]

theorem putAll_length (console : Console) (bytes : List UInt8) :
    (console.putAll bytes).mem.stores.length % 4000 =
      (console.mem.stores.length +
        2 * bytes.countP fun c => ¬BreaksRow c) % 4000 := by
  induction bytes generalizing console with
  | nil => rfl
  | cons c bytes ih =>
      have first := console.putc_length c
      have unfolded : console.putAll (c :: bytes) = (console.putc c).putAll bytes := rfl
      rw [unfolded, ih, List.countP_cons]
      by_cases breaks : BreaksRow c
      · rw [if_pos breaks] at first
        rw [if_neg (by simp [breaks])]
        omega
      · rw [if_neg breaks] at first
        rw [if_pos (by simp [breaks])]
        omega

end Console

namespace Kernel

/-- Nothing but output has happened. -/
structure OnlyPrints (before after : Kernel) : Prop where
  procIdFlags : after.procIdFlags = before.procIdFlags
  activeProcNum : after.activeProcNum = before.activeProcNum
  pcbAt : after.pcbAt = before.pcbAt
  paging : after.paging = before.paging
  tssEsp0 : after.tssEsp0 = before.tssEsp0
  tssSs0 : after.tssSs0 = before.tssSs0
  terminals : after.terminals = before.terminals
  keyboard : after.tty.keyboard = before.tty.keyboard
  output : ∃ bytes, after = before.print bytes

theorem onlyPrints_print (kernel : Kernel) (bytes : List UInt8) :
    kernel.OnlyPrints (kernel.print bytes) :=
  ⟨rfl, rfl, rfl, rfl, rfl, rfl, rfl, rfl, bytes, rfl⟩

/-- The kernel when `execute` looks for the file: the parser reports a space behind
the argument. -/
def reported (kernel : Kernel) (command : Option (List UInt8)) : Kernel :=
  match command with
  | none => kernel
  | some bytes =>
      if (parseCommand bytes).2 = .argSpace then kernel.printfPlain "See arg Space\n"
      else kernel

/-- `execute` prints this text and returns -1. -/
def FailsWith (layout : KernelLayout) (fs : FileSystem) (stale : StaleLocals)
    (kernel : Kernel) (command : Option (List UInt8)) (text : String) : Prop :=
  kernel.execute layout fs stale command =
    ((kernel.reported command).printfPlain text, .returned (-1))

section Failures

variable {layout : KernelLayout} {fs : FileSystem} {stale : StaleLocals}
  {kernel : Kernel} {command : Option (List UInt8)}

theorem exists_reported_print (kernel : Kernel) (command : Option (List UInt8)) :
    ∃ printed, kernel.reported command = kernel.print printed := by
  cases command with
  | none => exact ⟨[], rfl⟩
  | some bytes => exact kernel.exists_reported bytes

/-- The report changes neither what the header reads find nor the process slots. -/
theorem reported_keeps (kernel : Kernel) (command : Option (List UInt8)) :
    (∀ inode offset buf,
      (kernel.reported command).readContent layout fs inode offset buf =
        kernel.readContent layout fs inode offset buf) ∧
      (kernel.reported command).procIdFlags = kernel.procIdFlags := by
  obtain ⟨printed, isPrinted⟩ := kernel.exists_reported_print command
  rw [isPrinted]
  exact ⟨fun _ _ _ => rfl, rfl⟩

/-- What passes the header check is started after the report. -/
theorem execute_reported {inode entryPoint : Nat}
    (allocates : kernel.Allocates layout fs stale command inode entryPoint) :
    ∃ arg, kernel.execute layout fs stale command =
      (kernel.reported command).startProcess layout fs inode entryPoint arg := by
  obtain ⟨⟨bytes, entry, rfl, accepted, found, rfl⟩, headerRuns, header, entryRuns, rfl⟩ :=
    allocates
  have ran : kernel.execute layout fs stale (some bytes) =
      (kernel.reported (some bytes)).executeFile layout fs stale entry.inodeNum
        (parseCommand bytes).1.argCommand.read := by
    simp only [execute, if_neg accepted, found, ne_eq, not_true_eq_false, if_false,
      reported]
  obtain ⟨reads, -⟩ := @reported_keeps layout fs kernel (some bytes)
  refine ⟨(parseCommand bytes).1.argCommand.read, ?_⟩
  rw [ran]
  simp only [executeFile, reads, headerRuns, header, entryRuns, Bool.false_eq_true,
    if_false, ne_eq, not_true_eq_false]

/-- `execute` with a full process table, for what passes the header check. -/
theorem failsWith_of_full {inode entryPoint : Nat}
    (allocates : kernel.Allocates layout fs stale command inode entryPoint)
    (full : freeProcIdFrom kernel.procIdFlags maxProcesses 0 = none) :
    kernel.FailsWith layout fs stale command "Too many processes\n" := by
  obtain ⟨arg, ran⟩ := execute_reported allocates
  obtain ⟨-, sameFlags⟩ := @reported_keeps layout fs kernel command
  rw [← sameFlags] at full
  rw [FailsWith, ran]
  exact startProcess_of_full layout fs _ _ _ full

/-- The other ways in which `execute` returns. -/
theorem execute_returns_cases {value : Int} {after : Kernel}
    (none : ∀ inode entryPoint,
      ¬kernel.Allocates layout fs stale command inode entryPoint)
    (returned : kernel.execute layout fs stale command = (after, .returned value)) :
    after = kernel.reported command ∨
      after = (kernel.reported command).printfPlain " \n" := by
  cases command with
  | none => exact Or.inl (Prod.mk.inj returned).1.symm
  | some bytes =>
      have isReported : (if (parseCommand bytes).2 = .argSpace then
          kernel.printfPlain "See arg Space\n" else kernel) =
            kernel.reported (some bytes) := rfl
      obtain ⟨reads, -⟩ := @reported_keeps layout fs kernel (some bytes)
      simp only [execute, isReported] at returned
      split at returned
      · rename_i refused
        left
        rw [← isReported, refused, if_neg (by simp)]
        exact (Prod.mk.inj returned).1.symm
      rename_i accepted
      split at returned
      · exact Or.inl (Prod.mk.inj returned).1.symm
      rename_i found
      have named : fs.NamesInode stale (some bytes) (fs.readDentryByName
          (parseCommand bytes).1.fileNameCommand.read stale.dentry).2.inodeNum :=
        ⟨bytes, _, rfl, accepted, Prod.ext (not_not.mp found) rfl, rfl⟩
      simp only [executeFile, reads] at returned
      split at returned
      · cases (Prod.mk.inj returned).2
      rename_i headerRuns
      split at returned
      · exact Or.inr (Prod.mk.inj returned).1.symm
      rename_i header
      split at returned
      · cases (Prod.mk.inj returned).2
      rename_i entryRuns
      exact (none _ _ ⟨named, Bool.eq_false_of_not_eq_true headerRuns, not_not.mp header,
        Bool.eq_false_of_not_eq_true entryRuns, rfl⟩).elim

/-- No other failure makes as many stores to the screen. -/
theorem printfPlain_ne (kernel : Kernel) :
    kernel.printfPlain "Too many processes\n" ≠ kernel ∧
      kernel.printfPlain "Too many processes\n" ≠ kernel.printfPlain " \n" := by
  have stores (format : String) := kernel.tty.console.putAll_length
    (format.toList.map fun c => UInt8.ofNat c.toNat)
  have tooMany := stores "Too many processes\n"
  have blank := stores " \n"
  rw [show (("Too many processes\n".toList.map fun c => UInt8.ofNat c.toNat).countP
    fun c => ¬BreaksRow c) = 18 by decide] at tooMany
  rw [show ((" \n".toList.map fun c => UInt8.ofNat c.toNat).countP
    fun c => ¬BreaksRow c) = 1 by decide] at blank
  constructor
  · intro same
    have length : (kernel.printfPlain "Too many processes\n").mem.stores.length =
        kernel.mem.stores.length := congrArg (fun kernel => kernel.mem.stores.length) same
    have unfolded : (kernel.printfPlain "Too many processes\n").mem.stores.length % 4000 =
        (kernel.mem.stores.length + 2 * 18) % 4000 := tooMany
    omega
  · intro same
    have length : (kernel.printfPlain "Too many processes\n").mem.stores.length =
        (kernel.printfPlain " \n").mem.stores.length :=
      congrArg (fun kernel => kernel.mem.stores.length) same
    have unfolded : (kernel.printfPlain "Too many processes\n").mem.stores.length % 4000 =
        (kernel.mem.stores.length + 2 * 18) % 4000 := tooMany
    have other : (kernel.printfPlain " \n").mem.stores.length % 4000 =
        (kernel.mem.stores.length + 2 * 1) % 4000 := blank
    omega

/-- The scan of the process slots finds none that is free. -/
theorem freeProcIdFrom_eq_none_iff (flags : Nat → Nat) (remaining i : Nat) :
    freeProcIdFrom flags remaining i = none ↔
      ∀ id, i ≤ id → id < i + remaining → flags id ≠ 0 := by
  induction remaining generalizing i with
  | zero =>
      constructor
      · intro _ id low high
        omega
      · intro _
        rfl
  | succ remaining ih =>
      rw [freeProcIdFrom]
      by_cases free : flags i = 0
      · rw [if_pos free]
        constructor
        · intro found
          cases found
        · intro taken
          exact absurd free (taken i (Nat.le_refl i) (by omega))
      · rw [if_neg free, ih]
        constructor
        · intro taken id low high
          rcases Nat.eq_or_lt_of_le low with rfl | above
          · exact free
          · exact taken id above (by omega)
        · intro taken id low high
          exact taken id (by omega) (by omega)

/-- Whenever `execute` returns, it returns -1 and nothing but output has happened.
"Too many processes" is its failure exactly for a named file that passes the header
check while all process slots are taken. -/
theorem execute_failure (layout : KernelLayout) (fs : FileSystem) (stale : StaleLocals)
    (kernel : Kernel) (command : Option (List UInt8)) :
    (∀ value, (kernel.execute layout fs stale command).2 = .returned value →
      value = -1 ∧ kernel.OnlyPrints (kernel.execute layout fs stale command).1) ∧
    (kernel.FailsWith layout fs stale command "Too many processes\n" ↔
      (∃ inode, fs.NamesInode stale command inode ∧
        kernel.HeaderReadable layout fs inode ∧ fs.HeaderSeen stale inode) ∧
      ∀ id < maxProcesses, kernel.procIdFlags id ≠ 0) := by
  have taken : (∀ id < maxProcesses, kernel.procIdFlags id ≠ 0) ↔
      freeProcIdFrom kernel.procIdFlags maxProcesses 0 = none := by
    rw [freeProcIdFrom_eq_none_iff]
    simp only [Nat.zero_le, true_imp_iff, Nat.zero_add]
  constructor
  · intro value returned
    have ends := execute_cases layout fs stale kernel command
    generalize kernel.execute layout fs stale command = done at ends returned
    cases ends with
    | refused bytes =>
        obtain rfl := Outcome.returned.inj returned
        exact ⟨rfl, kernel.onlyPrints_print bytes⟩
    | headerFault bytes => exact nomatch returned
    | loadFault bytes inode id program free faulted => exact nomatch returned
    | started bytes inode id entryPoint arg program free loaded => exact nomatch returned
  · rw [taken]
    constructor
    · intro fails
      by_cases some : ∃ inode entryPoint,
          kernel.Allocates layout fs stale command inode entryPoint
      · obtain ⟨inode, entryPoint, allocates⟩ := some
        refine ⟨⟨inode, allocates_iff.mp ⟨entryPoint, allocates⟩⟩, ?_⟩
        obtain ⟨arg, ran⟩ := execute_reported allocates
        obtain ⟨-, sameFlags⟩ := @reported_keeps layout fs kernel command
        cases free : freeProcIdFrom kernel.procIdFlags maxProcesses 0 with
        | none => rfl
        | some id =>
            rw [← sameFlags] at free
            have started := startProcess_of_free layout fs inode entryPoint arg free
            rw [FailsWith, ran, started] at fails
            dsimp only at fails
            split at fails
            · exact nomatch (Prod.mk.inj fails).2
            · exact nomatch (Prod.mk.inj fails).2
      · have none : ∀ inode entryPoint,
            ¬kernel.Allocates layout fs stale command inode entryPoint :=
          fun inode entryPoint allocates => some ⟨inode, entryPoint, allocates⟩
        obtain ⟨notNothing, notBlank⟩ := (kernel.reported command).printfPlain_ne
        rcases execute_returns_cases none fails with same | same
        · exact absurd same notNothing
        · exact absurd same notBlank
    · rintro ⟨⟨inode, passes⟩, full⟩
      obtain ⟨entryPoint, allocates⟩ := allocates_iff.mpr passes
      exact failsWith_of_full allocates full

end Failures

end Kernel

end ChapOS
