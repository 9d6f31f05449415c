import ChapOS.InterruptLinkage

/-!
# System calls from C

The wrappers of `ece391syscall.S`, with the linkage of the kernel behind their `int`.
What a program sees is a C function: its arguments are on the stack, its result is in
EAX, and the registers that a C function keeps are kept.  Interrupts may arrive at every
instruction of the wrapper and, inside the kernel, wherever it lets them.  DS has to reach
data, as it does in C; ES need not be what it was.
-/

namespace ChapOS.Linkage

open WordStack

/-- A program with its memory. -/
structure Process where
  registers : Registers
  memory : Bytes

/-- The instructions of the library, `int` aside. -/
inductive LibraryInstruction
  | pushl (source : Register)
  | pushlImmediate (value : Word)
  | movlImmediate (value : Word) (target : Register)
  /-- `movl displacement(%esp), target` -/
  | movlStack (displacement : Word) (target : Register)
  | popl (target : Register)
  /-- The `call` of an entry of the library, with the address behind it. -/
  | call (behind : Word)
  | ret
  deriving DecidableEq, Repr

namespace Process

def withSegments (process : Process) (segments : Segments) : Process :=
  { process with registers := { process.registers with segments := segments } }

def set (process : Process) (target : Register) (value : Word) : Process :=
  { process with
    registers := { process.registers with
      general := Function.update process.registers.general target value } }

def push (process : Process) (value : Word) : Process :=
  let esp := process.registers.general .esp - 4
  { process.set .esp esp with memory := WordStack.storeWord process.memory esp value }

def peek (process : Process) : Word :=
  loadWord process.memory (process.registers.general .esp)

def drop (process : Process) : Process :=
  process.set .esp (process.registers.general .esp + 4)

def exec (process : Process) : LibraryInstruction → Process
  | .pushl source => process.push (process.registers.general source)
  | .pushlImmediate value => process.push value
  | .movlImmediate value target => process.set target value
  | .movlStack displacement target =>
      process.set target
        (loadWord process.memory (process.registers.general .esp + displacement))
  | .popl target => process.drop.set target process.peek
  | .call behind => process.push behind
  | .ret =>
      { process.drop with
        registers := { process.drop.registers with eip := process.peek } }

end Process

/-- The entry of a system call up to its `int`. -/
def wrapperEntry (number : Word) : List LibraryInstruction :=
  [.pushl .ebx, .movlImmediate number .eax, .movlStack 8 .ebx, .movlStack 12 .ecx,
    .movlStack 16 .edx]

/-- What follows the `int`. -/
def wrapperExit : List LibraryInstruction :=
  [.popl .ebx, .ret]

/-- `ece391sysnum.h` -/
def Handler.number : Handler → Word
  | .halt => 1
  | .execute => 2
  | .read => 3
  | .write => 4
  | .open_ => 5
  | .close => 6
  | .getargs => 7
  | .vidmap => 8
  | .setHandler => 9
  | .sigreturn => 10

section Execution

variable {top : Word} (functions : Handler → CFunction top) (interrupts : Interrupts top)

/-- The interrupts that arrive at an instruction of a program, by its registers. -/
def Registers.interrupted (arrivals : Registers → List (Arrival top)) (kernel : Machine)
    (user : Registers) : Registers :=
  (arrivals user).foldl (fun current arrival =>
    (interruptUser functions interrupts arrival.handler arrival.routine current kernel).getD
      current) user

/-- Some instructions of a program, with interrupts before each of them. -/
def Process.execAll (arrivals : Registers → List (Arrival top)) (kernel : Machine)
    (process : Process) (code : List LibraryInstruction) : Process :=
  code.foldl (fun current instruction =>
    ({ current with
      registers := current.registers.interrupted functions interrupts arrivals kernel
    } : Process).exec instruction) process

/-- How a call of the library ends. -/
inductive CallOutcome
  | returned (process : Process) (calls : List Call)
  | neverReturns (calls : List Call)
  | lost

/-- The address behind the `call` in `main_syscall`, the one behind the `int`, and what
the kernel makes of the memory of the program. -/
structure CallSite where
  afterCall : Word
  afterInt : Word
  kernelWrites : Bytes → Bytes

/-- A wrapper from its first instruction on. -/
def wrapper (arrivals : Registers → List (Arrival top)) (site : CallSite) (number : Word)
    (kernel : Machine) (process : Process) : CallOutcome :=
  let entered := process.execAll functions interrupts arrivals kernel (wrapperEntry number)
  let atInt := { entered.registers with eip := site.afterInt }
  match systemCall functions interrupts site.afterCall atInt kernel with
  | .returned registers calls =>
      .returned ((Process.mk registers (site.kernelWrites entered.memory)).execAll functions
        interrupts arrivals kernel wrapperExit) calls
  | .stops (.neverReturns calls) => .neverReturns calls
  | .stops (.faults _) => .lost
  | .outsideTable _ => .lost
  | .strays _ => .lost

end Execution

/-- A C caller goes on behind its `call`, with its own registers and stack, and with
segment registers of which `leaves`. -/
structure Resumes (leaves : Segments → Prop) (process after : Process) (behind : Word) :
    Prop where
  eip : after.registers.eip = behind
  esp : after.registers.general .esp = process.registers.general .esp + 4
  kept : ∀ register ∈ [Register.ebx, .ebp, .esi, .edi],
    after.registers.general register = process.registers.general register
  others : after.registers = { process.registers with
    general := after.registers.general
    eip := behind
    segments := after.registers.segments }
  segments : leaves after.registers.segments

section Wrappers

variable {top : Word} {functions : Handler → CFunction top} {interrupts : Interrupts top}
  {arrivals : Registers → List (Arrival top)} {kernel : Machine} {process : Process}

/-- A program with data in reach does not notice the interrupts, but for ES. -/
theorem interrupted_spared {user : Registers} (data : user.segments.ds.writable = true) :
    ∃ segments, user.segments.Spared segments ∧
      user.interrupted functions interrupts arrivals kernel =
        { user with segments := segments } := by
  unfold Registers.interrupted
  generalize arrivals user = list
  induction list generalizing user with
  | nil => exact ⟨_, .refl _, rfl⟩
  | cons arrival list ih =>
      obtain ⟨first, spared, resumes⟩ := @interruptUser_resumes top functions interrupts
        _ _ _ arrival.saves arrival.returns arrival.spares user data kernel
      have firstData : first.ds.writable = true := by
        rw [spared.ds]
        exact data
      obtain ⟨last, sparedLast, rest⟩ := @ih { user with segments := first } firstData
      rw [List.foldl_cons, resumes, Option.getD_some]
      exact ⟨last, spared.trans sparedLast, rest⟩

/-- The library does not look at the segment registers. -/
theorem exec_withSegments (segments : Segments) (instruction : LibraryInstruction) :
    (process.withSegments segments).exec instruction =
      (process.exec instruction).withSegments segments := by
  cases instruction <;> rfl

theorem foldl_withSegments (segments : Segments) (code : List LibraryInstruction) :
    code.foldl Process.exec (process.withSegments segments) =
      (code.foldl Process.exec process).withSegments segments := by
  induction code generalizing process with
  | nil => rfl
  | cons instruction code ih =>
      rw [List.foldl_cons, exec_withSegments, ih, List.foldl_cons]

theorem execAll_spared (data : process.registers.segments.ds.writable = true)
    (code : List LibraryInstruction) :
    ∃ segments, process.registers.segments.Spared segments ∧
      process.execAll functions interrupts arrivals kernel code =
        (code.foldl Process.exec process).withSegments segments := by
  unfold Process.execAll
  induction code generalizing process with
  | nil => exact ⟨_, .refl _, rfl⟩
  | cons instruction code ih =>
      obtain ⟨first, spared, interrupted⟩ := @interrupted_spared top functions interrupts
        arrivals kernel process.registers data
      have stepped : ({ process with
          registers := process.registers.interrupted functions interrupts arrivals kernel
          } : Process).exec instruction =
          (process.exec instruction).withSegments first := by
        rw [interrupted]
        exact exec_withSegments first instruction
      have firstData : ((process.exec instruction).withSegments
          first).registers.segments.ds.writable = true := by
        show first.ds.writable = true
        rw [spared.ds]
        exact data
      obtain ⟨last, sparedLast, rest⟩ := ih firstData
      rw [List.foldl_cons, stepped, rest, foldl_withSegments, List.foldl_cons]
      exact ⟨last, spared.trans sparedLast, rfl⟩

/-- A word apart from the one that is stored. -/
theorem loadWord_storeWord_above (memory : Bytes) (address value : Word) {distance : Nat}
    (low : 4 ≤ distance) (high : distance + 4 ≤ 2 ^ 32) :
    loadWord (WordStack.storeWord memory address value) (address + BitVec.ofNat 32 distance) =
      loadWord memory (address + BitVec.ofNat 32 distance) := by
  have apart (index : Nat) (indexLt : index < 4) :
      WordStack.storeWord memory address value
          (address + BitVec.ofNat 32 distance + BitVec.ofNat 32 index) =
        memory (address + BitVec.ofNat 32 distance + BitVec.ofNat 32 index) := by
    apply storeWord_of_apart
    rw [BitVec.add_assoc, ← BitVec.ofNat_add, BitVec.add_comm, BitVec.add_sub_cancel,
      BitVec.toNat_ofNat, Nat.mod_eq_of_lt (by omega)]
    omega
  have first := apart 0 (by decide)
  rw [BitVec.add_zero] at first
  have second : WordStack.storeWord memory address value (address + BitVec.ofNat 32 distance + 1) =
      memory (address + BitVec.ofNat 32 distance + 1) := apart 1 (by decide)
  have third : WordStack.storeWord memory address value (address + BitVec.ofNat 32 distance + 2) =
      memory (address + BitVec.ofNat 32 distance + 2) := apart 2 (by decide)
  have fourth : WordStack.storeWord memory address value (address + BitVec.ofNat 32 distance + 3) =
      memory (address + BitVec.ofNat 32 distance + 3) := apart 3 (by decide)
  rw [loadWord, loadWord, first, second, third, fourth]

theorem loadWords_take (memory : Bytes) (address : Word) {count more : Nat}
    (le : count ≤ more) :
    (loadWords memory address more).take count = loadWords memory address count := by
  induction count generalizing address more with
  | zero => rfl
  | succ count ih =>
      obtain ⟨more, rfl⟩ : ∃ rest, more = rest + 1 := ⟨more - 1, by omega⟩
      rw [loadWords, List.take_succ_cons, ih _ (by omega), loadWords]

/-- In front of the `int` the number is in EAX and the arguments are in EBX, ECX and
EDX. -/
theorem wrapperEntry_spec (number : Word) (process : Process) :
    let entered := (wrapperEntry number).foldl Process.exec process
    let esp := process.registers.general .esp
    entered.registers.general .eax = number ∧
      entered.registers.general .esp = esp - 4 ∧
      [Register.ebx, .ecx, .edx].map entered.registers.general =
        loadWords process.memory (esp + 4) 3 ∧
      (∀ register ∈ [Register.ebp, .esi, .edi],
        entered.registers.general register = process.registers.general register) ∧
      entered.registers =
        { process.registers with general := entered.registers.general } ∧
      entered.memory =
        WordStack.storeWord process.memory (esp - 4) (process.registers.general .ebx) := by
  intro entered esp
  refine ⟨rfl, rfl, ?_, ?_, rfl, rfl⟩
  · have stack (distance : Nat) (low : 4 ≤ distance) (high : distance + 4 ≤ 2 ^ 32) :=
      loadWord_storeWord_above process.memory (esp - 4) (process.registers.general .ebx)
        low high
    generalize pushed : WordStack.storeWord process.memory (esp - 4)
      (process.registers.general .ebx) = memory at stack
    show [loadWord (WordStack.storeWord process.memory (esp - 4) (process.registers.general .ebx))
        (esp - 4 + BitVec.ofNat 32 8),
      loadWord (WordStack.storeWord process.memory (esp - 4) (process.registers.general .ebx))
        (esp - 4 + BitVec.ofNat 32 12),
      loadWord (WordStack.storeWord process.memory (esp - 4) (process.registers.general .ebx))
        (esp - 4 + BitVec.ofNat 32 16)] = _
    rw [pushed, stack 8 (by decide) (by decide), stack 12 (by decide) (by decide),
      stack 16 (by decide) (by decide)]
    have places : esp - 4 + BitVec.ofNat 32 8 = esp + 4 ∧
        esp - 4 + BitVec.ofNat 32 12 = esp + 4 + 4 ∧
        esp - 4 + BitVec.ofNat 32 16 = esp + 4 + 4 + 4 := by
      refine ⟨?_, ?_, ?_⟩ <;> bv_omega
    obtain ⟨firstPlace, secondPlace, thirdPlace⟩ := places
    rw [firstPlace, secondPlace, thirdPlace]
    rfl
  · intro register mem
    simp only [List.mem_cons, List.not_mem_nil, or_false] at mem
    rcases mem with rfl | rfl | rfl <;> rfl

theorem Handler.bound_number (handler : Handler) :
    Handler.bound handler.number = some handler := by
  cases handler <;> rfl

theorem Handler.number_listed {handler : Handler}
    (listed : handler ≠ .setHandler ∧ handler ≠ .sigreturn) :
    handler.number.toNat ≤ 8 := by
  by_contra above
  rcases (Handler.bound_behind handler.bound_number).mp (by omega) with rfl | rfl
  · exact listed.1 rfl
  · exact listed.2 rfl

/-- The arguments of the C call reach the handler, and its result the code behind the
`int`. -/
theorem wrapper_calls {handler : Handler} {arguments : List Word} {behind : Word}
    {leaves : Segments → Prop}
    (changes : (functions handler).Leaves process.registers.segments.Spared leaves)
    (closed : ∀ {before after : Segments}, leaves before → before.Spared after →
      leaves after)
    (reaches : ∀ {segments : Segments}, leaves segments → segments.ds.writable = true)
    (data : process.registers.segments.ds.writable = true)
    (listed : handler ≠ .setHandler ∧ handler ≠ .sigreturn)
    (arity : arguments.length = handler.arity)
    (holds : Holds process.memory (process.registers.general .esp) (behind :: arguments))
    (site : CallSite) :
    let entered := (wrapperEntry handler.number).foldl Process.exec process
    let outcome := wrapper functions interrupts arrivals site handler.number kernel process
    outcome = .neverReturns [⟨handler, arguments, none⟩] ∨
      ∃ result segments, leaves segments ∧
        outcome = .returned (wrapperExit.foldl Process.exec
          ⟨{ entered.registers with
              general := Function.update entered.registers.general .eax result
              eip := site.afterInt
              segments := segments }, site.kernelWrites entered.memory⟩)
        [⟨handler, arguments, some result⟩] := by
  intro entered outcome
  obtain ⟨number, -, loaded, -, -, -⟩ := wrapperEntry_spec handler.number process
  obtain ⟨first, spared, runs⟩ := @execAll_spared top functions interrupts arrivals kernel
    process data (wrapperEntry handler.number)
  have same : argumentsOf { entered.registers with
      eip := site.afterInt
      segments := first } handler = arguments := by
    show ([Register.ebx, .ecx, .edx].take handler.arity).map entered.registers.general = _
    rw [List.map_take]
    have short : handler.arity ≤ 3 := by
      cases handler <;> decide
    rw [loaded, loadWords_take _ _ short, ← arity]
    exact (Holds.cons_iff.mp holds).2
  have firstData : first.ds.writable = true := by
    rw [spared.ds]
    exact data
  have start : process.registers.segments.Spared (int80 interrupts
      { entered.registers with
        eip := site.afterInt
        segments := first } kernel).segments :=
    spared.trans (int80_keeps (interrupts.keeps_spared first) (.refl first) kernel)
  have answered := @systemCall_answers top functions interrupts site.afterCall
    { entered.registers with
      eip := site.afterInt
      segments := first } kernel handler _ leaves changes
    (fun machine kept => closed kept (interrupts.sparesSegments machine)) start firstData
    handler.bound_number (Handler.number_listed listed)
  have atInt : outcome = wrapper functions interrupts arrivals site handler.number kernel
      process := rfl
  unfold wrapper at atInt
  rw [runs] at atInt
  dsimp only [Process.withSegments] at atInt
  rw [atInt]
  cases ends : systemCall functions interrupts site.afterCall
      { entered.registers with
        eip := site.afterInt
        segments := first } kernel with
  | returned registers calls =>
      rw [ends] at answered
      obtain ⟨result, second, left, rfl, rfl⟩ := answered
      obtain ⟨last, sparedLast, runsExit⟩ := @execAll_spared top functions interrupts
        arrivals kernel ⟨{ entered.registers with
          general := Function.update entered.registers.general .eax result
          eip := site.afterInt
          segments := second }, site.kernelWrites entered.memory⟩ (reaches left)
        wrapperExit
      rw [same]
      refine Or.inr ⟨result, last, closed left sparedLast, ?_⟩
      show CallOutcome.returned _ _ = _
      rw [runsExit, ← foldl_withSegments]
      rfl
  | stops stop =>
      rw [ends] at answered
      cases stop with
      | neverReturns calls =>
          obtain ⟨-, rfl⟩ := answered
          rw [same]
          exact Or.inl rfl
      | faults calls => exact answered.elim
  | outsideTable index =>
      rw [ends] at answered
      exact answered.elim
  | strays target =>
      rw [ends] at answered
      exact answered.elim

end Wrappers

/-- A program that calls `read` with its three arguments on the stack, and has null in ES
as the first shell does. -/
def readCaller : Process where
  registers := ⟨Function.update (fun _ => 7) .esp 0x083fff00, 0x08048200, 0x23, 0x202, 0x2b,
    ⟨.userDs 3, .null 0, .null 0, .null 0⟩⟩
  memory := WordStack.storeWord (WordStack.storeWord (WordStack.storeWord
    (WordStack.storeWord (fun _ => 0) 0x083fff0c 1023) 0x083fff08 0x083ff000)
    0x083fff04 0) 0x083fff00 0x08048123

def pressedKey : Arrival 0x7fdffc where
  handler := keyboardHandler
  order := _
  saves := rtcHandler_saves
  routine := copyingRoutine 0x7fdffc
  returns _ := rfl
  spares := copyingRoutine_spares 0x7fdffc
  eip := 0x400100
  cs := 0x10

def freshKernel : Machine where
  general _ := 0
  eflags := 0
  segments := ⟨.null 0, .null 0, .null 0, .null 0⟩
  memory _ := 0
  mainSyscallRetval := 0
  calls := []

/-- `_start` behind the return of `main`, whose result is in EAX. -/
def startExit (behind : Word) : List LibraryInstruction :=
  [.pushlImmediate 0, .pushlImmediate 0, .pushl .eax, .call behind]

def CallOutcome.calls : CallOutcome → List Call
  | .returned _ calls => calls
  | .neverReturns calls => calls
  | .lost => []

/-- A program that returns from `main` calls `halt` once, with what `main` has
returned. -/
theorem start_halts {top : Word} (functions : Handler → CFunction top)
    (nested : Nat → Machine → List (Arrival top)) (depth : Nat)
    (arrivals : Registers → List (Arrival top)) (kernel : Machine) (site : CallSite)
    (behind : Word) {returned : Process}
    (data : returned.registers.segments.ds.writable = true) :
    ∃ result, CallOutcome.calls
        (wrapper functions (nestedInterrupts functions nested depth) arrivals site
          Handler.halt.number kernel
          (returned.execAll functions (nestedInterrupts functions nested depth) arrivals kernel
            (startExit behind))) =
      [⟨.halt, [returned.registers.general .eax], result⟩] := by
  obtain ⟨segments, spared, runs⟩ := @execAll_spared top functions
    (nestedInterrupts functions nested depth) arrivals kernel returned data
    (startExit behind)
  rw [runs]
  have esp : (((startExit behind).foldl Process.exec returned).withSegments
      segments).registers.general .esp = returned.registers.general .esp - 4 - 4 - 4 - 4 := rfl
  have memory : (((startExit behind).foldl Process.exec returned).withSegments
        segments).memory =
      WordStack.storeWord (WordStack.storeWord (WordStack.storeWord
        (WordStack.storeWord returned.memory (returned.registers.general .esp - 4) 0)
        (returned.registers.general .esp - 4 - 4) 0)
        (returned.registers.general .esp - 4 - 4 - 4) (returned.registers.general .eax))
        (returned.registers.general .esp - 4 - 4 - 4 - 4) behind := rfl
  have holds : Holds (((startExit behind).foldl Process.exec returned).withSegments
        segments).memory
      ((((startExit behind).foldl Process.exec returned).withSegments
        segments).registers.general .esp) [behind, returned.registers.general .eax] := by
    rw [esp, memory]
    exact (Holds.nil.push _ (by simp)).push _ (by simp)
  have there : (((startExit behind).foldl Process.exec returned).withSegments
      segments).registers.segments.ds.writable = true := by
    show segments.ds.writable = true
    rw [spared.ds]
    exact data
  have changes : (functions .halt).Leaves segments.Spared
      fun left => left.ds.writable = true := by
    intro given before after called sparedBefore
    apply (functions .halt).keepsData given before after called
    rw [sparedBefore.ds]
    exact there
  rcases @wrapper_calls top functions (nestedInterrupts functions nested depth) arrivals kernel
    _ .halt [returned.registers.general .eax] behind _ changes
    (fun left sparedAfter => sparedAfter.ds ▸ left) id there (by decide) rfl holds site with
    never | ⟨result, last, -, returns⟩
  · exact ⟨none, congrArg CallOutcome.calls never⟩
  · exact ⟨some result, congrArg CallOutcome.calls returns⟩

/-- The caller above, had its `main` returned 7 instead. -/
theorem start_halts_seven :
    ∃ result, CallOutcome.calls
        (wrapper (copyingFunctions 0x7fdffc)
          (nestedInterrupts (copyingFunctions 0x7fdffc) (fun _ _ => [pressedKey]) 1)
          (fun _ => [pressedKey]) ⟨0x400000, 0x08048300, id⟩ Handler.halt.number freshKernel
          (readCaller.execAll (copyingFunctions 0x7fdffc)
            (nestedInterrupts (copyingFunctions 0x7fdffc) (fun _ _ => [pressedKey]) 1)
            (fun _ => [pressedKey]) freshKernel (startExit 0x08048010))) =
      [⟨.halt, [7], result⟩] :=
  start_halts (copyingFunctions 0x7fdffc) (fun _ _ => [pressedKey]) 1 (fun _ => [pressedKey])
    freshKernel ⟨0x400000, 0x08048300, id⟩ 0x08048010 (by decide)

end ChapOS.Linkage
