import ChapOS.Assembly
import ChapOS.Numerals

/-!
# Filling and copying memory

`memset` and `memcpy` are one routine with two bodies: bytes up to an address that is a
multiple of four, long words with a string instruction, and the bytes that are left.
Both leave memory as the loop over the single bytes does.  `memmove` copies bytes in
the direction that an overlap asks for.
-/

namespace ChapOS

open Assembly WhileLoops CountedLoops

inductive BlockLabel where
  | top
  | aligned
  | bottom
  | done
  deriving DecidableEq, Repr

/-- The lines behind `bottom`: the bytes that are left, counted by `edx`. -/
def blockBottom (byte : List Instruction) : List (Line BlockLabel) :=
  .run (.testl (.register .edx) .edx) ::
  .jz .done ::
  (byte.map .run ++
  (.run (.subl (.immediate 1) .edx) ::
  .jmp .bottom ::
  .label .done :: []))

/-- The instructions behind `aligned`, up to the string instruction. -/
def blockPrepare : List Instruction :=
  [.movwFromDs,
    .movwToEs,
    .movl (.register .ecx) .edx,
    .shrl 2 .ecx,
    .andl (.immediate 0x3) .edx,
    .cld]

/-- The lines behind `aligned`. -/
def blockAligned (byte : List Instruction) (string : StringInstruction) :
    List (Line BlockLabel) :=
  blockPrepare.map .run ++
  (.rep string ::
  .label .bottom ::
  blockBottom byte)

/-- The lines behind `top`: bytes counted by `ecx`, up to an aligned address. -/
def blockTop (byte : List Instruction) (string : StringInstruction) :
    List (Line BlockLabel) :=
  .run (.testl (.register .ecx) .ecx) ::
  .jz .done ::
  .run (.testl (.immediate 0x3) .edi) ::
  .jz .aligned ::
  (byte.map .run ++
  (.run (.subl (.immediate 1) .ecx) ::
  .jmp .top ::
  .label .aligned ::
  blockAligned byte string))

/-- The routine, with the instructions for one byte and the string instruction for four. -/
def blockRoutine (byte : List Instruction) (string : StringInstruction) :
    List (Line BlockLabel) :=
  .label .top :: blockTop byte string

/-- The instructions of `memset` for one byte. -/
def memsetByte : List Instruction :=
  [.movbStore .edi,
    .addl (.immediate 1) .edi]

/-- The assembly of `memset`. -/
def memsetCode : List (Line BlockLabel) :=
  blockRoutine memsetByte .stosl

/-- `memset`. -/
def memset (turns : Nat) (machine : Machine) (s c n : BitVec 32) : Option Machine :=
  let c := c &&& 0xFF
  runRoutine memsetCode turns
    { machine with
      eax := c <<< 24 ||| c <<< 16 ||| c <<< 8 ||| c
      edi := s
      ecx := n }

/-- The instructions of `memcpy` for one byte. -/
def memcpyByte : List Instruction :=
  [.movbLoad .esi,
    .movbStore .edi,
    .addl (.immediate 1) .edi,
    .addl (.immediate 1) .esi]

/-- The assembly of `memcpy`. -/
def memcpyCode : List (Line BlockLabel) :=
  blockRoutine memcpyByte .movsl

/-- `memcpy`. -/
def memcpy (turns : Nat) (machine : Machine) (dest src n : BitVec 32) : Option Machine :=
  runRoutine memcpyCode turns
    { machine with
      esi := src
      edi := dest
      ecx := n }

inductive MoveLabel where
  | go
  deriving DecidableEq, Repr

/-- The assembly of `memmove`. -/
def memmoveCode : List (Line MoveLabel) :=
  [.run .movwFromDs,
    .run .movwToEs,
    .run .cld,
    .run (.cmp (.register .edi) .esi),
    .jae .go,
    .run (.leal (-1) .esi .ecx .esi),
    .run (.leal (-1) .edi .ecx .edi),
    .run .std,
    .label .go,
    .rep .movsb]

/-- `memmove`. -/
def memmove (turns : Nat) (machine : Machine) (dest src n : BitVec 32) :
    Option Machine :=
  runRoutine memmoveCode turns
    { machine with
      edi := dest
      esi := src
      ecx := n }

section BlockRoutine

variable {byte : List Instruction} {string : StringInstruction}
  {holds : Nat → Machine → Prop} {n : Nat}

/-- The two bodies of a routine carry a state of the work from one number of bytes done
to the next; the state is one of `eax`, of the pointers and of memory. -/
structure CarriesOut (byte : List Instruction) (string : StringInstruction)
    (holds : Nat → Machine → Prop) (n : Nat) : Prop where
  congr : ∀ {count} {machine other : Machine}, holds count machine →
    other.eax = machine.eax → other.esi = machine.esi → other.edi = machine.edi →
    other.memory = machine.memory → holds count other
  byte : ∀ {count machine}, count < n → holds count machine →
    holds (count + 1) (byte.foldl Machine.exec machine) ∧
    (byte.foldl Machine.exec machine).ecx = machine.ecx ∧
    (byte.foldl Machine.exec machine).edx = machine.edx
  string : ∀ {count words machine}, count + 4 * words ≤ n → holds count machine →
    machine.direction = false →
    holds (count + 4 * words)
      (forUpTo words (fun _ current => current.repeatOnce string) machine) ∧
    (forUpTo words (fun _ current => current.repeatOnce string) machine).edx =
      machine.edx

theorem linesBehind_done : linesBehind .done (blockRoutine byte string) = some [] := by
  simp only [blockRoutine, blockTop, blockAligned, blockBottom, linesBehind,
    linesBehind_block, reduceCtorEq, if_false, if_true]

theorem linesBehind_bottom :
    linesBehind .bottom (blockRoutine byte string) = some (blockBottom byte) := by
  simp only [blockRoutine, blockTop, blockAligned, linesBehind, linesBehind_block,
    reduceCtorEq, if_false, if_true]

theorem linesBehind_aligned :
    linesBehind .aligned (blockRoutine byte string) = some (blockAligned byte string) := by
  simp only [blockRoutine, blockTop, linesBehind, linesBehind_block, reduceCtorEq,
    if_false, if_true]

theorem linesBehind_top :
    linesBehind .top (blockRoutine byte string) = some (blockTop byte string) :=
  rfl

/-- The loop over the bytes that are left. -/
theorem bottom_ends (carries : CarriesOut byte string holds n) {count : Nat}
    {machine : Machine} (works : holds count machine)
    (remaining : count + machine.edx.toNat = n) :
    ∃ after, Ends (lineTurn (blockRoutine byte string)) (blockBottom byte, machine) after ∧
      holds n after := by
  induction isLeft : machine.edx.toNat generalizing count machine with
  | zero =>
      obtain rfl : count = n := by omega
      exact ⟨_, counter_done (BitVec.eq_of_toNat_eq isLeft) linesBehind_done,
        carries.congr works rfl rfl rfl rfl⟩
  | succ left ih =>
      have tested : holds count (machine.exec (.testl (.register .edx) .edx)) :=
        carries.congr works rfl rfl rfl rfl
      obtain ⟨works, -, edx⟩ := carries.byte (show count < n by omega) tested
      generalize isStored : byte.foldl Machine.exec
        (machine.exec (.testl (.register .edx) .edx)) = stored at works edx
      have counted : (stored.exec (.subl (.immediate 1) .edx)).edx.toNat = left := by
        show (stored.edx - 1).toNat = left
        rw [edx]
        exact sub_one_toNat isLeft
      obtain ⟨after, ends, done⟩ := ih
        (carries.congr works rfl rfl rfl rfl :
          holds (count + 1) (stored.exec (.subl (.immediate 1) .edx)))
        (by rw [counted]; omega) counted
      refine ⟨after, counter_goesOn (ne_zero_of_toNat_eq_succ isLeft) ?_, done⟩
      apply counted_ends byte linesBehind_bottom
      rw [isStored]
      exact ends

/-- The long words, and the bytes that are left. -/
theorem aligned_ends (carries : CarriesOut byte string holds n) {count : Nat}
    {machine : Machine} (works : holds count machine)
    (remaining : count + machine.ecx.toNat = n) :
    ∃ after,
      Ends (lineTurn (blockRoutine byte string)) (blockAligned byte string, machine) after ∧
      holds n after := by
  obtain ⟨prepared, isPrepared⟩ : ∃ prepared,
      prepared = blockPrepare.foldl Machine.exec machine := ⟨_, rfl⟩
  have words : prepared.ecx.toNat = machine.ecx.toNat / 4 := by
    rw [isPrepared]
    show (machine.ecx >>> 2).toNat = machine.ecx.toNat / 2 ^ 2
    rw [BitVec.toNat_ushiftRight, Nat.shiftRight_eq_div_pow]
  have rest : prepared.edx.toNat = machine.ecx.toNat % 4 := by
    rw [isPrepared]
    show (machine.ecx &&& 3).toNat = machine.ecx.toNat % 2 ^ 2
    rw [BitVec.toNat_and]
    exact Nat.and_two_pow_sub_one_eq_mod _ 2
  have forward : prepared.direction = false := by
    rw [isPrepared]
    rfl
  have started : holds count prepared := by
    rw [isPrepared]
    exact carries.congr works rfl rfl rfl rfl
  obtain ⟨moved, edx⟩ := @CarriesOut.string _ _ _ _ carries count
    (machine.ecx.toNat / 4) prepared (by omega) started forward
  obtain ⟨after, ends, done⟩ := bottom_ends carries moved (by rw [edx, rest]; omega)
  refine ⟨after, ?_, done⟩
  apply Ends.of_leads (block_leads _ _ blockPrepare machine)
  rw [← isPrepared]
  apply Ends.of_leads (rep_leads string words)
  exact Ends.next rfl ends

/-- The loop over the bytes in front of an aligned address. -/
theorem top_ends (carries : CarriesOut byte string holds n) {count : Nat}
    {machine : Machine} (works : holds count machine)
    (remaining : count + machine.ecx.toNat = n) :
    ∃ after,
      Ends (lineTurn (blockRoutine byte string)) (blockTop byte string, machine) after ∧
      holds n after := by
  induction isLeft : machine.ecx.toNat generalizing count machine with
  | zero =>
      obtain rfl : count = n := by omega
      exact ⟨_, counter_done (BitVec.eq_of_toNat_eq isLeft) linesBehind_done,
        carries.congr works rfl rfl rfl rfl⟩
  | succ left ih =>
      obtain ⟨checked, isChecked⟩ : ∃ checked, checked =
          (machine.exec (.testl (.register .ecx) .ecx)).exec (.testl (.immediate 0x3) .edi) :=
        ⟨_, rfl⟩
      have works : holds count checked := by
        rw [isChecked]
        exact carries.congr works rfl rfl rfl rfl
      have sameEcx : checked.ecx = machine.ecx := by
        rw [isChecked]
        rfl
      -- The tests lead on to the alignment test, which decides between the two bodies.
      have leads (after : Machine)
          (ends : Ends (lineTurn (blockRoutine byte string))
            ((blockTop byte string).drop 3, checked) after) :
          Ends (lineTurn (blockRoutine byte string)) (blockTop byte string, machine)
            after := by
        rw [isChecked] at ends
        exact counter_goesOn (ne_zero_of_toNat_eq_succ isLeft) (Ends.next rfl ends)
      cases aligned : checked.zero with
      | true =>
          obtain ⟨after, ends, done⟩ := aligned_ends carries works
            (by rw [sameEcx]; exact remaining)
          exact ⟨after, leads after (Ends.next (jz_taken aligned linesBehind_aligned) ends),
            done⟩
      | false =>
          obtain ⟨works, ecx, -⟩ := carries.byte (show count < n by omega) works
          generalize isStored : byte.foldl Machine.exec checked = stored at works ecx
          rw [sameEcx] at ecx
          have counted : (stored.exec (.subl (.immediate 1) .ecx)).ecx.toNat = left := by
            show (stored.ecx - 1).toNat = left
            rw [ecx]
            exact sub_one_toNat isLeft
          obtain ⟨after, ends, done⟩ := ih
            (carries.congr works rfl rfl rfl rfl :
              holds (count + 1) (stored.exec (.subl (.immediate 1) .ecx)))
            (by rw [counted]; omega) counted
          refine ⟨after, leads after (Ends.next (jz_past aligned) ?_), done⟩
          apply counted_ends byte linesBehind_top
          rw [isStored]
          exact ends

/-- The routine ends for every count and every alignment, with all of the work done. -/
theorem blockRoutine_ends (carries : CarriesOut byte string holds n) {machine : Machine}
    (starts : holds 0 machine) (counts : machine.ecx.toNat = n) :
    ∃ after,
      Ends (lineTurn (blockRoutine byte string)) (blockRoutine byte string, machine) after ∧
      holds n after := by
  obtain ⟨after, ends, done⟩ := top_ends carries starts (by omega)
  exact ⟨after, Ends.next rfl ends, done⟩

end BlockRoutine

section Bytewise

variable {machine : Machine} {n : BitVec 32}

/-- `count` bytes have been stored. -/
structure Filled (before : TracedMemory Nat UInt8) (s : BitVec 32) (value : UInt8)
    (count : Nat) (machine : Machine) : Prop where
  edi : machine.edi = s + BitVec.ofNat 32 count
  eax : ∀ index < 4, byteOf machine.eax index = value
  memory : machine.memory = before.storeSequence (addressAt s) (fun _ => value) count

theorem memset_carriesOut (before : TracedMemory Nat UInt8) (s : BitVec 32)
    (value : UInt8) (n : Nat) :
    CarriesOut memsetByte .stosl (Filled before s value) n where
  congr filled eax _ edi memory := by
    constructor
    · rw [edi, filled.edi]
    · rw [eax]
      exact filled.eax
    · rw [memory, filled.memory]
  byte := by
    intro count machine _ filled
    refine ⟨⟨?_, filled.eax, ?_⟩, rfl, rfl⟩
    · show machine.edi + BitVec.ofNat 32 1 = _
      rw [filled.edi, add_ofNat_add]
    · have low := filled.eax 0 (by decide)
      rw [byteOf, Nat.pow_zero, Nat.div_one] at low
      show machine.memory.store machine.edi.toNat (UInt8.ofNat machine.eax.toNat) = _
      rw [low, filled.edi, filled.memory]
      rfl
  string := by
    intro count words machine _ filled forward
    rw [stosl_forward forward filled.eax words]
    refine ⟨⟨?_, filled.eax, ?_⟩, rfl⟩
    · dsimp only
      rw [filled.edi, add_ofNat_add]
    · dsimp only
      rw [filled.memory, filled.edi, TracedMemory.storeSequence_add]
      simp only [← addressAt_add]

/-- `count` bytes have been copied. -/
structure BytesCopied (before : TracedMemory Nat UInt8) (dest src : BitVec 32) (count : Nat)
    (machine : Machine) : Prop where
  edi : machine.edi = dest + BitVec.ofNat 32 count
  esi : machine.esi = src + BitVec.ofNat 32 count
  memory : machine.memory = before.moveSequence (addressAt dest) (addressAt src) count

theorem memcpy_carriesOut (before : TracedMemory Nat UInt8) {dest src : BitVec 32}
    {n : Nat} (ahead : ∀ first second, first < second → second < n →
      addressAt dest first ≠ addressAt src second) :
    CarriesOut memcpyByte .movsl (BytesCopied before dest src) n where
  congr copied _ esi edi memory := by
    constructor
    · rw [edi, copied.edi]
    · rw [esi, copied.esi]
    · rw [memory, copied.memory]
  byte := by
    intro count machine _ copied
    refine ⟨⟨?_, ?_, ?_⟩, rfl, rfl⟩
    · show machine.edi + BitVec.ofNat 32 1 = _
      rw [copied.edi, add_ofNat_add]
    · show machine.esi + BitVec.ofNat 32 1 = _
      rw [copied.esi, add_ofNat_add]
    · show machine.memory.store machine.edi.toNat (UInt8.ofNat
        (machine.setAl (machine.memory.read machine.esi.toNat)).eax.toNat) = _
      rw [setAl_low, copied.edi, copied.esi, copied.memory]
      rfl
  string := by
    intro count words machine within copied forward
    rw [movsl_forward forward (by
      intro first second before below
      rw [copied.edi, copied.esi, addressAt_add, addressAt_add]
      exact ahead _ _ (by omega) (by omega))]
    refine ⟨⟨?_, ?_, ?_⟩, rfl⟩
    · dsimp only
      rw [copied.edi, add_ofNat_add]
    · dsimp only
      rw [copied.esi, add_ofNat_add]
    · dsimp only
      rw [copied.memory, copied.edi, copied.esi, TracedMemory.moveSequence_add]
      simp only [← addressAt_add]

/-- The four bytes of `c << 24 | c << 16 | c << 8 | c`. -/
theorem byteOf_repeated (c : BitVec 32) {index : Nat} (indexLt : index < 4) :
    byteOf ((c &&& 0xFF) <<< 24 ||| (c &&& 0xFF) <<< 16 ||| (c &&& 0xFF) <<< 8 |||
      (c &&& 0xFF)) index = UInt8.ofNat c.toNat := by
  have bytes : ∀ low : Fin 256, ∀ index < 4,
      byteOf (BitVec.ofNat 32 low <<< 24 ||| BitVec.ofNat 32 low <<< 16 |||
        BitVec.ofNat 32 low <<< 8 ||| BitVec.ofNat 32 low) index = UInt8.ofNat low := by
    decide +kernel
  have masked : c &&& 0xFF = BitVec.ofNat 32 (c.toNat % 256) := by
    apply BitVec.eq_of_toNat_eq
    rw [BitVec.toNat_and, BitVec.toNat_ofNat]
    have modulo := Nat.and_two_pow_sub_one_eq_mod c.toNat 8
    show c.toNat &&& (2 ^ 8 - 1) = _
    rw [modulo]
    omega
  rw [masked, bytes ⟨c.toNat % 256, Nat.mod_lt _ (by decide)⟩ index indexLt]
  apply UInt8.toNat_inj.mp
  simp

/-- `memset` stores the low byte of `c` at each address. -/
theorem memset_ends (machine : Machine) (s c n : BitVec 32)
    (fits : s.toNat + n.toNat ≤ 2 ^ 32) :
    ∃ enough after,
      (∀ turns, enough ≤ turns → memset turns machine s c n = some after) ∧
      after.memory = machine.memory.storeSequence (fun index => s.toNat + index)
        (fun _ => UInt8.ofNat c.toNat) n.toNat := by
  obtain ⟨after, ends, filled⟩ := @blockRoutine_ends _ _ _ _
    (memset_carriesOut machine.memory s (UInt8.ofNat c.toNat) n.toNat)
    { machine with
      eax := (c &&& 0xFF) <<< 24 ||| (c &&& 0xFF) <<< 16 ||| (c &&& 0xFF) <<< 8 |||
        (c &&& 0xFF)
      edi := s
      ecx := n }
    ⟨(BitVec.add_zero s).symm, fun _ indexLt => byteOf_repeated c indexLt, rfl⟩ rfl
  obtain ⟨enough, ended⟩ := ends.exists_enough
  refine ⟨enough, after, ended, filled.memory.trans ?_⟩
  apply forUpTo_congr
  intro index indexLt current
  rw [addressAt_of_fits (by omega)]

/-- `memcpy` copies the bytes from low to high unless it would read one of its stores. -/
theorem memcpy_ends (machine : Machine) {dest src n : BitVec 32}
    (destFits : dest.toNat + n.toNat ≤ 2 ^ 32) (srcFits : src.toNat + n.toNat ≤ 2 ^ 32)
    (apart : dest.toNat ≤ src.toNat ∨ src.toNat + n.toNat ≤ dest.toNat) :
    ∃ enough after,
      (∀ turns, enough ≤ turns → memcpy turns machine dest src n = some after) ∧
      after.memory = machine.memory.copyRange dest.toNat src.toNat n.toNat := by
  have ahead (first second : Nat) (before : first < second) (below : second < n.toNat) :
      addressAt dest first ≠ addressAt src second := by
    rw [addressAt_of_fits (by omega), addressAt_of_fits (by omega)]
    omega
  obtain ⟨after, ends, copied⟩ := @blockRoutine_ends _ _ _ _
    (memcpy_carriesOut machine.memory ahead)
    { machine with
      esi := src
      edi := dest
      ecx := n }
    ⟨(BitVec.add_zero dest).symm, (BitVec.add_zero src).symm, rfl⟩ rfl
  obtain ⟨enough, ended⟩ := ends.exists_enough
  refine ⟨enough, after, ended, copied.memory.trans ?_⟩
  apply forUpTo_congr
  intro index indexLt current
  rw [addressAt_of_fits (by omega), addressAt_of_fits (by omega)]

/-- For every alignment and every count, `memset` leaves memory as storing the low byte
of `c` at each address does, and `memcpy` as copying the bytes from low to high does;
neither stores anywhere else. -/
theorem memset_memcpy_bytewise (machine : Machine) (c : BitVec 32) {dest src n : BitVec 32}
    (destFits : dest.toNat + n.toNat ≤ 2 ^ 32) :
    (∃ enough after,
      (∀ turns, enough ≤ turns → memset turns machine dest c n = some after) ∧
      after.memory = machine.memory.storeSequence (fun index => dest.toNat + index)
        (fun _ => UInt8.ofNat c.toNat) n.toNat ∧
      TracedMemory.StoresOnly (stringRegion dest.toNat n.toNat) machine.memory
        after.memory) ∧
    (src.toNat + n.toNat ≤ 2 ^ 32 →
      (dest.toNat + n.toNat ≤ src.toNat ∨ src.toNat + n.toNat ≤ dest.toNat) ∨
        dest < src →
      ∃ enough after,
        (∀ turns, enough ≤ turns → memcpy turns machine dest src n = some after) ∧
        after.memory = machine.memory.copyRange dest.toNat src.toNat n.toNat ∧
        TracedMemory.StoresOnly (stringRegion dest.toNat n.toNat) machine.memory
          after.memory) := by
  constructor
  · obtain ⟨enough, after, ended, filled⟩ := memset_ends machine dest c n destFits
    refine ⟨enough, after, ended, filled, ?_⟩
    rw [filled]
    apply (machine.memory.storeSequence_storesOnly _ _ _).mono
    rintro address ⟨index, indexLt, rfl⟩
    exact ⟨Nat.le_add_right _ _, by omega⟩
  · intro srcFits apart
    rw [BitVec.lt_def] at apart
    obtain ⟨enough, after, ended, copied⟩ := memcpy_ends machine destFits srcFits
      (by omega)
    refine ⟨enough, after, ended, copied, ?_⟩
    rw [copied]
    exact machine.memory.copyRange_storesOnly _ _ _

/-- A machine whose memory holds the low byte of each address. -/
def addressedMachine : Machine :=
  ⟨0, 0, 0, 0, 0, 0x18, 0, false, false, false, ⟨fun address => UInt8.ofNat address, []⟩⟩

/-- Seven bytes to an odd address, from two bytes behind it. -/
theorem memset_memcpy_bytewise_seven :
    (∃ enough after,
      (∀ turns, enough ≤ turns → memset turns addressedMachine 0x1001 0x141 7 = some after) ∧
      after.memory =
        addressedMachine.memory.storeSequence (fun index => 0x1001 + index) (fun _ => 0x41) 7) ∧
    ∃ enough after,
      (∀ turns, enough ≤ turns → memcpy turns addressedMachine 0x1001 0x1003 7 = some after) ∧
      after.memory = addressedMachine.memory.copyRange 0x1001 0x1003 7 := by
  obtain ⟨⟨enough, after, ended, filled, -⟩, copies⟩ :=
    @memset_memcpy_bytewise addressedMachine 0x141 0x1001 0x1003 7 (by decide)
  obtain ⟨copyEnough, copyAfter, copyEnded, copied, -⟩ :=
    copies (by decide) (Or.inr (by decide))
  exact ⟨⟨enough, after, ended, filled⟩, copyEnough, copyAfter, copyEnded, copied⟩

end Bytewise

section Memmove

variable {machine : Machine} {dest src n : BitVec 32}

/-- The machine behind the comparison of `memmove`. -/
def memmoveCompared (machine : Machine) (dest src n : BitVec 32) : Machine :=
  [.movwFromDs, .movwToEs, .cld, .cmp (.register .edi) .esi].foldl Machine.exec
    { machine with
      edi := dest
      esi := src
      ecx := n }

theorem memmoveCompared_carry :
    (memmoveCompared machine dest src n).carry = decide (src < dest) :=
  rfl

theorem memmove_of_compared {after : Machine}
    (ends : Ends (lineTurn memmoveCode)
      (memmoveCode.drop 4, memmoveCompared machine dest src n) after) :
    Ends (lineTurn memmoveCode)
      (memmoveCode, { machine with edi := dest, esi := src, ecx := n }) after :=
  Ends.of_leads (block_leads memmoveCode (memmoveCode.drop 4)
    [.movwFromDs, .movwToEs, .cld, .cmp (.register .edi) .esi] _) ends

/-- The branch for a target above the source: from the last byte down. -/
theorem memmove_backward (backward : src < dest) :
    ∃ after,
      Ends (lineTurn memmoveCode) (memmoveCode.drop 4, memmoveCompared machine dest src n)
        after ∧
      after.direction = true ∧
      after.memory = machine.memory.moveSequence (addressBefore (dest + n + -1))
        (addressBefore (src + n + -1)) n.toNat := by
  obtain ⟨turned, isTurned⟩ : ∃ turned, turned =
      [.leal (-1) .esi .ecx .esi, .leal (-1) .edi .ecx .edi, .std].foldl Machine.exec
        (memmoveCompared machine dest src n) := ⟨_, rfl⟩
  have counts : turned.ecx.toNat = n.toNat := by
    rw [isTurned]
    rfl
  have direction : turned.direction = true := by
    rw [isTurned]
    rfl
  have moved := @movsb_backward turned direction n.toNat
  refine ⟨forUpTo n.toNat (fun _ current => current.repeatOnce .movsb) turned, ?_, ?_, ?_⟩
  · have carry := @memmoveCompared_carry machine dest src n
    rw [decide_eq_true backward] at carry
    have past : lineTurn memmoveCode
        (memmoveCode.drop 4, memmoveCompared machine dest src n) =
        .next (memmoveCode.drop 5, memmoveCompared machine dest src n) := if_pos carry
    apply Ends.next past
    apply Ends.of_leads (block_leads memmoveCode (memmoveCode.drop 8)
      [.leal (-1) .esi .ecx .esi, .leal (-1) .edi .ecx .edi, .std] _)
    rw [← isTurned]
    apply Ends.next (show lineTurn _ (_ :: _, turned) = .next (_, _) from rfl)
    exact Ends.of_leads (rep_leads .movsb counts) (Ends.exit rfl)
  · rw [moved]
    exact direction
  · rw [moved, isTurned]
    rfl

/-- The other branch: from the first byte up. -/
theorem memmove_forward (forward : ¬src < dest) :
    ∃ after,
      Ends (lineTurn memmoveCode) (memmoveCode.drop 4, memmoveCompared machine dest src n)
        after ∧
      after.direction = false ∧
      after.memory =
        machine.memory.moveSequence (addressAt dest) (addressAt src) n.toNat := by
  have direction : (memmoveCompared machine dest src n).direction = false := rfl
  have counts : (memmoveCompared machine dest src n).ecx.toNat = n.toNat := rfl
  have moved := @movsb_forward _ direction n.toNat
  refine ⟨forUpTo n.toNat (fun _ current => current.repeatOnce .movsb)
    (memmoveCompared machine dest src n), ?_, ?_, ?_⟩
  · have carry := @memmoveCompared_carry machine dest src n
    rw [decide_eq_false forward] at carry
    have taken : lineTurn memmoveCode
        (memmoveCode.drop 4, memmoveCompared machine dest src n) =
        .next (memmoveCode.drop 9, memmoveCompared machine dest src n) := by
      refine (if_neg ?_).trans rfl
      rw [carry]
      decide
    apply Ends.next taken
    exact Ends.of_leads (rep_leads .movsb counts) (Ends.exit rfl)
  · rw [moved]
    exact direction
  · rw [moved]
    rfl

/-- The direction is chosen by an unsigned comparison, and is left as it was chosen. -/
theorem memmove_ends (machine : Machine) (dest src n : BitVec 32) :
    ∃ enough after,
      (∀ turns, enough ≤ turns → memmove turns machine dest src n = some after) ∧
      after.direction = decide (src < dest) ∧
      after.memory =
        if src < dest then
          machine.memory.moveSequence (addressBefore (dest + n + -1))
            (addressBefore (src + n + -1)) n.toNat
        else machine.memory.moveSequence (addressAt dest) (addressAt src) n.toNat := by
  by_cases backward : src < dest
  · obtain ⟨after, ends, direction, moved⟩ := @memmove_backward machine dest src n backward
    obtain ⟨enough, ended⟩ := (memmove_of_compared ends).exists_enough
    rw [decide_eq_true backward, if_pos backward]
    exact ⟨enough, after, ended, direction, moved⟩
  · obtain ⟨after, ends, direction, moved⟩ := @memmove_forward machine dest src n backward
    obtain ⟨enough, ended⟩ := (memmove_of_compared ends).exists_enough
    rw [decide_eq_false backward, if_neg backward]
    exact ⟨enough, after, ended, direction, moved⟩

/-- A move from one range to another in an order that undoes itself, and that reads no
byte behind its own store. -/
theorem moved_bytes (memory : TracedMemory Nat UInt8) {dest src count : Nat}
    {place : Nat → Nat} (inside : ∀ i < count, place i < count)
    (undone : ∀ i < count, place (place i) = i)
    (ahead : ∀ first second, first < second → second < count →
      dest + place first ≠ src + place second) :
    (∀ i < count,
      (memory.moveSequence (fun i => dest + place i) (fun i => src + place i) count).read
        (dest + i) = memory.read (src + i)) ∧
    TracedMemory.StoresOnly (stringRegion dest count) memory
      (memory.moveSequence (fun i => dest + place i) (fun i => src + place i) count) := by
  rw [TracedMemory.moveSequence_eq_storeSequence memory ahead]
  constructor
  · intro i iLt
    have distinct (first : Nat) (firstLt : first < count) (second : Nat)
        (secondLt : second < count) (same : dest + place first = dest + place second) :
        first = second := by
      rw [← undone first firstLt, Nat.add_left_cancel same, undone second secondLt]
    have reads := memory.storeSequence_read (fun i => memory.read (src + place i)) distinct
      (inside i iLt)
    rwa [undone i iLt] at reads
  · apply (memory.storeSequence_storesOnly _ _ count).mono
    rintro address ⟨index, indexLt, rfl⟩
    have within := inside index indexLt
    exact ⟨Nat.le_add_right dest _, by omega⟩

/-- In both directions the bytes arrive as they were. -/
theorem memmove_bytes (destFits : dest.toNat + n.toNat ≤ 2 ^ 32)
    (srcFits : src.toNat + n.toNat ≤ 2 ^ 32) {after : TracedMemory Nat UInt8}
    (moved : after =
      if src < dest then
        machine.memory.moveSequence (addressBefore (dest + n + -1))
          (addressBefore (src + n + -1)) n.toNat
      else machine.memory.moveSequence (addressAt dest) (addressAt src) n.toNat) :
    (∀ i < n.toNat, after.read (dest.toNat + i) =
      machine.memory.read (src.toNat + i)) ∧
    TracedMemory.StoresOnly (stringRegion dest.toNat n.toNat) machine.memory after := by
  by_cases backward : src < dest
  · rw [if_pos backward] at moved
    rw [BitVec.lt_def] at backward
    have below (pointer : BitVec 32) (fits : pointer.toNat + n.toNat ≤ 2 ^ 32) (i : Nat)
        (iLt : i < n.toNat) :
        addressBefore (pointer + n + -1) i = pointer.toNat + (n.toNat - 1 - i) := by
      have minusOne : (-1 : BitVec 32).toNat = 2 ^ 32 - 1 := rfl
      have last : (pointer + n + -1).toNat = pointer.toNat + n.toNat - 1 := by
        rw [BitVec.toNat_add, BitVec.toNat_add, minusOne]
        omega
      rw [addressBefore_of_fits (by omega), last]
      omega
    rw [moved, machine.memory.moveSequence_congr (below dest destFits) (below src srcFits)]
    apply moved_bytes
    · intro i iLt
      omega
    · intro i iLt
      omega
    · intro first second before within
      omega
  · rw [if_neg backward] at moved
    rw [BitVec.lt_def] at backward
    have above (pointer : BitVec 32) (fits : pointer.toNat + n.toNat ≤ 2 ^ 32) (i : Nat)
        (iLt : i < n.toNat) : addressAt pointer i = pointer.toNat + i :=
      addressAt_of_fits (by omega)
    rw [moved, machine.memory.moveSequence_congr (above dest destFits) (above src srcFits)]
    apply moved_bytes
    · exact fun i iLt => iLt
    · exact fun i _ => rfl
    · intro first second before within
      omega

/-- The bytes have arrived as they were, no other byte has changed, and the direction
flag is clear. -/
structure MovedSafely (machine : Machine) (dest src n : BitVec 32) (after : Machine) :
    Prop where
  bytes : ∀ i < n.toNat,
    after.memory.read (dest.toNat + i) = machine.memory.read (src.toNat + i)
  stores : TracedMemory.StoresOnly (stringRegion dest.toNat n.toNat) machine.memory
    after.memory
  direction : after.direction = false

/-- `memmove` always moves the bytes, and leaves the direction flag set behind every
move to a higher address. -/
theorem memmove_of_fits (machine : Machine) (destFits : dest.toNat + n.toNat ≤ 2 ^ 32)
    (srcFits : src.toNat + n.toNat ≤ 2 ^ 32) :
    ∃ enough after,
      (∀ turns, enough ≤ turns → memmove turns machine dest src n = some after) ∧
      (MovedSafely machine dest src n after ↔ dest ≤ src) := by
  obtain ⟨enough, after, ended, direction, moved⟩ := memmove_ends machine dest src n
  obtain ⟨bytes, stores⟩ := memmove_bytes destFits srcFits moved
  refine ⟨enough, after, ended, ?_⟩
  constructor
  · intro safely
    rw [safely.direction] at direction
    exact BitVec.not_lt.mp (decide_eq_false_iff_not.mp direction.symm)
  · intro upwards
    rw [decide_eq_false (BitVec.not_lt.mpr upwards)] at direction
    exact ⟨bytes, stores, direction⟩

theorem memmove_unique {enough other : Nat} {after otherAfter : Machine}
    (ended : ∀ turns, enough ≤ turns → memmove turns machine dest src n = some after)
    (otherEnded : ∀ turns, other ≤ turns →
      memmove turns machine dest src n = some otherAfter) : after = otherAfter := by
  have first := ended (max enough other) (Nat.le_max_left _ _)
  have second := otherEnded (max enough other) (Nat.le_max_right _ _)
  exact Option.some.inj (first.symm.trans second)

/-- `memmove` ends with the bytes moved, nothing else changed and the direction flag
clear exactly when it does not move to a higher address. -/
theorem memmove_movedSafely_iff (destFits : dest.toNat + n.toNat ≤ 2 ^ 32)
    (srcFits : src.toNat + n.toNat ≤ 2 ^ 32) :
    (∃ enough after,
      (∀ turns, enough ≤ turns → memmove turns machine dest src n = some after) ∧
      MovedSafely machine dest src n after) ↔ dest ≤ src := by
  obtain ⟨enough, after, ended, safe⟩ := memmove_of_fits machine destFits srcFits
  constructor
  · rintro ⟨other, otherAfter, otherEnded, safely⟩
    rw [← memmove_unique ended otherEnded] at safely
    exact safe.mp safely
  · intro upwards
    exact ⟨enough, after, ended, safe.mpr upwards⟩

/-- A move to a lower address. -/
theorem memmove_movedSafely_down :
    ∃ enough after,
      (∀ turns, enough ≤ turns → memmove turns addressedMachine 0x1000 0x1001 2 = some after) ∧
      MovedSafely addressedMachine 0x1000 0x1001 2 after := by
  exact (@memmove_movedSafely_iff addressedMachine 0x1000 0x1001 2 (by decide) (by decide)).mpr
    (by decide)

/-- A move of two bytes to the next address leaves the direction flag set. -/
theorem memmove_not_movedSafely_up :
    (memmove 20 addressedMachine 0x1001 0x1000 2).map Machine.direction = some true ∧
    ¬∃ enough after,
      (∀ turns, enough ≤ turns → memmove turns addressedMachine 0x1001 0x1000 2 = some after) ∧
      MovedSafely addressedMachine 0x1001 0x1000 2 after := by
  constructor
  · decide +kernel
  · rintro ⟨enough, after, ended, safely⟩
    obtain ⟨other, otherAfter, otherEnded, safe⟩ :=
      @memmove_of_fits 0x1001 0x1000 2 addressedMachine (by decide) (by decide)
    rw [memmove_unique ended otherEnded] at safely
    exact absurd (safe.mp safely) (by decide)

end Memmove

end ChapOS
