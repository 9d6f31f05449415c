import ChapOS.ClockWrites

/-!
# Masking interrupt lines

`master_mask` and `slave_mask` are copies of registers that cannot be read back.
`i8259_init` starts both controllers, which clears their mask registers, and writes only
one of them again: the copy of the slave's mask is true of the slave only from the first
call on that names one of its lines.
-/

namespace ChapOS

open Devices

/-- A call of `enable_irq` or of `disable_irq`. -/
inductive MaskCall where
  | enableIrq (irqNum : BitVec 32)
  | disableIrq (irqNum : BitVec 32)
  deriving DecidableEq

namespace MaskCall

def irqNum : MaskCall → BitVec 32
  | .enableIrq irqNum => irqNum
  | .disableIrq irqNum => irqNum

/-- The line that a call leaves masked. -/
def masks : MaskCall → Bool
  | .enableIrq _ => false
  | .disableIrq _ => true

/-- The call names the line. -/
def Names (call : MaskCall) (line : Nat) : Prop :=
  call.irqNum.toNat = line

instance (call : MaskCall) (line : Nat) : Decidable (call.Names line) :=
  inferInstanceAs (Decidable (_ = line))

/-- The call names one of the lines 8 to 15. -/
def NamesSlave (call : MaskCall) : Prop :=
  8 ≤ call.irqNum.toNat ∧ call.irqNum.toNat ≤ 15

def run (devices : Devices) : MaskCall → Devices
  | .enableIrq irqNum => devices.enableIrq irqNum.toNat
  | .disableIrq irqNum => devices.disableIrq irqNum.toNat

end MaskCall

/-- The last call that names a line masks it, or no call names it. -/
def AskedMasked (calls : List MaskCall) (line : Nat) : Prop :=
  ∀ call ∈ (calls.filter fun call => call.Names line).getLast?, call.masks = true

/-- A line is masked in its controller. -/
def InForce (devices : Devices) (line : Nat) : Prop :=
  (if line < 8 then devices.master.mask.toBitVec.getLsbD line
    else devices.slave.mask.toBitVec.getLsbD (line - 8)) = true

instance (devices : Devices) (line : Nat) : Decidable (InForce devices line) :=
  inferInstanceAs (Decidable (_ = true))

/-- The call of `enable_irq` in `i8259_init`. -/
def initCall : MaskCall :=
  .enableIrq (BitVec.ofNat 32 slaveIrq)

/-- The controllers mask the lines that the calls behind `i8259_init` ask for, both
copies are true, and numbers above 15 change nothing. -/
structure MasksFollow (calls : List MaskCall) (devices : Devices) : Prop where
  lines : ∀ line < 16, InForce devices line ↔ AskedMasked (initCall :: calls) line
  master : devices.master.mask = devices.masterMask
  slave : devices.slave.mask = devices.slaveMask
  above : ∀ call : MaskCall, 15 < call.irqNum.toNat → call.run devices = devices

section Bits

theorem singleBitMask_getLsbD :
    ∀ offset < 8, ∀ line < 8,
      (singleBitMask offset).toBitVec.getLsbD line = decide (line = offset) := by
  decide

/-- The mask that a call writes, with its line at an offset. -/
def MaskCall.newMask (call : MaskCall) (mask : UInt8) (offset : Nat) : UInt8 :=
  if call.masks then mask ||| singleBitMask offset
  else mask &&& ~~~singleBitMask offset

theorem newMask_getLsbD (call : MaskCall) (mask : UInt8) {offset line : Nat}
    (offsetLt : offset < 8) (lineLt : line < 8) :
    (call.newMask mask offset).toBitVec.getLsbD line =
      if line = offset then call.masks else mask.toBitVec.getLsbD line := by
  have bit := singleBitMask_getLsbD offset offsetLt line lineLt
  cases call with
  | enableIrq irqNum =>
      show (mask &&& ~~~singleBitMask offset).toBitVec.getLsbD line =
        if line = offset then false else _
      rw [UInt8.toBitVec_and, UInt8.toBitVec_not, BitVec.getLsbD_and, BitVec.getLsbD_not,
        bit, decide_eq_true lineLt]
      by_cases same : line = offset
      · simp [same]
      · simp [same]
  | disableIrq irqNum =>
      show (mask ||| singleBitMask offset).toBitVec.getLsbD line =
        if line = offset then true else _
      rw [UInt8.toBitVec_or, BitVec.getLsbD_or, bit]
      by_cases same : line = offset
      · simp [same]
      · simp [same]

end Bits

section Calls

/-- The three cases of a call. -/
theorem run_eq (devices : Devices) (call : MaskCall) :
    call.run devices =
      if 15 < call.irqNum.toNat then devices
      else if call.irqNum.toNat ≤ 7 then
        { devices with
          masterMask := call.newMask devices.masterMask call.irqNum.toNat
          master := devices.master.writeData
            (call.newMask devices.masterMask call.irqNum.toNat) }
      else
        { devices with
          slaveMask := call.newMask devices.slaveMask (call.irqNum.toNat - 8)
          slave := devices.slave.writeData
            (call.newMask devices.slaveMask (call.irqNum.toNat - 8)) } := by
  cases call <;> rfl

/-- Behind the initialisation, a byte at the data port becomes the mask. -/
theorem writeData_ready {pic : Pic} (ready : pic.icwExpected = 0) (byte : UInt8) :
    pic.writeData byte = { pic with mask := byte } :=
  if_pos ready

/-- The last call of a list decides about the line it names. -/
theorem askedMasked_snoc (calls : List MaskCall) (call : MaskCall) (line : Nat) :
    AskedMasked (calls ++ [call]) line ↔
      if call.Names line then call.masks = true else AskedMasked calls line := by
  unfold AskedMasked
  by_cases named : call.Names line
  · simp [named]
  · simp [named]

/-- A call writes to the copies at the line it names only. -/
theorem masked_run (devices : Devices) (call : MaskCall) {line : Nat} (lineLt : line < 16) :
    Masked (call.run devices) line ↔
      if call.Names line then call.masks = true else Masked devices line := by
  have names : call.Names line ↔ call.irqNum.toNat = line := Iff.rfl
  rw [run_eq]
  simp only [names]
  by_cases above : 15 < call.irqNum.toNat
  · rw [if_pos above, if_neg (by omega)]
  · rw [if_neg above]
    by_cases low : call.irqNum.toNat ≤ 7
    · rw [if_pos low]
      unfold Masked
      by_cases lineLow : line < 8
      · rw [if_pos lineLow, if_pos lineLow, newMask_getLsbD call _ (by omega) lineLow]
        by_cases same : line = call.irqNum.toNat
        · rw [if_pos same, if_pos same.symm]
        · rw [if_neg same, if_neg (by omega)]
      · rw [if_neg lineLow, if_neg (by omega), if_neg lineLow]
    · rw [if_neg low]
      unfold Masked
      by_cases lineLow : line < 8
      · rw [if_pos lineLow, if_neg (by omega), if_pos lineLow]
      · rw [if_neg lineLow, if_neg lineLow,
          newMask_getLsbD call _ (by omega) (by omega)]
        by_cases same : line = call.irqNum.toNat
        · rw [if_pos (by omega), if_pos same.symm]
        · rw [if_neg (by omega), if_neg (by omega)]

/-- What the calls behind `i8259_init` have made of the controllers. -/
structure Followed (calls : List MaskCall) (devices : Devices) : Prop where
  masterReady : devices.master.icwExpected = 0
  slaveReady : devices.slave.icwExpected = 0
  lines : ∀ line < 16, Masked devices line ↔ AskedMasked (initCall :: calls) line
  master : devices.master.mask = devices.masterMask
  named : (∃ call ∈ calls, call.NamesSlave) → devices.slave.mask = devices.slaveMask
  unnamed : (¬∃ call ∈ calls, call.NamesSlave) →
    devices.slave.mask = 0 ∧ devices.slaveMask = 0xFF

/-- The calls of `outb` in `i8259_init` leave both mask registers cleared. -/
theorem Followed.start {devices : Devices} (masterMask : devices.masterMask = 0xFF)
    (slaveMask : devices.slaveMask = 0xFF) : Followed [] devices.i8259Init := by
  have copies : devices.i8259Init.masterMask = 0xFB ∧
      devices.i8259Init.slaveMask = 0xFF := by
    have cleared : (0xFF &&& ~~~singleBitMask slaveIrq : UInt8) = 0xFB := by decide
    have written : devices.i8259Init.masterMask =
        devices.masterMask &&& ~~~singleBitMask slaveIrq := rfl
    rw [written, masterMask]
    exact ⟨cleared, slaveMask⟩
  refine ⟨rfl, rfl, ?_, rfl, ?_, fun _ => ⟨rfl, copies.2⟩⟩
  · intro line lineLt
    have asked := askedMasked_snoc [] initCall line
    rw [List.nil_append] at asked
    have bits : ∀ line < 16,
        (if line < 8 then (0xFB : UInt8).toBitVec.getLsbD line
          else (0xFF : UInt8).toBitVec.getLsbD (line - 8)) = true ↔ 2 ≠ line := by
      decide
    rw [asked, Masked, copies.1, copies.2, bits line lineLt]
    by_cases named : initCall.Names line
    · rw [if_pos named]
      exact iff_of_false (fun other => other named) (by decide)
    · rw [if_neg named]
      exact iff_of_true named (by simp [AskedMasked])
  · rintro ⟨call, mem, -⟩
    exact nomatch mem

/-- A call keeps the controllers in step. -/
theorem Followed.run {calls : List MaskCall} {devices : Devices}
    (followed : Followed calls devices) (call : MaskCall) :
    Followed (calls ++ [call]) (call.run devices) := by
  have lines (line : Nat) (lineLt : line < 16) :
      Masked (call.run devices) line ↔
        AskedMasked (initCall :: (calls ++ [call])) line := by
    rw [← List.cons_append, askedMasked_snoc, masked_run devices call lineLt,
      followed.lines line lineLt]
  have named_snoc : (∃ other ∈ calls ++ [call], other.NamesSlave) ↔
      (∃ other ∈ calls, other.NamesSlave) ∨ call.NamesSlave := by
    constructor
    · rintro ⟨other, mem, names⟩
      rcases List.mem_append.mp mem with isEarlier | isLast
      · exact Or.inl ⟨other, isEarlier, names⟩
      · rw [← List.mem_singleton.mp isLast]
        exact Or.inr names
    · rintro (⟨other, mem, names⟩ | names)
      · exact ⟨other, List.mem_append_left _ mem, names⟩
      · exact ⟨call, List.mem_append_right _ List.mem_cons_self, names⟩
  have names_iff : call.NamesSlave ↔ ¬15 < call.irqNum.toNat ∧ ¬call.irqNum.toNat ≤ 7 := by
    unfold MaskCall.NamesSlave
    omega
  rw [run_eq] at lines ⊢
  by_cases above : 15 < call.irqNum.toNat
  · rw [if_pos above] at lines ⊢
    refine ⟨followed.masterReady, followed.slaveReady, lines, followed.master, ?_, ?_⟩
    · intro named
      rcases named_snoc.mp named with earlier | last
      · exact followed.named earlier
      · exact absurd above (names_iff.mp last).1
    · intro unnamed
      exact followed.unnamed fun earlier => unnamed (named_snoc.mpr (Or.inl earlier))
  · rw [if_neg above] at lines ⊢
    by_cases low : call.irqNum.toNat ≤ 7
    · rw [if_pos low] at lines ⊢
      rw [writeData_ready followed.masterReady] at lines ⊢
      refine ⟨followed.masterReady, followed.slaveReady, lines, rfl, ?_, ?_⟩
      · intro named
        rcases named_snoc.mp named with earlier | last
        · exact followed.named earlier
        · exact absurd low (names_iff.mp last).2
      · intro unnamed
        exact followed.unnamed fun earlier => unnamed (named_snoc.mpr (Or.inl earlier))
    · rw [if_neg low] at lines ⊢
      rw [writeData_ready followed.slaveReady] at lines ⊢
      refine ⟨followed.masterReady, followed.slaveReady, lines, followed.master,
        fun _ => rfl, ?_⟩
      · intro unnamed
        exact absurd (named_snoc.mpr (Or.inr (names_iff.mpr ⟨above, low⟩))) unnamed

theorem Followed.calls {earlier : List MaskCall} {devices : Devices}
    (followed : Followed earlier devices) (calls : List MaskCall) :
    Followed (earlier ++ calls) (calls.foldl MaskCall.run devices) := by
  induction calls generalizing earlier devices with
  | nil =>
      rw [List.append_nil]
      exact followed
  | cons call calls ih =>
      rw [List.append_cons]
      exact ih (followed.run call)

/-- Behind `i8259_init` and any sequence of calls, the controllers mask the lines asked
for exactly when a call names one of the lines 8 to 15. -/
theorem masksFollow_iff {devices : Devices} (masterMask : devices.masterMask = 0xFF)
    (slaveMask : devices.slaveMask = 0xFF) (calls : List MaskCall) :
    MasksFollow calls (calls.foldl MaskCall.run devices.i8259Init) ↔
      ∃ call ∈ calls, call.NamesSlave := by
  have followed := (Followed.start masterMask slaveMask).calls calls
  rw [List.nil_append] at followed
  generalize calls.foldl MaskCall.run devices.i8259Init = reached at followed ⊢
  constructor
  · intro follows
    by_contra unnamed
    obtain ⟨cleared, copy⟩ := followed.unnamed unnamed
    have same := follows.slave
    rw [cleared, copy] at same
    exact absurd same (by decide)
  · intro named
    have same := followed.named named
    refine ⟨fun line lineLt => ?_, followed.master, same, fun call above => ?_⟩
    · have asked := followed.lines line lineLt
      rw [Masked] at asked
      rw [InForce, followed.master, same]
      exact asked
    · rw [run_eq, if_pos above]

/-- The calls behind `i8259_init` at boot: the clock's line, then the keyboard's. -/
theorem masksFollow_boot :
    MasksFollow [.enableIrq 8, .enableIrq 1]
      ([MaskCall.enableIrq 8, .enableIrq 1].foldl MaskCall.run
        (i8259Init ⟨0xFF, 0xFF, ⟨0, 0, 0⟩, ⟨0, 0, 0⟩, 0, 0, false⟩)) := by
  apply (@masksFollow_iff ⟨0xFF, 0xFF, ⟨0, 0, 0⟩, ⟨0, 0, 0⟩, 0, 0, false⟩ rfl rfl
    [.enableIrq 8, .enableIrq 1]).mpr
  exact ⟨.enableIrq 8, List.mem_cons_self, by decide, by decide⟩

/-- Right behind `i8259_init`, the slave masks none of its lines. -/
theorem i8259Init_leaves_slave :
    let devices := i8259Init ⟨0xFF, 0xFF, ⟨0, 0, 0⟩, ⟨0, 0, 0⟩, 0, 0, false⟩
    ¬MasksFollow [] devices ∧ (∀ line < 16, 8 ≤ line → ¬InForce devices line) ∧
      devices.slaveMask = 0xFF := by
  refine ⟨?_, by decide, rfl⟩
  intro follows
  exact absurd follows.slave (by decide)

end Calls

end ChapOS
