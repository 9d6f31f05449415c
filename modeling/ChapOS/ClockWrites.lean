import ChapOS.ClockFrames

/-!
# Setting the rate of the clock

`rtc_write` masks its interrupt line, decides by a bit trick and two range tests
whether to take the frequency, and unmasks the line only when it does.  The
frequencies it takes are the powers of two up to 1024, for the smallest of which
its switch has no case.
-/

namespace ChapOS

namespace Devices

/-- The frequencies that pass the tests of `rtc_write`. -/
def Accepts (frequency : BitVec 32) : Prop :=
  ∃ k ≤ 10, frequency = BitVec.ofNat 32 (2 ^ k)

/-- The requests that `rtc_write` takes. -/
def Admits (freq : Option (BitVec 32)) (nbytes : Int) : Prop :=
  nbytes = 4 ∧ ∃ frequency, freq = some frequency ∧ Accepts frequency

theorem isPowerOfTwo_iff (frequency : BitVec 32) :
    (frequency ≠ 0 ∧ frequency &&& (frequency - 1) = 0) ↔
      frequency.toNat.isPowerOfTwo := by
  rw [← Nat.ne_zero_and_sub_one_eq_zero_iff_isPowerOfTwo]
  constructor
  · rintro ⟨nonzero, cleared⟩
    have positive : frequency.toNat ≠ 0 := by simpa [← BitVec.toNat_inj] using nonzero
    refine ⟨positive, ?_⟩
    have values := congrArg BitVec.toNat cleared
    rwa [BitVec.toNat_and, BitVec.toNat_sub_of_le (by simp [BitVec.le_def]; omega)]
      at values
  · rintro ⟨positive, cleared⟩
    have nonzero : frequency ≠ 0 := by simpa [← BitVec.toNat_inj] using positive
    refine ⟨nonzero, BitVec.eq_of_toNat_eq ?_⟩
    rwa [BitVec.toNat_and, BitVec.toNat_sub_of_le (by simp [BitVec.le_def]; omega)]

/-- The bit trick lets the powers of two through, and the range tests those that
do not exceed 1024; the sign bit alone is such a power but negative. -/
theorem accepts_iff (frequency : BitVec 32) :
    ((frequency ≠ 0 ∧ frequency &&& (frequency - 1) = 0) ∧
      ¬(1024 < frequency.toInt ∨ frequency.toInt < 0)) ↔ Accepts frequency := by
  rw [isPowerOfTwo_iff]
  constructor
  · rintro ⟨⟨k, power⟩, inRange⟩
    have small : frequency.toNat ≤ 2 ^ 10 := by
      rw [BitVec.toInt_eq_toNat_cond] at inRange
      split at inRange <;> omega
    rw [power] at small
    exact ⟨k, (Nat.pow_le_pow_iff_right (by omega)).mp small,
      BitVec.eq_of_toNat_eq (by rw [← power, BitVec.ofNat_toNat, BitVec.setWidth_eq])⟩
  · rintro ⟨k, kLe, rfl⟩
    have small : 2 ^ k ≤ 2 ^ 10 := Nat.pow_le_pow_right (by omega) kLe
    have value : (BitVec.ofNat 32 (2 ^ k)).toNat = 2 ^ k := by
      rw [BitVec.toNat_ofNat]
      exact Nat.mod_eq_of_lt (by omega)
    refine ⟨⟨k, value⟩, ?_⟩
    rw [BitVec.toInt_eq_toNat_cond, value]
    split <;> omega

section Writes

variable (devices : Devices) (rate : Nat) {freq : Option (BitVec 32)} {nbytes : Int}

theorem rtcWrite_of_accepts {frequency : BitVec 32} (accepts : Accepts frequency) :
    devices.rtcWrite rate (some frequency) 4 =
      (enableIrq
        { devices.disableIrq rtcIrq with
          rtcRegA := (devices.rtcRegA &&& 0xF0) |||
            (UInt8.ofNat (rtcRate rate frequency) &&& 0x0F) } rtcIrq, 4) := by
  obtain ⟨isPower, inRange⟩ := (accepts_iff frequency).mpr accepts
  rw [rtcWrite, if_neg (by decide), disableIrq_rtcRegA]
  dsimp only
  rw [if_neg (not_not.mpr isPower), if_neg inRange]

theorem rtcWrite_of_rejects (rejects : ¬Admits freq nbytes) :
    devices.rtcWrite rate freq nbytes = (devices.disableIrq rtcIrq, -1) := by
  unfold rtcWrite
  by_cases wrongSize : nbytes ≠ 4
  · rw [if_pos wrongSize]
  · rw [if_neg wrongSize]
    cases freq with
    | none => rfl
    | some frequency =>
        dsimp only
        split
        · rfl
        split
        · rfl
        · rename_i isPower inRange
          exact absurd ⟨not_not.mp wrongSize, frequency, rfl,
            (accepts_iff frequency).mp ⟨not_not.mp isPower, inRange⟩⟩ rejects

end Writes

/-- A frequency the clock produces from a divider between 6 and 15. -/
def Producible (frequency : BitVec 32) : Prop :=
  ∃ divider, 6 ≤ divider ∧ divider ≤ 15 ∧ frequency.toNat = 32768 >>> (divider - 1)

theorem shiftRight_divider {divider : Nat} (low : 6 ≤ divider) (high : divider ≤ 15) :
    32768 >>> (divider - 1) = 2 ^ (16 - divider) := by
  rw [Nat.shiftRight_eq_div_pow]
  calc 32768 / 2 ^ (divider - 1) = 2 ^ 15 / 2 ^ (divider - 1) := rfl
    _ = 2 ^ (15 - (divider - 1)) := Nat.pow_div (by omega) (by omega)
    _ = 2 ^ (16 - divider) := by congr 1; omega

/-- Only for the frequency 1 is there no divider. -/
theorem producible_iff (frequency : BitVec 32) :
    Producible frequency ↔ Accepts frequency ∧ frequency ≠ 1 := by
  constructor
  · rintro ⟨divider, low, high, value⟩
    rw [shiftRight_divider low high] at value
    refine ⟨⟨16 - divider, by omega, ?_⟩, fun isOne => ?_⟩
    · rw [← value, BitVec.ofNat_toNat, BitVec.setWidth_eq]
    · rw [isOne] at value
      have positive := Nat.one_lt_two_pow (show 16 - divider ≠ 0 by omega)
      exact absurd value (Nat.ne_of_lt positive)
  · rintro ⟨⟨k, kLe, rfl⟩, notOne⟩
    have positive : k ≠ 0 := by
      rintro rfl
      exact notOne rfl
    have small : 2 ^ k ≤ 2 ^ 10 := Nat.pow_le_pow_right (by omega) kLe
    refine ⟨16 - k, by omega, by omega, ?_⟩
    rw [shiftRight_divider (by omega) (by omega), Nat.sub_sub_self (by omega),
      BitVec.toNat_ofNat, Nat.mod_eq_of_lt (by omega)]

/-- The switch of `rtc_write` has the divider of every producible frequency. -/
theorem rtcRate_of_producible (rate : Nat) {frequency : BitVec 32}
    (producible : Producible frequency) :
    6 ≤ rtcRate rate frequency ∧ rtcRate rate frequency ≤ 15 ∧
      32768 >>> (rtcRate rate frequency - 1) = frequency.toNat := by
  obtain ⟨divider, low, high, value⟩ := producible
  have found : rtcRate rate frequency = divider := by
    have known : frequency = BitVec.ofNat 32 (32768 >>> (divider - 1)) := by
      rw [← value, BitVec.ofNat_toNat, BitVec.setWidth_eq]
    rw [known]
    obtain rfl | rfl | rfl | rfl | rfl | rfl | rfl | rfl | rfl | rfl :
      divider = 6 ∨ divider = 7 ∨ divider = 8 ∨ divider = 9 ∨ divider = 10 ∨
        divider = 11 ∨ divider = 12 ∨ divider = 13 ∨ divider = 14 ∨ divider = 15 := by
      omega
    all_goals rfl
  rw [found]
  exact ⟨low, high, value.symm⟩

/-- What a request of four bytes should do: set the clock to the frequency if a
divider produces it, and refuse the request otherwise. -/
structure ProgramsRate (devices : Devices) (rate : Nat) (frequency : BitVec 32) :
    Prop where
  accepted : (devices.rtcWrite rate (some frequency) 4).2 = 4 ↔ Producible frequency
  divider : Producible frequency →
    let low := (devices.rtcWrite rate (some frequency) 4).1.rtcRegA &&& 0x0F
    6 ≤ low.toNat ∧ low.toNat ≤ 15 ∧ 32768 >>> (low.toNat - 1) = frequency.toNat
  upper : (devices.rtcWrite rate (some frequency) 4).1.rtcRegA &&& 0xF0 =
    devices.rtcRegA &&& 0xF0
  refused : ¬Producible frequency →
    (devices.rtcWrite rate (some frequency) 4).2 = -1

theorem low_of_or (regA : UInt8) {divider : Nat} (high : divider ≤ 15) :
    ((regA &&& 0xF0 ||| UInt8.ofNat divider &&& 0x0F) &&& 0x0F).toNat = divider := by
  have disjoint : (0xF0 : BitVec 8) &&& 0x0F = 0 := by decide
  have kept : (regA &&& 0xF0 ||| UInt8.ofNat divider &&& 0x0F) &&& 0x0F =
      UInt8.ofNat divider &&& 0x0F := by
    apply UInt8.eq_of_toBitVec_eq
    show (regA.toBitVec &&& 0xF0 ||| (UInt8.ofNat divider).toBitVec &&& 0x0F) &&& 0x0F =
      (UInt8.ofNat divider).toBitVec &&& 0x0F
    rw [BitVec.and_or_distrib_right, BitVec.and_assoc, BitVec.and_assoc, disjoint,
      BitVec.and_self]
    simp
  rw [kept, UInt8.toNat_and]
  show (UInt8.ofNat divider).toNat &&& (2 ^ 4 - 1) = divider
  rw [Nat.and_two_pow_sub_one_eq_mod, UInt8.toNat_ofNat']
  omega

/-- `rtc_write` programs the rate or refuses it, except for the frequency 1: the
request is taken, but its divider is whatever the local `rate` held. -/
theorem rtcWrite_programs_iff (devices : Devices) (rate : Nat) (frequency : BitVec 32) :
    ProgramsRate devices rate frequency ↔ frequency ≠ 1 := by
  constructor
  · rintro law rfl
    have accepts : Accepts 1 := ⟨0, by omega, rfl⟩
    have taken : (devices.rtcWrite rate (some 1) 4).2 = 4 := by
      rw [devices.rtcWrite_of_accepts rate accepts]
    exact ((producible_iff 1).mp (law.accepted.mp taken)).2 rfl
  · intro notOne
    by_cases producible : Producible frequency
    · have accepts := ((producible_iff frequency).mp producible).1
      have written := devices.rtcWrite_of_accepts rate accepts
      obtain ⟨low, high, value⟩ := rtcRate_of_producible rate producible
      exact
        { accepted := ⟨fun _ => producible, fun _ => by rw [written]⟩
          divider := fun _ => by
            rw [written, enableIrq_rtcRegA]
            dsimp only
            rw [low_of_or _ high]
            exact ⟨low, high, value⟩
          upper := rtcWrite_upper _ _ _ _
          refused := fun not => absurd producible not }
    · have rejects : ¬Admits (some frequency) 4 := by
        rintro ⟨-, same, written, accepts⟩
        obtain rfl := Option.some.inj written
        exact producible ((producible_iff frequency).mpr ⟨accepts, notOne⟩)
      have refused := devices.rtcWrite_of_rejects rate rejects
      have notFour : ¬(-1 : Int) = 4 := by decide
      exact
        { accepted := by
            rw [refused]
            exact ⟨fun same => absurd same notFour, fun now => absurd now producible⟩
          divider := fun now => absurd now producible
          upper := rtcWrite_upper _ _ _ _
          refused := fun _ => by rw [refused] }

/-- The devices after `i8259_init` and `rtc_init`, with the clock's line
unmasked. -/
def started : Devices :=
  Kernel.loaded.devices.i8259Init.rtcInit

/-- A rate of 1 Hz is taken, and the divider becomes the old content of `rate`. -/
theorem rtcWrite_one_hertz :
    ¬(∀ (devices : Devices) (rate : Nat) (frequency : BitVec 32),
        ProgramsRate devices rate frequency) ∧
      (started.rtcWrite 3 (some 1) 4).2 = 4 ∧
      (started.rtcWrite 3 (some 1) 4).1.rtcRegA = 0x23 := by
  refine ⟨fun law => ?_, by decide, by decide⟩
  have taken := (law started 3 1).accepted.mp (by decide)
  obtain ⟨divider, low, high, value⟩ := taken
  rw [shiftRight_divider low high] at value
  have positive := Nat.one_lt_two_pow (show 16 - divider ≠ 0 by omega)
  exact absurd value (Nat.ne_of_lt positive)

/-- `irq` is masked in `master_mask` or `slave_mask`. -/
def Masked (devices : Devices) (irq : Nat) : Prop :=
  (if irq < 8 then devices.masterMask.toBitVec.getLsbD irq
    else devices.slaveMask.toBitVec.getLsbD (irq - 8)) = true

instance (devices : Devices) (irq : Nat) : Decidable (Masked devices irq) :=
  inferInstanceAs (Decidable (_ = true))

/-- What a request should do to the interrupt lines: nothing if it is rejected, and
unmask the clock's own if it is taken. -/
structure MasksSafely (devices : Devices) (rate : Nat) (freq : Option (BitVec 32))
    (nbytes : Int) : Prop where
  rejected : (devices.rtcWrite rate freq nbytes).2 = -1 →
    let after := (devices.rtcWrite rate freq nbytes).1
    after.masterMask = devices.masterMask ∧ after.slaveMask = devices.slaveMask ∧
      after.master = devices.master ∧ after.slave = devices.slave ∧
      after.rtcRegA = devices.rtcRegA
  unmasked : (devices.rtcWrite rate freq nbytes).2 ≠ -1 →
    ¬Masked (devices.rtcWrite rate freq nbytes).1 rtcIrq ∧
      (devices.slave.icwExpected = 0 →
        (devices.rtcWrite rate freq nbytes).1.slave.mask =
          (devices.rtcWrite rate freq nbytes).1.slaveMask)
  others : (devices.rtcWrite rate freq nbytes).2 ≠ -1 →
    (devices.rtcWrite rate freq nbytes).1.master = devices.master ∧
      ∀ irq < 16, irq ≠ rtcIrq →
        (Masked (devices.rtcWrite rate freq nbytes).1 irq ↔ Masked devices irq)

/-- The clock's line is masked already, both in `slave_mask` and in the controller. -/
def ClockMasked (devices : Devices) : Prop :=
  Masked devices rtcIrq ∧ devices.slave.icwExpected = 0 ∧
    devices.slave.mask = devices.slaveMask

theorem disableIrq_clock (devices : Devices) :
    devices.disableIrq rtcIrq =
      { devices with
        slaveMask := devices.slaveMask ||| 1
        slave := devices.slave.writeData (devices.slaveMask ||| 1) } :=
  rfl

theorem enableIrq_clock (devices : Devices) :
    devices.enableIrq rtcIrq =
      { devices with
        slaveMask := devices.slaveMask &&& 0xFE
        slave := devices.slave.writeData (devices.slaveMask &&& 0xFE) } :=
  rfl

theorem masked_clock_iff (devices : Devices) :
    Masked devices rtcIrq ↔ devices.slaveMask ||| 1 = devices.slaveMask := by
  rw [← UInt8.toBitVec_inj]
  show devices.slaveMask.toBitVec.getLsbD 0 = true ↔
    devices.slaveMask.toBitVec ||| 1 = devices.slaveMask.toBitVec
  generalize devices.slaveMask.toBitVec = mask
  revert mask
  decide

/-- Masking the clock's line changes nothing only where it was masked already. -/
theorem disableIrq_clock_iff (devices : Devices) :
    (devices.disableIrq rtcIrq).slaveMask = devices.slaveMask ∧
        (devices.disableIrq rtcIrq).slave = devices.slave ↔
      ClockMasked devices := by
  rw [disableIrq_clock, ClockMasked, masked_clock_iff]
  dsimp only
  constructor
  · rintro ⟨masked, sent⟩
    rw [masked, Pic.writeData] at sent
    refine ⟨masked, ?_⟩
    split at sent
    · rename_i ready
      exact ⟨ready, (congrArg Pic.mask sent).symm⟩
    · have counted := congrArg Pic.icwExpected sent
      dsimp only at counted
      omega
  · rintro ⟨masked, ready, sent⟩
    rw [masked, Pic.writeData, if_pos ready, ← sent]
    exact ⟨rfl, rfl⟩

/-- The mask a request that is taken leaves. -/
theorem unmasked_lines (mask : BitVec 8) :
    ((mask ||| 1) &&& 0xFE).getLsbD 0 = false ∧
      ∀ line < 8, line ≠ 0 → ((mask ||| 1) &&& 0xFE).getLsbD line = mask.getLsbD line := by
  revert mask
  decide +kernel

/-- A request that is taken leaves the clock's line unmasked and the others as they
were. -/
theorem masksSafely_of_admits (devices : Devices) (rate : Nat)
    {freq : Option (BitVec 32)} {nbytes : Int} (admits : Admits freq nbytes) :
    MasksSafely devices rate freq nbytes := by
  obtain ⟨rfl, frequency, rfl, accepts⟩ := admits
  have written := devices.rtcWrite_of_accepts rate accepts
  have lines := unmasked_lines devices.slaveMask.toBitVec
  have notRejected : ¬(4 : Int) = -1 := by decide
  rw [disableIrq_clock, enableIrq_clock] at written
  constructor
  · intro rejected
    rw [written] at rejected
    exact absurd rejected notRejected
  · intro _
    rw [written]
    refine ⟨?_, fun ready => ?_⟩
    · show ¬((devices.slaveMask.toBitVec ||| 1) &&& 0xFE).getLsbD 0 = true
      rw [lines.1]
      exact Bool.false_ne_true
    · dsimp only
      rw [Pic.writeData, Pic.writeData, if_pos ready, if_pos ready]
  · intro _
    rw [written]
    refine ⟨rfl, fun irq irqLt other => ?_⟩
    unfold Masked
    split
    · exact Iff.rfl
    · have same := lines.2 (irq - 8) (by omega) (by simp only [rtcIrq] at other; omega)
      show ((devices.slaveMask.toBitVec ||| 1) &&& 0xFE).getLsbD (irq - 8) = true ↔ _
      rw [same]

/-- `rtc_write` masks the clock's line before it looks at the request, and does not
unmask it when it rejects. -/
theorem rtcWrite_masksSafely_iff (devices : Devices) (rate : Nat)
    (freq : Option (BitVec 32)) (nbytes : Int) :
    MasksSafely devices rate freq nbytes ↔
      Admits freq nbytes ∨ ClockMasked devices := by
  constructor
  · intro law
    by_cases admits : Admits freq nbytes
    · exact Or.inl admits
    · have rejected := devices.rtcWrite_of_rejects rate admits
      obtain ⟨-, slaveMask, -, slave, -⟩ := law.rejected (by rw [rejected])
      rw [rejected] at slaveMask slave
      exact Or.inr ((disableIrq_clock_iff devices).mp ⟨slaveMask, slave⟩)
  · rintro (admits | masked)
    · exact masksSafely_of_admits devices rate admits
    · by_cases admits : Admits freq nbytes
      · exact masksSafely_of_admits devices rate admits
      · have rejected := devices.rtcWrite_of_rejects rate admits
        obtain ⟨slaveMask, slave⟩ := (disableIrq_clock_iff devices).mpr masked
        constructor
        · intro _
          rw [rejected]
          exact ⟨rfl, slaveMask, rfl, slave, rfl⟩
        · intro taken
          rw [rejected] at taken
          exact absurd rfl taken
        · intro taken
          rw [rejected] at taken
          exact absurd rfl taken

/-- After the NULL write the clock's line, unmasked before, stays masked, so no
interrupt of the clock arrives that could end a wait in `rtc_read`. -/
theorem rtcWrite_null_masks :
    ¬(∀ (devices : Devices) (rate : Nat) (freq : Option (BitVec 32)) (nbytes : Int),
        MasksSafely devices rate freq nbytes) ∧
      ¬Masked started rtcIrq ∧ (started.rtcWrite 0 none 4).2 = -1 ∧
      Masked (started.rtcWrite 0 none 4).1 rtcIrq ∧
      (started.rtcWrite 0 none 4).1.slave.mask = 0xFF := by
  refine ⟨fun law => ?_, by decide, rfl, by decide, by decide⟩
  have slaveMask := ((law started 0 none 4).rejected rfl).2.1
  exact absurd slaveMask (by decide)

end Devices

end ChapOS
