import Mathlib.Tactic.Basic

/-!
# The interrupt controllers and the clock

`i8259.c` and `rtc.c` over the state of the two 8259A controllers and of the
CMOS registers of the real-time clock.
-/

namespace ChapOS

@[simp] abbrev icw1 : UInt8 := 0x11
@[simp] abbrev icw2Master : UInt8 := 0x20
@[simp] abbrev icw2Slave : UInt8 := 0x28
@[simp] abbrev icw3Master : UInt8 := 0x04
@[simp] abbrev icw3Slave : UInt8 := 0x02
@[simp] abbrev icw4 : UInt8 := 0x01
@[simp] abbrev eoi : UInt8 := 0x60
@[simp] abbrev slaveIrq : Nat := 2
@[simp] abbrev keyboardIrq : Nat := 1
@[simp] abbrev rtcIrq : Nat := 8
@[simp] abbrev pitIrq : Nat := 0

/-- One 8259A: the mask in force, the initialisation bytes still expected at
the data port, and the last byte written to the command port. -/
structure Pic where
  mask : UInt8
  icwExpected : Nat
  command : UInt8
  deriving DecidableEq, Repr

namespace Pic

/-- A write to the command port; ICW1 clears the mask and starts the
initialisation sequence. -/
def writeCommand (pic : Pic) (byte : UInt8) : Pic :=
  if byte = icw1 then { mask := 0, icwExpected := 3, command := byte }
  else { pic with command := byte }

/-- A write to the data port. -/
def writeData (pic : Pic) (byte : UInt8) : Pic :=
  if pic.icwExpected = 0 then { pic with mask := byte }
  else { pic with icwExpected := pic.icwExpected - 1 }

end Pic

/-- `master_mask` and `slave_mask`, the two controllers, registers A and B of
the clock, and `rtc_interrupt_occurred`. -/
structure Devices where
  masterMask : UInt8
  slaveMask : UInt8
  master : Pic
  slave : Pic
  rtcRegA : UInt8
  rtcRegB : UInt8
  rtcInterruptOccurred : Bool
  deriving DecidableEq, Repr

namespace Devices

/-- `single_bit_mask << offset`. -/
def singleBitMask (offset : Nat) : UInt8 :=
  1 <<< UInt8.ofNat offset

/-- `enable_irq`. -/
def enableIrq (devices : Devices) (irqNum : Nat) : Devices :=
  if 15 < irqNum then devices
  else if irqNum ≤ 7 then
    let mask := devices.masterMask &&& ~~~(singleBitMask irqNum)
    { devices with masterMask := mask, master := devices.master.writeData mask }
  else
    let mask := devices.slaveMask &&& ~~~(singleBitMask (irqNum - 8))
    { devices with slaveMask := mask, slave := devices.slave.writeData mask }

/-- `disable_irq`. -/
def disableIrq (devices : Devices) (irqNum : Nat) : Devices :=
  if 15 < irqNum then devices
  else if irqNum ≤ 7 then
    let mask := devices.masterMask ||| singleBitMask irqNum
    { devices with masterMask := mask, master := devices.master.writeData mask }
  else
    let mask := devices.slaveMask ||| singleBitMask (irqNum - 8)
    { devices with slaveMask := mask, slave := devices.slave.writeData mask }

/-- `send_eoi`. -/
def sendEoi (devices : Devices) (irqNum : Nat) : Devices :=
  if 15 < irqNum then devices
  else if irqNum ≤ 7 then
    { devices with
      master := devices.master.writeCommand (UInt8.ofNat irqNum ||| eoi) }
  else
    { devices with
      slave := devices.slave.writeCommand (eoi ||| UInt8.ofNat (irqNum - 8))
      master := devices.master.writeCommand (eoi + UInt8.ofNat slaveIrq) }

/-- `i8259_init`. -/
def i8259Init (devices : Devices) : Devices :=
  enableIrq
    { devices with
      master :=
        (((devices.master.writeCommand icw1).writeData icw2Master).writeData
          icw3Master).writeData icw4
      slave :=
        (((devices.slave.writeCommand icw1).writeData icw2Slave).writeData
          icw3Slave).writeData icw4 }
    slaveIrq

/-- `rtc_init`. -/
def rtcInit (devices : Devices) : Devices :=
  enableIrq
    { devices with
      rtcRegA := (devices.rtcRegA &&& 0x80) ||| 0x2F
      rtcRegB := devices.rtcRegB ||| 0x40 }
    rtcIrq

/-- The switch of `rtc_write`; a frequency without a case leaves the local
`rate` as it is. -/
def rtcRate (rate : Nat) (frequency : BitVec 32) : Nat :=
  if frequency = 1024 then 6
  else if frequency = 512 then 7
  else if frequency = 256 then 8
  else if frequency = 128 then 9
  else if frequency = 64 then 10
  else if frequency = 32 then 11
  else if frequency = 16 then 12
  else if frequency = 8 then 13
  else if frequency = 4 then 14
  else if frequency = 2 then 15
  else rate

/-- `rtc_write`.  `rate` is the content of the uninitialised local, and `freq`
is `none` for a NULL pointer. -/
def rtcWrite (devices : Devices) (rate : Nat) (freq : Option (BitVec 32))
    (nbytes : Int) : Devices × Int :=
  let masked := devices.disableIrq rtcIrq
  if nbytes ≠ 4 then (masked, -1)
  else
    match freq with
    | none => (masked, -1)
    | some frequency =>
        if ¬(frequency ≠ 0 ∧ frequency &&& (frequency - 1) = 0) then (masked, -1)
        else if 1024 < frequency.toInt ∨ frequency.toInt < 0 then (masked, -1)
        else
          let low := UInt8.ofNat (rtcRate rate frequency) &&& 0x0F
          (enableIrq
            { masked with rtcRegA := (masked.rtcRegA &&& 0xF0) ||| low } rtcIrq,
            nbytes)

/-- `rtc_open`. -/
def rtcOpen (devices : Devices) : Devices × Int :=
  ((devices.rtcWrite 0 (some 2) 4).1, 0)

/-- `rtc_close`. -/
def rtcClose (devices : Devices) : Devices × Int :=
  ((devices.rtcWrite 0 (some 2) 4).1, 0)

/-- `rtc_read` when it comes back: it has cleared the flag, and the interrupt that it
spins for has set it.  The loop itself is `Kernel.rtcRead`. -/
def rtcRead (devices : Devices) : Devices × Int :=
  ({ devices with rtcInterruptOccurred := true }, 0)

/-- `rtc_irq_handler`. -/
def rtcIrqHandler (devices : Devices) : Devices :=
  let masked := devices.disableIrq rtcIrq
  (sendEoi { masked with rtcInterruptOccurred := true } rtcIrq).enableIrq rtcIrq

/-- `open_keyboard`, without the reset of the line buffer. -/
def openKeyboard (devices : Devices) : Devices :=
  devices.enableIrq keyboardIrq

/-- `close_keyboard`. -/
def closeKeyboard (devices : Devices) : Devices × Int :=
  (devices.disableIrq keyboardIrq, 0)

theorem enableIrq_rtcRegA (devices : Devices) (irqNum : Nat) :
    (devices.enableIrq irqNum).rtcRegA = devices.rtcRegA := by
  unfold enableIrq
  split
  · rfl
  split <;> rfl

theorem disableIrq_rtcRegA (devices : Devices) (irqNum : Nat) :
    (devices.disableIrq irqNum).rtcRegA = devices.rtcRegA := by
  unfold disableIrq
  split
  · rfl
  split <;> rfl

theorem sendEoi_rtcRegA (devices : Devices) (irqNum : Nat) :
    (devices.sendEoi irqNum).rtcRegA = devices.rtcRegA := by
  unfold sendEoi
  split
  · rfl
  split <;> rfl

theorem rtcIrqHandler_rtcRegA (devices : Devices) :
    devices.rtcIrqHandler.rtcRegA = devices.rtcRegA := by
  rw [rtcIrqHandler, enableIrq_rtcRegA, sendEoi_rtcRegA]
  exact disableIrq_rtcRegA devices rtcIrq

end Devices

end ChapOS
