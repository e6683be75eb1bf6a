import MouseControl.Fault
import MouseControl.Profile.Basic

/-! Checks of a request's numbers. Each runs before the first call of its operation, so that a
request out of range never reaches the device. -/
namespace MouseControl

def checkBacklight (level : UInt8) : Except Error UInt8 :=
  if level ≤ backlightMax then .ok level else .error (.invalidBacklightLevel level)

def checkCoreSlot (slot : UInt8) : Except Error UInt8 :=
  if slot ≤ coreSlotMax then .ok slot else .error (.invalidCoreSlot slot)

def checkDwordCount (count : UInt8) : Except Error UInt8 :=
  if count = 0 ∨ dwordCountMax < count then .error (.invalidFlashCount count) else .ok count

/-- The number of cells in flash data, which is not empty and has no part of a cell. A cell of no
bytes is a crash. -/
def checkPayloadLength (length unit : Nat) : Except Halt Nat :=
  if length = 0 then .error (.failed (.invalidFlashPayloadLength length unit))
  else if unit = 0 then .error (.crashed .zeroDivisor)
  else if length % unit ≠ 0 then .error (.failed (.invalidFlashPayloadLength length unit))
  else .ok (length / unit)

def checkTableLength (length : Nat) : Except Error Unit :=
  if length = tableLength then .ok () else .error (.invalidTableLength length)

def checkDpi (dpi : UInt32) : Except Error UInt32 :=
  if dpiMin ≤ dpi ∧ dpi ≤ dpiMax then .ok dpi else .error (.invalidDpi dpi)

def checkPollingRate (hz : UInt32) : Except Error UInt32 :=
  if hz ∈ pollingRates then .ok hz else .error (.invalidPollingRate hz)

def checkLiftOff (distance : UInt32) : Except Error UInt32 :=
  if liftOffMin ≤ distance ∧ distance ≤ liftOffMax then .ok distance
  else .error (.invalidLiftOff distance)

def checkProfile (profile : Profile) : Except Error Unit := do
  let _ ← checkDpi profile.dpi
  let _ ← checkPollingRate profile.pollingRate
  let _ ← checkLiftOff profile.liftOff

end MouseControl
