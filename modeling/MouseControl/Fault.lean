import MouseControl.Crash
import MouseControl.Limits
import MouseControl.Text.Letter
import MouseControl.Text.Numeral

/-! Errors as causes, their wording, and the chain of causes behind each. -/
namespace MouseControl
open Text

inductive LinkError where
  | hid (text : String)
  | deviceNotFound (text : String)
  | permissionDenied (text : String)
  | timeout (text : String)
deriving DecidableEq, Repr

namespace LinkError

def text : LinkError → String
  | hid text | deviceNotFound text | permissionDenied text | timeout text => text

def message : LinkError → String
  | hid text => s!"HID error: {text}"
  | deviceNotFound text => s!"device not found: {text}"
  | permissionDenied text => s!"permission denied: {text}"
  | timeout text => s!"timeout: {text}"

/-- Sorts a failure of which only the words are known: a refusal of access says so, in letters of
either case. -/
def ofText (text : String) : LinkError :=
  let folded := foldCase text.toList
  if holds "permission denied".toList folded || holds "access is denied".toList folded then
    permissionDenied text
  else hid text

end LinkError

inductive FileError where
  | notFound
  | notDirectory
  | isDirectory
  | nameTooLong
  | invalidUtf8
deriving DecidableEq, Repr

def FileError.message : FileError → String
  | .notFound => "No such file or directory (os error 2)"
  | .notDirectory => "Not a directory (os error 20)"
  | .isDirectory => "Is a directory (os error 21)"
  | .nameTooLong => "File name too long (os error 36)"
  | .invalidUtf8 => "stream did not contain valid UTF-8"

inductive ProfileField where
  | dpi
  | pollingRate
  | liftOff
deriving DecidableEq, Repr

def ProfileField.name : ProfileField → String
  | .dpi => "dpi"
  | .pollingRate => "polling_rate_hz"
  | .liftOff => "lift_off_distance"

inductive ProfileFault where
  | malformed
  | missing (field : ProfileField)
  | duplicate (field : ProfileField)
  | unreadable (path : String) (reason : FileError)
deriving DecidableEq, Repr

def ProfileFault.message : ProfileFault → String
  | .malformed => "malformed JSON"
  | .missing field => s!"missing field `{field.name}`"
  | .duplicate field => s!"duplicate field `{field.name}`"
  | .unreadable path reason => s!"{path}: {reason.message}"

inductive Operation where
  | save
  | flashVerify
deriving DecidableEq, Repr

def Operation.name : Operation → String
  | .save => "save"
  | .flashVerify => "flash verify"

inductive Error where
  | invalidPayloadOffset (offset : Nat)
  | payloadTooLarge (offset length : Nat)
  | responseTooShort (length : Nat)
  | unexpectedReportId (actual : UInt8)
  | transportFailed (opcode : UInt8) (cause : LinkError)
  | invalidBacklightLevel (level : UInt8)
  | invalidCoreSlot (slot : UInt8)
  | invalidDpiStepAction (code : UInt8)
  | invalidFlashCount (count : UInt8)
  | invalidFlashPayloadLength (length unit : Nat)
  | invalidTableLength (length : Nat)
  | flashVerifyMismatch (address expected actual : UInt16)
  | sequenceFailed (operation : Operation) (step total : Nat) (cause : Error)
  | unsupportedSaveStrategy (code : UInt8)
  | unsupportedDevice (vendorId productId : UInt16)
  | invalidDpi (dpi : UInt32)
  | invalidPollingRate (hz : UInt32)
  | invalidLiftOff (distance : UInt32)
  | profile (fault : ProfileFault)
deriving DecidableEq, Repr

namespace Error

private def rateList : String :=
  ", ".intercalate (pollingRates.map fun rate => decimal rate.toNat)

def message : Error → String
  | invalidPayloadOffset offset =>
    s!"invalid payload offset {decimal offset} (payload region is {decimal regionLength} bytes)"
  | payloadTooLarge offset length =>
    s!"payload too large: {decimal length} bytes at offset {decimal offset} " ++
      s!"(payload region is {decimal regionLength} bytes)"
  | responseTooShort length =>
    s!"response too short: {decimal length} bytes (minimum {decimal packetLength})"
  | unexpectedReportId actual =>
    s!"unexpected report ID in response: 0x{upperHex 2 actual.toNat} " ++
      s!"(expected 0x{upperHex 2 reportId.toNat})"
  | transportFailed opcode _ =>
    s!"transport failed during opcode 0x{upperHex 2 opcode.toNat} exchange"
  | invalidBacklightLevel level =>
    s!"invalid backlight level {decimal level.toNat} (allowed 0..={decimal backlightMax.toNat})"
  | invalidCoreSlot slot =>
    s!"invalid core slot {decimal slot.toNat} (allowed 0..={decimal coreSlotMax.toNat})"
  | invalidDpiStepAction code => s!"invalid DPI step action code {decimal code.toNat}"
  | invalidFlashCount count =>
    s!"invalid flash dword count {decimal count.toNat} (allowed 1..={decimal dwordCountMax.toNat})"
  | invalidFlashPayloadLength length unit =>
    s!"invalid flash payload length {decimal length} " ++
      s!"(must be a non-zero multiple of {decimal unit})"
  | invalidTableLength length =>
    s!"invalid adjust-gun table length {decimal length} bytes (expected {decimal tableLength})"
  | flashVerifyMismatch address expected actual =>
    s!"flash verify mismatch at word 0x{upperHex 4 address.toNat}: " ++
      s!"wrote 0x{upperHex 4 expected.toNat}, read 0x{upperHex 4 actual.toNat}"
  | sequenceFailed operation step total _ =>
    s!"{operation.name} failed at step {decimal step} of {decimal total}"
  | unsupportedSaveStrategy code => s!"unsupported save strategy code {decimal code.toNat}"
  | unsupportedDevice vendorId productId =>
    s!"unsupported device VID=0x{upperHex 4 vendorId.toNat} PID=0x{upperHex 4 productId.toNat}"
  | invalidDpi dpi =>
    s!"invalid DPI {decimal dpi.toNat} " ++
      s!"(allowed {decimal dpiMin.toNat}..={decimal dpiMax.toNat})"
  | invalidPollingRate hz => s!"invalid polling rate {decimal hz.toNat} Hz (allowed [{rateList}])"
  | invalidLiftOff distance =>
    s!"invalid lift-off distance {decimal distance.toNat} " ++
      s!"(allowed {decimal liftOffMin.toNat}..={decimal liftOffMax.toNat})"
  | profile fault => s!"profile error: {fault.message}"

/-- Whether a request was turned down before the device was touched. -/
def isRejection : Error → Bool
  | invalidPayloadOffset _ | payloadTooLarge .. | invalidBacklightLevel _ | invalidCoreSlot _
  | invalidDpiStepAction _ | invalidFlashCount _ | invalidFlashPayloadLength .. | invalidTableLength _
  | unsupportedSaveStrategy _ | unsupportedDevice .. | invalidDpi _ | invalidPollingRate _
  | invalidLiftOff _ => true
  | responseTooShort _ | unexpectedReportId _ | transportFailed .. | flashVerifyMismatch ..
  | sequenceFailed .. | profile _ => false

def isSequenceFailure : Error → Bool
  | sequenceFailed .. => true
  | _ => false

end Error

inductive Cause where
  | error (cause : Error)
  | linkError (cause : LinkError)
deriving DecidableEq, Repr

def Cause.message : Cause → String
  | .error cause => cause.message
  | .linkError cause => cause.message

def Error.causes : Error → List Cause
  | .transportFailed _ cause => [.linkError cause]
  | .sequenceFailed _ _ _ cause => .error cause :: cause.causes
  | _ => []

inductive Halt where
  | failed (error : Error)
  | crashed (crash : Crash)
deriving DecidableEq, Repr

end MouseControl
