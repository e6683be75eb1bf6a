import MouseControl.Device
import MouseControl.Text.HexBytes

/-! How a command fails, what it reports and the status it leaves. -/
namespace MouseControl.Cli
open Text

inductive Failure where
  | failed (error : Error)
  | crashed (crash : Crash)
  | discovery (error : LinkError)
  | noDevice (serial : Option String)
  | starting (text : String)
  | opening (device : Device) (error : LinkError)
  | tableFile (path : String) (error : FileError)
  | hexText (error : HexError)
  | unknownStrategy (name : String)
  | unknownStep (name : String)
deriving DecidableEq, Repr

namespace Failure

def ofHalt : Halt → Failure
  | .failed error => failed error
  | .crashed crash => crashed crash

def ofHexHalt : HexHalt → Failure
  | .refused error => hexText error
  | .crashed crash => crashed crash

def message : Failure → String
  | failed error => error.message
  | crashed _ => ""
  | discovery error => error.message
  | noDevice (some serial) => s!"No supported Bloody mouse with serial '{serial}' found"
  | noDevice none => "No supported Bloody mouse found"
  | starting _ => "hidapi init"
  | opening device _ =>
    s!"open HID device (VID=0x{upperHex 4 device.vendorId.toNat} " ++
      s!"PID=0x{upperHex 4 device.productId.toNat})"
  | tableFile path _ => s!"read adjust-gun table {path}"
  | hexText error => error.message
  | unknownStrategy name =>
    s!"Unknown save strategy '{name}'. Valid strategies: quick, v1, v2, v3, v4, major-sync"
  | unknownStep name => s!"Unknown DPI step '{name}'. Valid steps: down, up, cycle"

def causes : Failure → List String
  | failed error => error.causes.map Cause.message
  | starting text => [text]
  | opening _ error => [error.message]
  | tableFile _ error => [error.message]
  | crashed _ | discovery _ | noDevice _ | hexText _ | unknownStrategy _ | unknownStep _ => []

def indented (indent text : String) : String :=
  ("\n" ++ indent).intercalate (text.splitOn "\n")

/-- The lines of the causes. A single cause has no number. -/
def causeLines : List String → List String
  | [text] => ["    " ++ indented "    " text]
  | texts =>
    texts.zipIdx.map fun (text, n) =>
      let number := decimal n
      String.ofList (List.replicate (5 - number.length) ' ') ++ number ++ ": " ++
        indented "       " text

/-- What is written about a failure. A profile whose text cannot be read is only named, and a crash
is not reported here. -/
def report (failure : Failure) : String :=
  match failure with
  | crashed _ => ""
  | failed (.profile .malformed) | failed (.profile (.missing _))
  | failed (.profile (.duplicate _)) => "Error: profile error"
  | failure =>
    let causes := match failure.causes with
      | [] => ""
      | texts => "\n\nCaused by:\n" ++ "\n".intercalate (causeLines texts)
    s!"Error: {failure.message}{causes}\n"

/-- Whether an error in the chain of causes is a request turned down before the device was touched. -/
def isRejection : Failure → Bool
  | failed error =>
    error.isRejection || error.causes.any fun
      | .error cause => cause.isRejection
      | .linkError _ => false
  | _ => false

/-- The status of the program: 2 for a rejected request, 101 for a crash, else 1. -/
def exit (failure : Failure) : UInt8 :=
  match failure with
  | crashed _ => 101
  | failure => if failure.isRejection then 2 else 1

end Failure

end MouseControl.Cli
