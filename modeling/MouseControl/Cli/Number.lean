import MouseControl.Text.Numeral

/-! Numbers on the command line: decimal, or hexadecimal after a mark, within a width. -/
namespace MouseControl.Cli
open Text

inductive Width where
  | byte
  | word
  | dword
deriving DecidableEq, Repr

namespace Width

def bits : Width → Nat
  | byte => 8
  | word => 16
  | dword => 32

def name : Width → String
  | byte => "a byte"
  | word => "16 bits"
  | dword => "32 bits"

end Width

inductive NumberError where
  | invalid (text : String) (error : NumeralError)
  | tooWide (text : String) (width : Width)
deriving DecidableEq, Repr

def NumberError.message : NumberError → String
  | .invalid text error => s!"invalid number '{text}': {error.message}"
  | .tooWide text width => s!"{text} does not fit in {width.name}"

def readNumeral : List Char → Except NumeralError Nat
  | '0' :: 'x' :: digits => readUnsigned 16 0xFFFFFFFFFFFFFFFF digits
  | '0' :: 'X' :: digits => readUnsigned 16 0xFFFFFFFFFFFFFFFF digits
  | digits => readUnsigned 10 0xFFFFFFFFFFFFFFFF digits

def readNumber (width : Width) (text : String) : Except NumberError Nat :=
  match readNumeral text.toList with
  | .error error => .error (.invalid text error)
  | .ok n => if n < Nat.pow 2 width.bits then .ok n else .error (.tooWide text width)

def readByte (text : String) : Except NumberError UInt8 :=
  (readNumber .byte text).map UInt8.ofNat

def readWord (text : String) : Except NumberError UInt16 :=
  (readNumber .word text).map UInt16.ofNat

def readDword (text : String) : Except NumberError UInt32 :=
  (readNumber .dword text).map UInt32.ofNat

end MouseControl.Cli
