import MouseControl.Crash
import MouseControl.Text.Blank
import MouseControl.Text.Numeral

/-! Bytes as hexadecimal text. A dump writes two upper-case digits a byte with a space between;
reading ignores blanks, colons and hyphens and takes digits of either case. -/
namespace MouseControl.Text

inductive HexError where
  | invalidDigit (found : Char)
  | oddLength
deriving DecidableEq, Repr

def HexError.message : HexError → String
  | .invalidDigit found => s!"invalid hex digit '{found}'"
  | .oddLength => "hex string has an odd number of digits"

inductive HexHalt where
  | refused (error : HexError)
  | crashed (crash : Crash)
deriving DecidableEq, Repr

def isSeparator (c : Char) : Bool :=
  isBlank c || c == ':' || c == '-'

def isHexDigit (c : Char) : Bool :=
  ('0' ≤ c && c ≤ '9') || ('a' ≤ c && c ≤ 'f') || ('A' ≤ c && c ≤ 'F')

def hexDigits : List Char → Except HexError (List UInt8)
  | [] => .ok []
  | c :: rest =>
    if isHexDigit c then (hexDigits rest).map (UInt8.ofNat c.toNat :: ·)
    else .error (.invalidDigit c)

/-- The value of a byte that is a digit. What is neither a decimal digit nor a lower-case one is taken
for an upper-case one. -/
def nibble (digit : UInt8) : Except Crash UInt8 :=
  if 0x30 ≤ digit ∧ digit ≤ 0x39 then difference8 digit 0x30
  else if 0x61 ≤ digit ∧ digit ≤ 0x66 then do sum8 (← difference8 digit 0x61) 10
  else do sum8 (← difference8 digit 0x41) 10

/-- Joins digits by pairs, high digit first. A digit without a second one has no pair to be in. -/
def joinDigits : List UInt8 → Except Crash (List UInt8)
  | [] => .ok []
  | [digit] => do
    let _ ← nibble digit
    .error .outOfBounds
  | high :: low :: rest => do
    let high ← nibble high
    let low ← nibble low
    let bytes ← joinDigits rest
    pure ((high <<< 4 ||| low) :: bytes)

def readHex (text : String) : Except HexHalt (List UInt8) :=
  match hexDigits (text.toList.filter (! isSeparator ·)) with
  | .error error => .error (.refused error)
  | .ok digits =>
    if digits.length % 2 = 0 then (joinDigits digits).mapError .crashed
    else .error (.refused .oddLength)

/-- Writes bytes as upper-case digit pairs with a space between. -/
def dumpHex (bytes : List UInt8) : String :=
  " ".intercalate (bytes.map fun byte => upperHex 2 byte.toNat)

/-- Writes bytes as lower-case digit pairs without a space. -/
def plainHex (bytes : List UInt8) : String :=
  String.join (bytes.map fun byte => lowerHex 2 byte.toNat)

end MouseControl.Text
