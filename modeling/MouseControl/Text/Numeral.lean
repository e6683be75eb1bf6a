/-! Numerals: writing numbers in decimal and in padded hexadecimal, and reading them back within a
limit. A numeral has at most one sign and at least one digit; the first fault from the left is the
one reported. -/
namespace MouseControl.Text

inductive NumeralError where
  | empty
  | invalidDigit
  | tooLarge
  | tooSmall
deriving DecidableEq, Repr

def NumeralError.message : NumeralError → String
  | .empty => "cannot parse integer from empty string"
  | .invalidDigit => "invalid digit found in string"
  | .tooLarge => "number too large to fit in target type"
  | .tooSmall => "number too small to fit in target type"

def hexValue? (c : Char) : Option Nat :=
  if '0' ≤ c ∧ c ≤ '9' then some (c.toNat - '0'.toNat)
  else if 'a' ≤ c ∧ c ≤ 'f' then some (c.toNat - 'a'.toNat + 10)
  else if 'A' ≤ c ∧ c ≤ 'F' then some (c.toNat - 'A'.toNat + 10)
  else none

/-- The value of a digit below the radix, which is at most sixteen. -/
def digitValue? (radix : Nat) (c : Char) : Option Nat :=
  (hexValue? c).filter (· < radix)

/-- Reads digits from the left onto what was read before, never past the limit. -/
def readDigits (radix limit : Nat) (overrun : NumeralError) :
    Nat → List Char → Except NumeralError Nat
  | read, [] => .ok read
  | read, c :: rest =>
    match digitValue? radix c with
    | none => .error .invalidDigit
    | some digit =>
      if read * radix + digit ≤ limit then
        readDigits radix limit overrun (read * radix + digit) rest
      else .error overrun

def readUnsigned (radix limit : Nat) : List Char → Except NumeralError Nat
  | [] => .error .empty
  | ['+'] => .error .invalidDigit
  | '+' :: digits => readDigits radix limit .tooLarge 0 digits
  | digits => readDigits radix limit .tooLarge 0 digits

def readSigned : List Char → Except NumeralError Int
  | [] => .error .empty
  | ['+'] => .error .invalidDigit
  | ['-'] => .error .invalidDigit
  | '+' :: digits => (readDigits 10 0x7FFFFFFFFFFFFFFF .tooLarge 0 digits).map Int.ofNat
  | '-' :: digits => (readDigits 10 0x8000000000000000 .tooSmall 0 digits).map fun n => -(n : Int)
  | digits => (readDigits 10 0x7FFFFFFFFFFFFFFF .tooLarge 0 digits).map Int.ofNat

def decimal (n : Nat) : String :=
  String.ofList (Nat.toDigits 10 n)

def lowerHex (width n : Nat) : String :=
  let digits := Nat.toDigits 16 n
  String.ofList (List.replicate (width - digits.length) '0' ++ digits)

def upperHex (width n : Nat) : String :=
  let digits := (Nat.toDigits 16 n).map Char.toUpper
  String.ofList (List.replicate (width - digits.length) '0' ++ digits)

end MouseControl.Text
