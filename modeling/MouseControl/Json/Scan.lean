import MouseControl.Text.Numeral

/-! Reading JSON from the left. Every reader gives the text after what it read. A value that nobody
asked for is passed over to any depth: it has to be well formed, but its numbers may have any size
and its escapes need not pair up. -/
namespace MouseControl.Json
open Text

def isBlank (c : Char) : Bool :=
  c == ' ' || c == '\t' || c == '\r' || c == '\n'

def skipBlanks (text : List Char) : List Char := text.dropWhile isBlank

def after (mark : Char) (text : List Char) : Option (List Char) :=
  match skipBlanks text with
  | c :: rest => if c = mark then some rest else none
  | [] => none

/-- A character of a string as it is written: itself, or a number of sixteen bits. -/
inductive Piece where
  | char (c : Char)
  | code (n : Nat)
deriving DecidableEq, Repr

def shortEscape? : Char → Option Char
  | '"' => some '"'
  | '\\' => some '\\'
  | '/' => some '/'
  | 'b' => some '\x08'
  | 'f' => some '\x0c'
  | 'n' => some '\n'
  | 'r' => some '\r'
  | 't' => some '\t'
  | _ => none

def hexCode? (a b c d : Char) : Option Nat := do
  let a ← hexValue? a
  let b ← hexValue? b
  let c ← hexValue? c
  let d ← hexValue? d
  pure (((a * 16 + b) * 16 + c) * 16 + d)

def readPieces (before : List Piece) : List Char → Option (List Piece × List Char)
  | '"' :: rest => some (before.reverse, rest)
  | '\\' :: 'u' :: a :: b :: c :: d :: rest =>
    match hexCode? a b c d with
    | some n => readPieces (.code n :: before) rest
    | none => none
  | '\\' :: c :: rest =>
    match shortEscape? c with
    | some e => readPieces (.char e :: before) rest
    | none => none
  | c :: rest =>
    if c = '\\' ∨ c.toNat < 0x20 then none else readPieces (.char c :: before) rest
  | [] => none

/-- The characters of a string. A number in the surrogate range stands for a character only as the
second half of a pair. -/
def joinPieces : List Piece → Option (List Char)
  | [] => some []
  | .char c :: rest => (joinPieces rest).map (c :: ·)
  | .code n :: .code m :: rest =>
    if n < 0xD800 ∨ 0xDFFF < n then (joinPieces (.code m :: rest)).map (Char.ofNat n :: ·)
    else if n ≤ 0xDBFF ∧ 0xDC00 ≤ m ∧ m ≤ 0xDFFF then
      (joinPieces rest).map (Char.ofNat (0x10000 + (n - 0xD800) * 0x400 + (m - 0xDC00)) :: ·)
    else none
  | .code n :: rest =>
    if n < 0xD800 ∨ 0xDFFF < n then (joinPieces rest).map (Char.ofNat n :: ·) else none

def readString (text : List Char) : Option (List Char × List Char) := do
  let (pieces, rest) ← readPieces [] text
  pure (← joinPieces pieces, rest)

def skipDigits : List Char → Option (List Char)
  | c :: rest => if c.isDigit then some (rest.dropWhile Char.isDigit) else none
  | [] => none

def skipExponent : List Char → Option (List Char)
  | 'e' :: rest | 'E' :: rest =>
    match rest with
    | '+' :: digits | '-' :: digits => skipDigits digits
    | digits => skipDigits digits
  | text => some text

def skipFraction : List Char → Option (List Char)
  | '.' :: rest => (skipDigits rest).bind skipExponent
  | text => skipExponent text

def skipMagnitude : List Char → Option (List Char)
  | '0' :: rest =>
    if (rest.headD ' ').isDigit then none else skipFraction rest
  | text => (skipDigits text).bind skipFraction

def skipScalar : List Char → Option (List Char)
  | 'n' :: 'u' :: 'l' :: 'l' :: rest => some rest
  | 't' :: 'r' :: 'u' :: 'e' :: rest => some rest
  | 'f' :: 'a' :: 'l' :: 's' :: 'e' :: rest => some rest
  | '"' :: rest => (readPieces [] rest).map (·.2)
  | '-' :: rest => skipMagnitude rest
  | text => skipMagnitude text

def skipKey (text : List Char) : Option (List Char) :=
  match skipBlanks text with
  | '"' :: rest =>
    match readPieces [] rest with
    | some (_, rest) => after ':' rest
    | none => none
  | _ => none

inductive Frame where
  | array
  | object
deriving DecidableEq, Repr

inductive Due where
  | value
  | separator
deriving DecidableEq, Repr

/-- Passes over the rest of a value inside the open frames. Every round takes at least one
character, so a bound above the length of the text never binds. -/
def skipFrames : Nat → Due → List Frame → List Char → Option (List Char)
  | 0, _, _, _ => none
  | bound + 1, .value, frames, text =>
    match skipBlanks text with
    | '[' :: rest =>
      match skipBlanks rest with
      | ']' :: rest => skipFrames bound .separator frames rest
      | rest => skipFrames bound .value (.array :: frames) rest
    | '\x7b' :: rest =>
      match skipBlanks rest with
      | '\x7d' :: rest => skipFrames bound .separator frames rest
      | rest =>
        match skipKey rest with
        | some rest => skipFrames bound .value (.object :: frames) rest
        | none => none
    | text =>
      match skipScalar text with
      | some rest => skipFrames bound .separator frames rest
      | none => none
  | _ + 1, .separator, [], text => some text
  | bound + 1, .separator, .array :: frames, text =>
    match skipBlanks text with
    | ',' :: rest => skipFrames bound .value (.array :: frames) rest
    | ']' :: rest => skipFrames bound .separator frames rest
    | _ => none
  | bound + 1, .separator, .object :: frames, text =>
    match skipBlanks text with
    | ',' :: rest =>
      match skipKey rest with
      | some rest => skipFrames bound .value (.object :: frames) rest
      | none => none
    | '\x7d' :: rest => skipFrames bound .separator frames rest
    | _ => none

def skipValue (text : List Char) : Option (List Char) :=
  skipFrames (text.length + 1) .value [] text

/-- Reads a whole number of 32 bits in plain decimal, after blanks. A sign, a fraction, an exponent
or a needless zero in front makes it no such number. -/
def readCount (text : List Char) : Option (UInt32 × List Char) :=
  let digits := (skipBlanks text).takeWhile Char.isDigit
  let rest := (skipBlanks text).dropWhile Char.isDigit
  if digits = [] ∨ (digits.head? = some '0' ∧ digits ≠ ['0']) then none
  else if rest.head? ∈ [some '.', some 'e', some 'E'] then none
  else
    match readDigits 10 0xFFFFFFFF .tooLarge 0 digits with
    | .ok n => some (UInt32.ofNat n, rest)
    | .error _ => none

end MouseControl.Json
