/-! Text written for a terminal, read without one. Control sequences and control characters have
nothing to show and are left out, blanks apart. -/
namespace MouseControl.Text.Terminal

def isMove (c : Char) : Bool :=
  c == '\t' || c == '\n' || c == '\x0c' || c == '\r'

def isShown (c : Char) : Bool :=
  (0x20 ≤ c.toNat && c.toNat != 0x7F) || isMove c

def within (first last : Nat) (c : Char) : Bool :=
  first ≤ c.toNat && c.toNat ≤ last

inductive Sequence where
  | escape
  /-- After an escape and a character that chooses a set. -/
  | choice
  /-- After an escape and a bracket: parameters up to a final letter. -/
  | control
  /-- After an escape and a closing bracket: a command up to a bell. -/
  | command
  | device
  | parameters
  /-- The characters between the parameters of a string and its kind. -/
  | middle
  | string
deriving DecidableEq, Repr

namespace Sequence

def showsMoves : Sequence → Bool
  | escape | choice | control => true
  | command | device | parameters | middle | string => false

/-- The sequence after one more character, or nothing if that ends it. A string also ends at the
byte 0x9C, which in text can only stand inside a longer character. -/
def next? (c : Char) : Sequence → Option Sequence
  | escape =>
    if within 0x20 0x2F c then some choice
    else if c == '[' then some control
    else if c == ']' then some command
    else if c == 'P' then some device
    else if c == 'X' || c == '^' || c == '_' then some string
    else if within 0x30 0x7E c then none
    else some escape
  | choice => if within 0x30 0x7E c then none else some choice
  | control => if within 0x40 0x7E c then none else some control
  | command => if c == '\x07' then none else some command
  | device =>
    if within 0x20 0x2F c then some middle
    else if within 0x30 0x3F c then some parameters
    else if within 0x40 0x7E c then some string
    else some device
  | parameters =>
    if within 0x20 0x2F c then some middle
    else if within 0x3C 0x7E c then some string
    else some parameters
  | middle => if within 0x30 0x7E c then some string else some middle
  | string => if (String.utf8EncodeChar c).contains 0x9C then none else some string

end Sequence

inductive Stand where
  | plain
  | inside (sequence : Sequence)
  /-- A blank put the sequence off. What follows is shown, until a control character takes the
  sequence up again or a character beyond the ASCII ones drops it. -/
  | putOff (sequence : Sequence)
deriving DecidableEq, Repr

namespace Stand

/-- Reads one character, and tells whether it is shown. An escape begins a sequence anywhere, and the
characters to cancel and to substitute end one anywhere. -/
def step (stand : Stand) (c : Char) : Stand × Bool :=
  if c == '\x1b' then (inside .escape, false)
  else if c == '\x18' || c == '\x1a' then (plain, false)
  else
    match stand with
    | plain => (plain, isShown c)
    | inside sequence =>
      if isMove c && sequence.showsMoves then (putOff sequence, true)
      else ((sequence.next? c).elim plain inside, false)
    | putOff sequence =>
      if 0x80 ≤ c.toNat then (plain, true)
      else if isShown c then (putOff sequence, true)
      else (inside sequence, false)

def shown (stand : Stand) : List Char → List Char
  | [] => []
  | c :: rest =>
    let (stand, isShown) := stand.step c
    if isShown then c :: stand.shown rest else stand.shown rest

end Stand

def shown (text : String) : String :=
  String.ofList (Stand.plain.shown text.toList)

/-- The first line, which ends at a line feed or at a carriage return right before one. -/
def firstLine : List Char → List Char
  | [] => []
  | '\n' :: _ => []
  | '\r' :: '\n' :: _ => []
  | c :: rest => c :: firstLine rest

def styled (style text : String) : String :=
  s!"\x1b[{style}m{text}\x1b[0m"

end MouseControl.Text.Terminal
