import MouseControl.Fault
import MouseControl.Json.Scan
import MouseControl.Profile.Basic

/-! Reading a profile from JSON text: an object with the three members in any order, among others
that are passed over, or a list of the three numbers. A member met twice is reported at once, a
missing one at the closing brace. -/
namespace MouseControl.Profile
open Json

structure Members where
  dpi : Option UInt32
  pollingRate : Option UInt32
  liftOff : Option UInt32
deriving DecidableEq, Repr

namespace Members

def none : Members := ⟨.none, .none, .none⟩

def get? (members : Members) : ProfileField → Option UInt32
  | .dpi => members.dpi
  | .pollingRate => members.pollingRate
  | .liftOff => members.liftOff

def set (members : Members) (value : UInt32) : ProfileField → Members
  | .dpi => { members with dpi := value }
  | .pollingRate => { members with pollingRate := value }
  | .liftOff => { members with liftOff := value }

def profile (members : Members) : Except ProfileFault Profile :=
  match members.dpi, members.pollingRate, members.liftOff with
  | some dpi, some pollingRate, some liftOff => .ok ⟨dpi, pollingRate, liftOff⟩
  | .none, _, _ => .error (.missing .dpi)
  | _, .none, _ => .error (.missing .pollingRate)
  | _, _, .none => .error (.missing .liftOff)

end Members

def field? (key : List Char) : Option ProfileField :=
  [ProfileField.dpi, .pollingRate, .liftOff].find? fun field => field.name.toList == key

def readMember (members : Members) (key : List Char) (text : List Char) :
    Except ProfileFault (Members × List Char) :=
  match field? key with
  | .none =>
    match (after ':' text).bind skipValue with
    | some rest => .ok (members, rest)
    | .none => .error .malformed
  | some field =>
    if (members.get? field).isSome then .error (.duplicate field)
    else
      match (after ':' text).bind readCount with
      | some (value, rest) => .ok (members.set value field, rest)
      | .none => .error .malformed

/-- Reads members up to the closing brace, from after the opening quote of a key. Every round takes
at least one character. -/
def readMembers : Nat → Members → List Char → Except ProfileFault (Members × List Char)
  | 0, _, _ => .error .malformed
  | bound + 1, members, text =>
    match readString text with
    | .none => .error .malformed
    | some (key, rest) =>
      match readMember members key rest with
      | .error fault => .error fault
      | .ok (members, rest) =>
        match skipBlanks rest with
        | '\x7d' :: rest => .ok (members, rest)
        | ',' :: rest =>
          match skipBlanks rest with
          | '"' :: rest => readMembers bound members rest
          | _ => .error .malformed
        | _ => .error .malformed

def readObject (text : List Char) : Except ProfileFault (Members × List Char) :=
  match skipBlanks text with
  | '\x7d' :: rest => .ok (Members.none, rest)
  | '"' :: rest => readMembers (rest.length + 1) Members.none rest
  | _ => .error .malformed

def readList (text : List Char) : Option (Profile × List Char) := do
  let (dpi, rest) ← readCount text
  let rest ← after ',' rest
  let (pollingRate, rest) ← readCount rest
  let rest ← after ',' rest
  let (liftOff, rest) ← readCount rest
  let rest ← after ']' rest
  pure (⟨dpi, pollingRate, liftOff⟩, rest)

def ended (profile : Profile) (rest : List Char) : Except ProfileFault Profile :=
  if skipBlanks rest = [] then .ok profile else .error .malformed

def ofText (text : String) : Except ProfileFault Profile :=
  match skipBlanks text.toList with
  | '\x7b' :: rest => do
    let (members, rest) ← readObject rest
    ended (← members.profile) rest
  | '[' :: rest =>
    match readList rest with
    | some (profile, rest) => ended profile rest
    | .none => .error .malformed
  | _ => .error .malformed

end MouseControl.Profile
