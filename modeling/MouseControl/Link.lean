import MouseControl.Device
import MouseControl.Text.HexBytes

/-! Links to a device. A link is any pair of functions that answer a write and a read of a feature
report out of a state of their own. A session runs on a link's state and ends with a value, with an
error or with a crash; the state it leaves is known in each case. -/
namespace MouseControl
open Text

/-- How feature reports reach a device: every call answers out of the link's state. -/
structure Link (σ : Type) where
  write : Device → UInt8 → List UInt8 → σ → Except LinkError Unit × σ
  read : Device → UInt8 → Nat → σ → Except LinkError (List UInt8) × σ

abbrev Session (σ α : Type) := ExceptT Halt (StateM σ) α

namespace Session
variable {σ α : Type}

def check (result : Except Error α) : Session σ α :=
  fun state => (result.mapError Halt.failed, state)

def guarded (result : Except Crash α) : Session σ α :=
  fun state => (result.mapError Halt.crashed, state)

def fail (error : Error) : Session σ α :=
  fun state => (.error (.failed error), state)

/-- One call of a link; its failure is blamed on an opcode. -/
def call (opcode : UInt8) (answer : σ → Except LinkError α × σ) : Session σ α :=
  fun state =>
    ((answer state).1.mapError fun cause => Halt.failed (.transportFailed opcode cause),
      (answer state).2)

/-- Puts an error into its context and leaves a crash alone. -/
def within (context : Error → Error) (session : Session σ α) : Session σ α :=
  fun state =>
    let (result, left) := session state
    (result.mapError fun
      | .failed error => .failed (context error)
      | .crashed crash => .crashed crash, left)

theorem mapError_ok {ε δ : Type} (f : ε → δ) (value : α) :
    (Except.ok value : Except ε α).mapError f = .ok value := rfl

theorem mapError_error {ε δ : Type} (f : ε → δ) (error : ε) :
    (Except.error error : Except ε α).mapError f = .error (f error) := rfl

theorem bind_apply {β : Type} (first : Session σ α) (next : α → Session σ β) (state : σ) :
    (first >>= next) state =
      match first state with
      | (.ok value, left) => next value left
      | (.error halt, left) => (.error halt, left) := by
  simp only [bind, ExceptT.bind, ExceptT.mk, StateT.bind]
  rcases first state with ⟨_ | _, _⟩ <;> rfl

end Session

inductive Call where
  | write (id : UInt8) (data : List UInt8)
  | read (id : UInt8) (length : Nat)
deriving DecidableEq, Repr

def Call.line : Call → String
  | .write id data => s!"w {lowerHex 2 id.toNat} {plainHex data}"
  | .read id length => s!"r {lowerHex 2 id.toNat} {decimal length}"

/-- A state together with the calls made so far, the latest first. -/
structure Recorded (σ : Type) where
  state : σ
  backlog : List Call

def Recorded.calls {σ : Type} (recorded : Recorded σ) : List Call := recorded.backlog.reverse

/-- The same link with its calls recorded, failing ones too. -/
def Link.recorded {σ : Type} (link : Link σ) : Link (Recorded σ) where
  write device id data recorded :=
    let (result, state) := link.write device id data recorded.state
    (result, ⟨state, .write id data :: recorded.backlog⟩)
  read device id length recorded :=
    let (result, state) := link.read device id length recorded.state
    (result, ⟨state, .read id length :: recorded.backlog⟩)

end MouseControl
