import MouseControl.Link
import MouseControl.Packet

/-! The exchange that every command is made of: one write of a packet and one read of its answer,
and raw reports beside it. -/
namespace MouseControl
variable {σ : Type}

def shownLength : Nat := 16

/-- Sends a request and gives the region of the answer. The log shows the start of both. -/
def execute (link : Link σ) (device : Device) (request : Request) : Session σ (List UInt8) := do
  let report ← ExceptT.mk (pure request.compose)
  let _ ← Session.guarded (slice report 0 (headerLength + shownLength))
  Session.call request.opcode (link.write device reportId report)
  let answer ← Session.call request.opcode (link.read device reportId packetLength)
  let region ← ExceptT.mk (pure (extract answer))
  let _ ← Session.guarded (slice region 0 shownLength)
  pure region

theorem compose_shown {α : Type} (request : Request) (next : List UInt8 → Session σ α) :
    (do
      let report ← ExceptT.mk (pure request.compose)
      let _ ← Session.guarded (slice report 0 (headerLength + shownLength))
      next report) = Session.check request.encode >>= next := by
  funext state
  rw [Request.compose_eq]
  cases encoded : request.encode with
  | error error => rfl
  | ok report =>
    have inside : 0 + (headerLength + shownLength) ≤ report.length := by
      rw [Request.encode_length encoded]
      decide
    change (Session.guarded (slice report 0 (headerLength + shownLength)) >>= _) state = _
    rw [slice_ok inside]
    rfl

theorem extract_shown (answer : List UInt8) :
    (do
      let region ← ExceptT.mk (pure (extract answer))
      let _ ← Session.guarded (slice region 0 shownLength)
      pure region : Session σ (List UInt8)) = Session.check (decode answer) := by
  funext state
  rw [extract_eq]
  cases decoded : decode answer with
  | error error => rfl
  | ok region =>
    have inside : 0 + shownLength ≤ region.length := by
      rw [decode_length decoded]
      decide
    change (Session.guarded (slice region 0 shownLength) >>= _) state = _
    rw [slice_ok inside]
    rfl

/-- No access of an exchange goes past the end of its block. -/
theorem execute_eq (link : Link σ) (device : Device) (request : Request) :
    execute link device request = (do
      let report ← Session.check request.encode
      Session.call request.opcode (link.write device reportId report)
      let answer ← Session.call request.opcode (link.read device reportId packetLength)
      Session.check (decode answer)) := by
  unfold execute
  simp only [compose_shown, extract_shown]

/-- An exchange is one write, and one read if the write succeeded. -/
theorem execute_apply (link : Link σ) (device : Device) (request : Request) (state : σ) :
    execute link device request state =
      match request.encode with
      | .error error => (.error (.failed error), state)
      | .ok report =>
        match link.write device reportId report state with
        | (.error cause, left) => (.error (.failed (.transportFailed request.opcode cause)), left)
        | (.ok _, left) =>
          match link.read device reportId packetLength left with
          | (.error cause, left) => (.error (.failed (.transportFailed request.opcode cause)), left)
          | (.ok answer, left) => ((decode answer).mapError Halt.failed, left) := by
  rw [execute_eq]
  simp only [Session.bind_apply, Session.check, Session.call]
  cases request.encode with
  | error error => rfl
  | ok report =>
    simp only [Session.mapError_ok]
    rcases link.write device reportId report state with ⟨_ | _, written⟩
    · rfl
    simp only [Session.mapError_ok]
    rcases link.read device reportId packetLength written with ⟨_ | _, _⟩ <;> rfl

def writeReport (link : Link σ) (device : Device) (id : UInt8) (data : List UInt8) :
    Session σ Unit := do
  Session.check device.requireSupported
  Session.call (data[1]?.getD 0) (link.write device id data)

def readReport (link : Link σ) (device : Device) (id : UInt8) (length : Nat) :
    Session σ (List UInt8) := do
  Session.check device.requireSupported
  Session.call 0 (link.read device id length)

end MouseControl
