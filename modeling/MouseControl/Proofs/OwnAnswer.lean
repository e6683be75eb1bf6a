import MouseControl.Proofs.FlashLockstep
import MouseControl.Proofs.Sends

/-! Requests and their answers. A response does not tell which request it belongs to. That an exchange
still brings back the answer to its own request rests on the order of its calls: the write drops whatever
waits, and only then is an answer read. -/
namespace MouseControl

/-- What can happen to a mouse: an operation of any kind, or a change of what it holds and of the failures
that are to come. -/
inductive Episode where
  | turn (turn : Turn)
  | script (script : Script)

namespace Mouse

def after (mouse : Mouse) : Episode → Mouse
  | .turn turn => turn.play Mouse.link mouse
  | .script script => mouse.apply script

section Exchange
variable (device : Device) {mouse : Mouse} {request : Request}

private theorem respond_report (mouse : Mouse) (request : Request) :
    (((Request.mk request.opcode request.flag 0 []).header ++
        (mouse.perform request.opcode request.flag (.ofBytes request.region)).1.bytes).take
          packetLength) = (mouse.respond request.report).1 := by
  apply List.take_of_length_le
  rw [List.length_append, Region.length_eq]
  exact Nat.le_refl packetLength

private theorem execute_mouse_traced (fits : request.Fits) (empty : mouse.queue = []) :
    execute Mouse.link.traced device request ⟨mouse, []⟩ =
      match mouse.failWrites.lookup mouse.writes with
      | some cause => (.error (.failed (.transportFailed request.opcode cause)),
          ⟨{ mouse with writes := mouse.writes + 1 },
            [.write reportId request.report (.error cause)]⟩)
      | none =>
        match mouse.failReads.lookup mouse.reads with
        | some cause => (.error (.failed (.transportFailed request.opcode cause)),
            ⟨{ mouse.answering request with reads := mouse.reads + 1 },
              [.write reportId request.report (.ok ()),
                .read reportId packetLength (.error cause)]⟩)
        | none =>
          (.ok (mouse.perform request.opcode request.flag (.ofBytes request.region)).1.bytes,
            ⟨{ mouse.answering request with reads := mouse.reads + 1, pending := none },
              [.write reportId request.report (.ok ()),
                .read reportId packetLength (.ok (mouse.respond request.report).1)]⟩) := by
  have sending := @write_report device mouse request fits
  have fetching := read_answering device request empty
  cases untaken : mouse.failWrites.lookup mouse.writes with
  | some cause =>
    rw [untaken] at sending
    exact execute_unsent fits [] sending
  | none =>
    rw [untaken] at sending
    cases unanswered : mouse.failReads.lookup mouse.reads with
    | some cause =>
      rw [unanswered] at fetching
      exact execute_sent fits [] sending fetching
    | none =>
      rw [unanswered] at fetching
      rw [execute_sent fits [] sending fetching]
      simp only [Session.mapError_ok, Except.bind, decode_answer]
      rw [respond_report]
      rfl

private theorem execute_waiting (fits : request.Fits) (empty : mouse.queue = [])
    (waiting : Option (List UInt8)) :
    (execute Mouse.link device request { mouse with pending := waiting }).1 =
      (execute Mouse.link device request mouse).1 := by
  have again : ({ mouse with pending := waiting } : Mouse).queue = [] := empty
  rw [execute_mouse device fits empty, execute_mouse device fits again]
  simp only [@perform_answer { mouse with pending := waiting } mouse rfl]
  cases mouse.failWrites.lookup mouse.writes with
  | some cause => rfl
  | none => cases mouse.failReads.lookup mouse.reads <;> rfl

end Exchange

end Mouse

private theorem execute_unencoded {σ : Type} {request : Request} {error : Error}
    (encoded : request.encode = .error error) (link : Link σ) (device : Device) (state : σ) :
    execute link device request state = (.error (.failed error), state) := by
  rw [execute_apply, encoded]

/-- After any history that leaves the queue empty, an exchange that succeeds has made one write of its
request and one read, and brings back what the mouse as it stands performs for that request, whatever
answer still waited. An exchange that fails tells by its calls and its error where it did. -/
theorem exchange_answers_own_request (start : Mouse) (history : List Episode) (device : Device)
    (request : Request) (empty : (history.foldl Mouse.after start).queue = []) :
    let mouse := history.foldl Mouse.after start
    ∃ (result : Except Halt (List UInt8)) (left : Mouse) (made : List Contact),
      execute Mouse.link device request mouse = (result, left) ∧
      execute Mouse.link.traced device request ⟨mouse, []⟩ = (result, ⟨left, made⟩) ∧
      (∀ waiting, (execute Mouse.link device request { mouse with pending := waiting }).1 = result) ∧
      (∀ region, result = .ok region → region.length = 64 ∧
        region = (mouse.perform request.opcode request.flag (.ofBytes request.region)).1.bytes ∧
        ∃ report, request.encode = .ok report ∧ report.length = 72 ∧
          made = [.write 7 report (.ok ()), .read 7 72 (.ok (mouse.respond report).1)]) ∧
      (∀ error, request.encode = .error error →
        result = .error (.failed error) ∧ made = [] ∧ left = mouse) ∧
      (∀ report, request.encode = .ok report →
        (∀ cause, mouse.failWrites.lookup mouse.writes = some cause →
          result = .error (.failed (.transportFailed request.opcode cause)) ∧
          made = [.write 7 report (.error cause)]) ∧
        (mouse.failWrites.lookup mouse.writes = none →
          (∀ cause, mouse.failReads.lookup mouse.reads = some cause →
            result = .error (.failed (.transportFailed request.opcode cause)) ∧
            made = [.write 7 report (.ok ()), .read 7 72 (.error cause)]) ∧
          (mouse.failReads.lookup mouse.reads = none → ∃ region, result = .ok region))) ∧
      ∀ cause, (Error.transportFailed request.opcode cause).causes = [.linkError cause] := by
  intro mouse
  -- Of the history only the empty queue matters.
  replace empty : mouse.queue = [] := empty
  clear_value mouse
  cases encoded : request.encode with
  | error error =>
    refine ⟨.error (.failed error), mouse, [], execute_unencoded encoded _ _ _,
      execute_unencoded encoded _ _ _, ?_, by simp, by simp, by simp, fun _ => rfl⟩
    intro waiting
    rw [execute_unencoded encoded]
  | ok report =>
    obtain ⟨fits, rfl⟩ := (request.encode_ok_iff report).mp encoded
    have ran := Mouse.execute_mouse device fits empty
    have traced := Mouse.execute_mouse_traced device fits empty
    have waited := Mouse.execute_waiting device fits empty
    cases untaken : mouse.failWrites.lookup mouse.writes with
    | some cause =>
      rw [untaken] at ran traced
      rw [ran] at waited
      exact ⟨_, _, _, ran, traced, waited, by simp, by simp, by simp [reportId], fun _ => rfl⟩
    | none =>
      cases unanswered : mouse.failReads.lookup mouse.reads with
      | some cause =>
        rw [untaken, unanswered] at ran traced
        rw [ran] at waited
        exact ⟨_, _, _, ran, traced, waited, by simp, by simp,
          by simp [reportId, packetLength_eq], fun _ => rfl⟩
      | none =>
        rw [untaken, unanswered] at ran traced
        rw [ran] at waited
        refine ⟨_, _, _, ran, traced, waited, ?_, by simp, by simp, fun _ => rfl⟩
        rintro _ ⟨⟩
        exact ⟨Region.length_eq _, rfl, _, rfl, Request.length_report fits, rfl⟩

-- The answer to the set is never read and still waits. The exchange that follows brings back the core
-- slot's region, which no request has stored.
theorem exchange_answers_own_request_waiting :
    let device : Device := ⟨0x09DA, 0x7F1B, "Bloody T50", "SN1"⟩
    let start := { Mouse.fresh with failReads := [(0, .timeout "x")] }
    let mouse := [Episode.turn ⟨device, .setBacklight 9⟩].foldl Mouse.after start
    mouse.queue = [] ∧
      (mouse.pending.map fun answer => answer.take 10) = some [7, 0x11, 0, 0, 0x80, 0, 0, 0, 9, 0] ∧
      (execute Mouse.link device (.read Opcode.coreSlot) mouse).1 = .ok (List.replicate 64 0) := by
  intro device start mouse
  have empty : mouse.queue = [] := by with_unfolding_all rfl
  refine ⟨empty, by with_unfolding_all rfl, ?_⟩
  obtain ⟨result, left, made, ran, -, -, own, -, succeeds, -⟩ :=
    exchange_answers_own_request start [.turn ⟨device, .setBacklight 9⟩] device
      (.read Opcode.coreSlot) empty
  obtain ⟨region, rfl⟩ :=
    ((succeeds _ rfl).2 (by with_unfolding_all rfl)).2 (by with_unfolding_all rfl)
  have unset : mouse.registers[Opcode.coreSlot]? = none := by
    change (Mouse.fresh.registers.insert Opcode.backlight _)[Opcode.coreSlot]? = none
    rw [Std.HashMap.getElem?_insert, if_neg (by decide)]
    exact Std.HashMap.getElem?_empty
  obtain ⟨-, rfl, -⟩ := own _ rfl
  rw [ran]
  change Except.ok ((mouse.registers[Opcode.coreSlot]?).getD .zero).bytes = _
  rw [unset]
  rfl

end MouseControl
