import MouseControl.Exchange
import MouseControl.Proofs.Words

/-! What an operation does on its link. A traced link answers as the link it stands for and keeps every
call with the answer it got. An exchange leaves one of a few patterns of calls behind, and a series of
exchanges their concatenation, whatever the link answers. -/
namespace MouseControl
variable {σ α β : Type}

abbrev Outcome := Except Error (List UInt8)

def AllOk (outcomes : List Outcome) : Prop := ∀ outcome ∈ outcomes, ∃ region, outcome = .ok region

theorem allOk_nil : AllOk [] := by simp [AllOk]

theorem allOk_cons {region : List UInt8} {outcomes : List Outcome} :
    AllOk (.ok region :: outcomes) ↔ AllOk outcomes := by simp [AllOk]

theorem allOk_append {first second : List Outcome} :
    AllOk (first ++ second) ↔ AllOk first ∧ AllOk second := by
  simp only [AllOk, List.mem_append, or_imp, forall_and]

theorem not_allOk_error (error : Error) : ¬ AllOk [.error error] := by
  intro good
  obtain ⟨region, wrong⟩ := good _ List.mem_cons_self
  cases wrong

theorem AllOk.getElem?_ne {outcomes : List Outcome} (good : AllOk outcomes) (i : Nat) (error : Error) :
    outcomes[i]? ≠ some (.error error) := by
  intro found
  obtain ⟨region, wrong⟩ := good _ (List.mem_of_getElem? found)
  cases wrong

inductive Contact where
  | write (id : UInt8) (report : List UInt8) (answer : Except LinkError Unit)
  | read (id : UInt8) (length : Nat) (answer : Except LinkError (List UInt8))

namespace Contact

/-- The report of a write call, taken in or not, with its number. -/
def sent? : Contact → Option (UInt8 × List UInt8)
  | write id report _ => some (id, report)
  | read .. => none

def delivered? : Contact → Option (UInt8 × List UInt8)
  | write id report (.ok _) => some (id, report)
  | _ => none

end Contact

structure Traced (σ : Type) where
  state : σ
  contacts : List Contact

def Link.traced (link : Link σ) : Link (Traced σ) where
  write device id report traced :=
    let (answer, state) := link.write device id report traced.state
    (answer, ⟨state, traced.contacts ++ [.write id report answer]⟩)
  read device id length traced :=
    let (answer, state) := link.read device id length traced.state
    (answer, ⟨state, traced.contacts ++ [.read id length answer]⟩)

theorem Link.traced_write {link : Link σ} {device : Device} {id : UInt8} {report : List UInt8}
    {state left : σ} {answer : Except LinkError Unit} (contacts : List Contact)
    (called : link.write device id report state = (answer, left)) :
    link.traced.write device id report ⟨state, contacts⟩ =
      (answer, ⟨left, contacts ++ [.write id report answer]⟩) := by
  simp only [traced, called]

theorem Link.traced_read {link : Link σ} {device : Device} {id : UInt8} {length : Nat}
    {state left : σ} {answer : Except LinkError (List UInt8)} (contacts : List Contact)
    (called : link.read device id length state = (answer, left)) :
    link.traced.read device id length ⟨state, contacts⟩ =
      (answer, ⟨left, contacts ++ [.read id length answer]⟩) := by
  simp only [traced, called]

namespace Session

theorem bind_ok {first : Session σ α} {next : α → Session σ β} {state left : σ} {value : α}
    (ok : first state = (.ok value, left)) : (first >>= next) state = next value left := by
  rw [bind_apply, ok]

theorem bind_error {first : Session σ α} {next : α → Session σ β} {state left : σ} {halt : Halt}
    (stopped : first state = (.error halt, left)) :
    (first >>= next) state = (.error halt, left) := by
  rw [bind_apply, stopped]

theorem within_ok {session : Session σ α} {state left : σ} {value : α} (context : Error → Error)
    (ok : session state = (.ok value, left)) :
    within context session state = (.ok value, left) := by
  simp only [within, ok, mapError_ok]

theorem within_failed {session : Session σ α} {state left : σ} {error : Error}
    (context : Error → Error) (stopped : session state = (.error (.failed error), left)) :
    within context session state = (.error (.failed (context error)), left) := by
  simp only [within, stopped, mapError_error]

end Session

namespace Request

def report (request : Request) : List UInt8 := request.header ++ request.region

def Fits (request : Request) : Prop := request.offset + request.payload.length ≤ regionLength

theorem encode_of_fits {request : Request} (fits : request.Fits) :
    request.encode = .ok request.report := by
  unfold Fits at fits
  rw [encode, if_neg (by omega), if_neg (by omega), report]

theorem length_region {request : Request} (fits : request.Fits) :
    request.region.length = regionLength := by
  unfold Fits at fits
  simp only [region, List.length_append, List.length_replicate]
  omega

theorem length_report {request : Request} (fits : request.Fits) :
    request.report.length = packetLength := by
  rw [report, List.length_append, length_region fits]
  rfl

@[simp] theorem getElem?_report_opcode (request : Request) :
    request.report[1]? = some request.opcode := rfl

end Request

inductive Exchanged (request : Request) : List Contact → Outcome → Prop where
  | unsent (cause : LinkError) : Exchanged request [.write reportId request.report (.error cause)]
      (.error (.transportFailed request.opcode cause))
  | unanswered (cause : LinkError) : Exchanged request
      [.write reportId request.report (.ok ()), .read reportId packetLength (.error cause)]
      (.error (.transportFailed request.opcode cause))
  /-- The link gave an answer, well-formed or not. -/
  | answered (answer : List UInt8) : Exchanged request
      [.write reportId request.report (.ok ()), .read reportId packetLength (.ok answer)]
      (decode answer)

inductive Transcript : List Request → List Contact → List Outcome → Prop where
  | nil : Transcript [] [] []
  | cons {request : Request} {requests : List Request} {made later : List Contact}
      {outcome : Outcome} {outcomes : List Outcome} (first : Exchanged request made outcome)
      (rest : Transcript requests later outcomes) :
      Transcript (request :: requests) (made ++ later) (outcome :: outcomes)

inductive Exchanges (link : Link σ) (device : Device) : σ → List Request → List Outcome → σ → Prop where
  | nil (state : σ) : Exchanges link device state [] [] state
  | cons {request : Request} {requests : List Request} {outcome : Outcome}
      {outcomes : List Outcome} {state next left : σ}
      (first : execute link device request state = (outcome.mapError .failed, next))
      (rest : Exchanges link device next requests outcomes left) :
      Exchanges link device state (request :: requests) (outcome :: outcomes) left

section Execute
variable (link : Link σ) (device : Device) (request : Request) (state : σ)

theorem execute_outcome : ∃ (outcome : Outcome) (left : σ),
    execute link device request state = (outcome.mapError .failed, left) := by
  rw [execute_apply]
  cases request.encode with
  | error error => exact ⟨.error error, state, rfl⟩
  | ok report =>
    simp only
    rcases link.write device reportId report state with ⟨cause | _, written⟩
    · exact ⟨.error (.transportFailed request.opcode cause), written, rfl⟩
    simp only
    rcases link.read device reportId packetLength written with ⟨cause | answer, left⟩
    · exact ⟨.error (.transportFailed request.opcode cause), left, rfl⟩
    · exact ⟨decode answer, left, rfl⟩

theorem execute_traced (fits : request.Fits) (contacts : List Contact) :
    ∃ (made : List Contact) (outcome : Outcome) (left : σ), Exchanged request made outcome ∧
      execute link device request state = (outcome.mapError .failed, left) ∧
      execute link.traced device request ⟨state, contacts⟩ =
        (outcome.mapError .failed, ⟨left, contacts ++ made⟩) := by
  simp only [execute_apply, Request.encode_of_fits fits]
  rcases sending : link.write device reportId request.report state with ⟨cause | _, written⟩
  · rw [Link.traced_write contacts sending]
    exact ⟨_, _, written, .unsent cause, rfl, rfl⟩
  · rw [Link.traced_write contacts sending]
    simp only
    rcases fetching : link.read device reportId packetLength written with ⟨cause | answer, left⟩
    · rw [Link.traced_read _ fetching, List.append_assoc]
      exact ⟨_, _, left, .unanswered cause, rfl, rfl⟩
    · rw [Link.traced_read _ fetching, List.append_assoc]
      exact ⟨_, _, left, .answered answer, rfl, rfl⟩

end Execute

theorem execute_length {link : Link σ} {device : Device} {request : Request} {state left : σ}
    {region : List UInt8} (ok : execute link device request state = (.ok region, left)) :
    region.length = regionLength := by
  rw [execute_apply] at ok
  repeat' split at ok
  all_goals try cases ok
  rename_i answer next reading
  rw [Prod.mk.injEq] at ok
  cases decoded : decode answer with
  | error error => rw [decoded] at ok; cases ok.1
  | ok other =>
    rw [decoded] at ok
    cases ok.1
    exact decode_length decoded

theorem Exchanged.sent {request : Request} {made : List Contact} {outcome : Outcome}
    (exchange : Exchanged request made outcome) :
    made.filterMap Contact.sent? = [(reportId, request.report)] := by
  cases exchange <;> rfl

theorem Exchanged.answered_of_ok {request : Request} {made : List Contact} {region : List UInt8}
    (exchange : Exchanged request made (.ok region)) :
    ∃ answer, decode answer = .ok region ∧ made = [.write reportId request.report (.ok ()),
      .read reportId packetLength (.ok answer)] := by
  generalize ended : (Except.ok region : Outcome) = outcome at exchange
  cases exchange with
  | unsent cause => cases ended
  | unanswered cause => cases ended
  | answered answer => exact ⟨answer, rfl, rfl⟩

private theorem Exchanged.delivered_of_ok {request : Request} {made : List Contact} {region : List UInt8}
    (exchange : Exchanged request made (.ok region)) :
    made.filterMap Contact.delivered? = [(reportId, request.report)] := by
  obtain ⟨answer, _, rfl⟩ := exchange.answered_of_ok
  rfl

theorem Exchanged.outcome_eq {request : Request} {made : List Contact} {first second : Outcome}
    (one : Exchanged request made first) (other : Exchanged request made second) : first = second := by
  cases one <;> cases other <;> rfl

/-- An exchange begins with the call that sends its request, and sends nothing after that. -/
theorem Exchanged.begins {request : Request} {made : List Contact} {outcome : Outcome}
    (exchange : Exchanged request made outcome) :
    ∃ answer rest, made = .write reportId request.report answer :: rest ∧
      rest.filterMap Contact.sent? = [] := by
  cases exchange with
  | unsent cause => exact ⟨_, _, rfl, rfl⟩
  | unanswered cause => exact ⟨_, _, rfl, rfl⟩
  | answered answer => exact ⟨_, _, rfl, rfl⟩

theorem Exchanged.failed_cases {request : Request} {made : List Contact} {error : Error}
    (exchange : Exchanged request made (.error error)) :
    error.isSequenceFailure = false ∧
      ((∃ cause, made = [.write reportId request.report (.error cause)]) ∨
        ∃ answer, made = [.write reportId request.report (.ok ()),
          .read reportId packetLength answer]) := by
  generalize ended : (Except.error error : Outcome) = outcome at exchange
  cases exchange with
  | unsent cause =>
    cases ended
    exact ⟨rfl, .inl ⟨cause, rfl⟩⟩
  | unanswered cause =>
    cases ended
    exact ⟨rfl, .inr ⟨.error cause, rfl⟩⟩
  | answered answer =>
    refine ⟨?_, .inr ⟨.ok answer, rfl⟩⟩
    unfold decode at ended
    repeat' split at ended
    all_goals cases ended
    all_goals rfl

namespace Transcript
variable {requests : List Request} {made : List Contact} {outcomes : List Outcome}

theorem append {others : List Request} {later : List Contact} {further : List Outcome}
    (first : Transcript requests made outcomes) (second : Transcript others later further) :
    Transcript (requests ++ others) (made ++ later) (outcomes ++ further) := by
  induction first with
  | nil => exact second
  | cons exchange rest ih =>
    rw [List.append_assoc]
    exact .cons exchange ih

theorem sent (transcript : Transcript requests made outcomes) :
    made.filterMap Contact.sent? = requests.map fun request => (reportId, request.report) := by
  induction transcript with
  | nil => rfl
  | cons exchange rest ih => rw [List.filterMap_append, exchange.sent, ih]; rfl

theorem delivered_of_ok (transcript : Transcript requests made outcomes)
    (good : AllOk outcomes) :
    made.filterMap Contact.delivered? = requests.map fun request => (reportId, request.report) := by
  induction transcript with
  | nil => rfl
  | cons exchange rest ih =>
    obtain ⟨region, rfl⟩ := good _ List.mem_cons_self
    rw [List.filterMap_append, exchange.delivered_of_ok,
      ih fun outcome member => good outcome (by simp [member])]
    rfl

theorem delivered_mem (transcript : Transcript requests made outcomes) {delivery : UInt8 × List UInt8}
    (member : delivery ∈ made.filterMap Contact.delivered?) :
    ∃ request ∈ requests, delivery = (reportId, request.report) := by
  induction transcript with
  | nil => cases member
  | @cons request _ _ _ _ _ exchange rest ih =>
    rw [List.filterMap_append, List.mem_append] at member
    rcases member with first | later
    · refine ⟨request, List.mem_cons_self, ?_⟩
      cases exchange with
      | unsent cause => cases first
      | unanswered cause => exact List.mem_singleton.mp first
      | answered answer => exact List.mem_singleton.mp first
    · obtain ⟨other, within, same⟩ := ih later
      exact ⟨other, List.mem_cons_of_mem _ within, same⟩

theorem single {request : Request} {outcome : Outcome}
    (transcript : Transcript [request] made [outcome]) : Exchanged request made outcome := by
  cases transcript with
  | cons exchange rest =>
    cases rest
    rwa [List.append_nil]

theorem length_of_ok {region : List UInt8} (transcript : Transcript requests made outcomes)
    (member : .ok region ∈ outcomes) : region.length = regionLength := by
  induction transcript with
  | nil => cases member
  | cons exchange rest ih =>
    rcases List.mem_cons.mp member with rfl | later
    · obtain ⟨answer, decoded, _⟩ := exchange.answered_of_ok
      exact decode_length decoded
    · exact ih later

end Transcript

namespace Exchanges
variable {link : Link σ} {device : Device} {start middle left : σ} {requests : List Request}
  {outcomes : List Outcome}

theorem transcript {start left : Traced σ} (fits : ∀ request ∈ requests, request.Fits)
    (run : Exchanges link.traced device start requests outcomes left) :
    ∃ made, left.contacts = start.contacts ++ made ∧ Transcript requests made outcomes := by
  induction run with
  | nil state => exact ⟨[], by simp, .nil⟩
  | @cons request requests outcome outcomes state next left executed rest ih =>
    obtain ⟨made, same, reached, exchange, _, traced⟩ :=
      execute_traced link device request state.state (fits request (by simp)) state.contacts
    rw [executed, Prod.mk.injEq] at traced
    obtain ⟨ended, rfl⟩ := traced
    obtain ⟨later, contacts, transcript⟩ := ih fun other member => fits other (by simp [member])
    have outcome_eq : outcome = same := by
      cases outcome <;> cases same <;> simp_all [Session.mapError_ok, Session.mapError_error]
    subst outcome_eq
    exact ⟨made ++ later, by rw [contacts, List.append_assoc], .cons exchange transcript⟩

end Exchanges

def exchangeAll (link : Link σ) (device : Device) : List Request → Session σ Unit
  | [] => pure ()
  | request :: rest => do
    let _ ← execute link device request
    exchangeAll link device rest

/-- A loop that exchanges one packet for each chunk sends the packets one after another. -/
theorem exchangeAll_of_loop {link : Link σ} {device : Device} {packet : Nat → List UInt8 → Request}
    {loop : Nat → List (List UInt8) → Session σ Unit} {index : Nat} {chunks : List (List UInt8)}
    (stop : ∀ i, loop i [] = pure ())
    (next : ∀ i < chunks.length, ∀ chunk rest, loop (index + i) (chunk :: rest) = (do
      let _ ← execute link device (packet (index + i) chunk)
      loop (index + (i + 1)) rest)) :
    loop index chunks = exchangeAll link device (chunks.mapIdx fun i => packet (index + i)) := by
  induction chunks generalizing index with
  | nil => exact stop index
  | cons chunk rest ih =>
    have others : loop (index + 1) rest =
        exchangeAll link device (rest.mapIdx fun i => packet (index + (i + 1))) := by
      have shifted (i : Nat) : index + 1 + i = index + (i + 1) := by omega
      rw [ih]
      · simp only [shifted]
      · intro i below chunk rest
        rw [shifted, shifted]
        exact next (i + 1) (by simpa using below) chunk rest
    have first : loop index (chunk :: rest) = (do
        let _ ← execute link device (packet index chunk)
        loop (index + 1) rest) := next 0 (by simp) chunk rest
    rw [first, others, List.mapIdx_cons]
    rfl

/-- The exchange of the request with an index fails, after those of all before it went well, and its
calls are the last. -/
def BreaksAt (requests : List Request) (index : Nat) (made last : List Contact) (error : Error) : Prop :=
  ∃ (request : Request) (earlier : List Contact) (outcomes : List Outcome),
    requests[index]? = some request ∧ Transcript (requests.take index) earlier outcomes ∧
    AllOk outcomes ∧ Exchanged request last (.error error) ∧ made = earlier ++ last

inductive Series (requests : List Request) : List Contact → Except Halt Unit → Prop where
  | whole {made : List Contact} {outcomes : List Outcome}
      (transcript : Transcript requests made outcomes)
      (good : AllOk outcomes) : Series requests made (.ok ())
  | broken {made last : List Contact} {error : Error} (index : Nat)
      (breaks : BreaksAt requests index made last error) :
      Series requests made (.error (.failed error))

private theorem Series.cons {request : Request} {requests : List Request} {first made : List Contact}
    {region : List UInt8} {result : Except Halt Unit} (exchange : Exchanged request first (.ok region))
    (series : Series requests made result) : Series (request :: requests) (first ++ made) result := by
  cases series with
  | whole transcript good => exact .whole (.cons exchange transcript) (allOk_cons.mpr good)
  | broken index breaks =>
    obtain ⟨other, earlier, outcomes, next, before, good, stopped, rfl⟩ := breaks
    exact .broken (index + 1) ⟨other, first ++ earlier, .ok region :: outcomes, next,
      .cons exchange before, allOk_cons.mpr good, stopped, by rw [List.append_assoc]⟩

theorem BreaksAt.sent {requests : List Request} {index : Nat} {made last : List Contact} {error : Error}
    (breaks : BreaksAt requests index made last error) :
    made.filterMap Contact.sent? =
      (requests.take (index + 1)).map fun request => (reportId, request.report) := by
  obtain ⟨request, earlier, outcomes, next, before, _, stopped, rfl⟩ := breaks
  have some : requests.take (index + 1) = requests.take index ++ [request] := by
    rw [List.take_add_one, next]
    rfl
  rw [List.filterMap_append, before.sent, stopped.sent, some, List.map_append]
  rfl

theorem Series.sent {requests : List Request} {made : List Contact} {result : Except Halt Unit}
    (series : Series requests made result) :
    made.filterMap Contact.sent? <+: requests.map fun request => (reportId, request.report) := by
  cases series with
  | whole transcript good => exact ⟨[], by rw [transcript.sent, List.append_nil]⟩
  | broken index breaks =>
    rw [breaks.sent]
    exact (List.take_prefix _ _).map _

theorem Series.single {request : Request} {made : List Contact} {result : Except Halt Unit}
    (series : Series [request] made result) :
    ∃ outcome, Exchanged request made outcome ∧
      result = (outcome.map fun _ => ()).mapError .failed := by
  cases series with
  | whole transcript good =>
    cases transcript with
    | cons exchange rest =>
      cases rest
      obtain ⟨region, rfl⟩ := good _ List.mem_cons_self
      rw [List.append_nil]
      exact ⟨_, exchange, rfl⟩
  | broken index breaks =>
    obtain ⟨other, earlier, outcomes, next, before, _, stopped, rfl⟩ := breaks
    cases index with
    | zero =>
      cases next
      cases before
      exact ⟨_, stopped, rfl⟩
    | succ index => cases next

/-- On a traced link a series makes the calls of its requests up to the first that fails, and none
after that. -/
theorem exchangeAll_series (link : Link σ) (device : Device) {requests : List Request}
    (fits : ∀ request ∈ requests, request.Fits) (start : Traced σ) :
    ∃ (result : Except Halt Unit) (left : σ) (made : List Contact),
      exchangeAll link.traced device requests start = (result, ⟨left, start.contacts ++ made⟩) ∧
      Series requests made result := by
  induction requests generalizing start with
  | nil => exact ⟨.ok (), start.state, [], by rw [List.append_nil]; rfl, .whole .nil allOk_nil⟩
  | cons request rest ih =>
    obtain ⟨made, outcome, next, exchange, _, executed⟩ :=
      execute_traced link device request start.state (fits request (by simp)) start.contacts
    cases outcome with
    | error error =>
      exact ⟨.error (.failed error), next, made, Session.bind_error executed,
        .broken 0 ⟨request, [], [], rfl, .nil, allOk_nil, exchange, rfl⟩⟩
    | ok region =>
      obtain ⟨result, left, later, sent, series⟩ :=
        ih (fun other member => fits other (by simp [member])) ⟨next, start.contacts ++ made⟩
      refine ⟨result, left, made ++ later, ?_, series.cons exchange⟩
      rw [← List.append_assoc]
      exact (Session.bind_ok executed).trans sent

end MouseControl
