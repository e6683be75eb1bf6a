import MouseControl.Proofs.Deed
import MouseControl.Proofs.DwordPackets
import MouseControl.Proofs.PacketCodec
import MouseControl.Proofs.Table

/-! Rejections and calls. Every operation makes all its checks before its first call, so that an error
tells whether the device was touched. A triple over the calls made so far follows an operation through
its checks and exchanges. -/
namespace MouseControl
variable {σ α β : Type}

/-- Neither an error nor any error behind it is a rejection. -/
def Error.FromDevice (error : Error) : Prop :=
  error.isRejection = false ∧ ∀ cause, .error cause ∈ error.causes → cause.isRejection = false

/-- How an operation fails that has passed its checks. -/
def FailsLate (contacts : List Contact) (error : Error) : Prop :=
  contacts ≠ [] ∧ error.FromDevice

def FailsFairly (contacts : List Contact) (error : Error) : Prop :=
  (error.isRejection = true ↔ contacts = []) ∧
    ∀ cause, .error cause ∈ error.causes → cause.isRejection = false

private theorem Error.causes_of_rejection {error : Error} (rejected : error.isRejection = true) :
    error.causes = [] := by
  cases error with
  | transportFailed opcode cause => cases rejected
  | sequenceFailed operation step total cause => cases rejected
  | _ => rfl

private theorem FailsLate.fairly {contacts : List Contact} {error : Error}
    (late : FailsLate contacts error) : FailsFairly contacts error := by
  obtain ⟨touched, own, behind⟩ := late
  refine ⟨?_, behind⟩
  simp only [own, Bool.false_eq_true, touched]

private theorem FailsLate.sequence {contacts : List Contact} {error : Error}
    (late : FailsLate contacts error) (operation : Operation) (step total : Nat) :
    FailsLate contacts (.sequenceFailed operation step total error) := by
  obtain ⟨touched, own, behind⟩ := late
  refine ⟨touched, rfl, ?_⟩
  intro cause member
  rw [Error.causes, List.mem_cons, Cause.error.injEq] at member
  rcases member with rfl | member
  · exact own
  · exact behind cause member

private theorem failsFairly_rejected {error : Error} (rejected : error.isRejection = true) :
    FailsFairly [] error := by
  refine ⟨by simp [rejected], ?_⟩
  intro cause member
  rw [Error.causes_of_rejection rejected] at member
  cases member

private theorem failsLate_link {contacts : List Contact} (touched : contacts ≠ []) (opcode : UInt8)
    (cause : LinkError) : FailsLate contacts (.transportFailed opcode cause) := by
  refine ⟨touched, rfl, ?_⟩
  simp [Error.causes]

private theorem failsLate_decode {contacts : List Contact} (touched : contacts ≠ []) {report : List UInt8}
    {error : Error} (failed : decode report = .error error) : FailsLate contacts error := by
  unfold decode at failed
  repeat' split at failed
  all_goals cases failed
  all_goals exact ⟨touched, rfl, by simp [Error.causes]⟩

def Rejects (result : Except Error α) : Prop :=
  ∀ error, result = .error error → error.isRejection = true

/-- From calls that satisfy a condition, a session that ends well leaves calls that satisfy another, and
one that ends with an error leaves calls and an error that satisfy a third. -/
def Session.Triple (before : List Contact → Prop) (session : Session (Traced σ) α)
    (after : List Contact → Prop) (fails : List Contact → Error → Prop) : Prop :=
  ∀ start, before start.contacts →
    (∀ value left, session start = (.ok value, left) → after left.contacts) ∧
    ∀ error left, session start = (.error (.failed error), left) → fails left.contacts error

namespace Session

/-- An error of a session is a rejection exactly if the session made no call. -/
def Fair (session : Session (Traced σ) α) : Prop :=
  Triple (· = []) session (fun _ => True) FailsFairly

variable {before between after other : List Contact → Prop} {fails : List Contact → Error → Prop}

namespace Triple

theorem bind {first : Session (Traced σ) α} {next : α → Session (Traced σ) β}
    (begins : Triple before first between fails)
    (rest : ∀ value, Triple between (next value) after fails) :
    Triple before (first >>= next) after fails := by
  intro start holds
  obtain ⟨passes, stops⟩ := begins start holds
  rcases ran : first start with ⟨halt | value, left⟩
  · rw [bind_error ran]
    refine ⟨fun value left wrong => (by cases wrong), ?_⟩
    rintro error left same
    cases same
    exact stops error left ran
  · rw [bind_ok ran]
    exact rest value left (passes value left ran)

theorem result {result : Except Halt α}
    (fine : ∀ error contacts, result = .error (.failed error) → before contacts →
      fails contacts error) :
    Triple before (fun state : Traced σ => (result, state)) before fails := by
  intro start holds
  refine ⟨?_, ?_⟩
  · intro value left same
    cases same
    exact holds
  · intro error left same
    cases same
    exact fine error _ rfl holds

theorem done (value : α) : Triple before (pure value : Session (Traced σ) α) (fun _ => True) fails :=
  fun _ _ => ⟨fun _ _ _ => trivial, fun _ _ wrong => (by cases wrong)⟩

theorem check {result : Except Error α}
    (fine : ∀ error contacts, result = .error error → before contacts → fails contacts error) :
    Triple before (Session.check result : Session (Traced σ) α) before fails := by
  refine Triple.result ?_
  intro error contacts failed holds
  cases result with
  | error cause =>
    cases failed
    exact fine error contacts rfl holds
  | ok value => cases failed

theorem guarded {result : Except Crash α} :
    Triple before (Session.guarded result : Session (Traced σ) α) before fails := by
  refine Triple.result ?_
  intro error contacts failed holds
  cases result <;> cases failed

private theorem weaken {session : Session (Traced σ) α} {strict : List Contact → Error → Prop}
    (triple : Triple before session between strict) (starts : ∀ contacts, other contacts → before contacts)
    (ends : ∀ contacts, between contacts → after contacts)
    (allows : ∀ contacts error, strict contacts error → fails contacts error) :
    Triple other session after fails := by
  intro start holds
  obtain ⟨passes, stops⟩ := triple start (starts _ holds)
  exact ⟨fun value left ran => ends _ (passes value left ran),
    fun error left ran => allows _ _ (stops error left ran)⟩

theorem within {session : Session (Traced σ) α} {operation : Operation} {step total : Nat}
    (triple : Triple before session after FailsLate) :
    Triple before (Session.within (.sequenceFailed operation step total) session) after FailsLate := by
  intro start holds
  obtain ⟨passes, stops⟩ := triple start holds
  rcases ran : session start with ⟨(error | crash) | value, left⟩
  · rw [within_failed _ ran]
    refine ⟨fun value left wrong => (by cases wrong), ?_⟩
    rintro cause left same
    cases same
    exact (stops error left ran).sequence operation step total
  · simp only [Session.within, ran]
    refine ⟨fun value left wrong => (by cases wrong), fun error left wrong => (by cases wrong)⟩
  · rw [within_ok _ ran]
    refine ⟨?_, fun error left wrong => (by cases wrong)⟩
    rintro value left same
    cases same
    exact passes value left ran

theorem fair {session : Session (Traced σ) α}
    (triple : Triple (fun _ => True) session after FailsLate) : Fair session :=
  triple.weaken (fun _ _ => trivial) (fun _ _ => trivial) (fun _ _ late => late.fairly)

theorem call (opcode : UInt8) {answer : Traced σ → Except LinkError α × Traced σ}
    (logged : ∀ state, (answer state).2.contacts ≠ []) :
    Triple before (Session.call opcode answer) (· ≠ []) FailsLate := by
  intro start _
  have touched := logged start
  rcases called : answer start with ⟨cause | value, next⟩
  · rw [called] at touched
    simp only [Session.call, called, mapError_error]
    refine ⟨fun value left wrong => (by cases wrong), ?_⟩
    rintro error left same
    cases same
    exact failsLate_link touched opcode cause
  · rw [called] at touched
    simp only [Session.call, called, mapError_ok]
    refine ⟨?_, fun error left wrong => (by cases wrong)⟩
    rintro value left same
    cases same
    exact touched

end Triple

private theorem Fair.checked {result : Except Error α} {next : α → Session (Traced σ) β}
    (rejects : Rejects result) (rest : ∀ value, Fair (next value)) :
    Fair (Session.check result >>= next) := by
  refine (Triple.check ?_).bind rest
  rintro error _ failed rfl
  exact failsFairly_rejected (rejects error failed)

private theorem fail_fair {error : Error} (rejected : error.isRejection = true) :
    Fair (Session.fail error : Session (Traced σ) α) := by
  have triple : Triple (· = []) (Session.fail error : Session (Traced σ) α) (· = []) FailsFairly := by
    refine Triple.result ?_
    rintro _ _ failed rfl
    cases failed
    exact failsFairly_rejected rejected
  exact triple.weaken (fun _ same => same) (fun _ _ => trivial) (fun _ _ fair => fair)

end Session

theorem rejects_if {accepted : Prop} [Decidable accepted] {value : α} {error : Error}
    (rejected : error.isRejection = true) :
    Rejects (if accepted then .ok value else .error error) := by
  intro cause failed
  split at failed
  · cases failed
  · cases failed
    exact rejected

theorem rejects_unless {refused : Prop} [Decidable refused] {value : α} {error : Error}
    (rejected : error.isRejection = true) :
    Rejects (if refused then .error error else .ok value) := by
  intro cause failed
  split at failed
  · cases failed
    exact rejected
  · cases failed

private theorem Request.encode_rejects (request : Request) : Rejects request.encode := by
  intro error failed
  rcases (request.encode_error_iff error).mp failed with ⟨_, rfl⟩ | ⟨_, _, rfl⟩ <;> rfl

theorem DpiStep.ofCode_rejects (code : UInt8) : Rejects (DpiStep.ofCode code) := by
  intro error failed
  unfold DpiStep.ofCode at failed
  split at failed
  · cases failed
  · cases failed
    rfl

theorem Save.Strategy.ofCode_rejects (code : UInt8) : Rejects (Save.Strategy.ofCode code) := by
  intro error failed
  unfold Save.Strategy.ofCode at failed
  split at failed
  · cases failed
  · cases failed
    rfl

private theorem rejects_payload (length unit : Nat) (error : Error) (contacts : List Contact)
    (failed : checkPayloadLength length unit = .error (.failed error)) (untouched : contacts = []) :
    FailsFairly contacts error := by
  subst untouched
  unfold checkPayloadLength at failed
  repeat' split at failed
  all_goals cases failed
  all_goals exact failsFairly_rejected rfl

theorem Request.read_fits (opcode : UInt8) : (Request.read opcode).Fits := Nat.zero_le _

open Session

private theorem Link.traced_write_logged (link : Link σ) (device : Device) (id : UInt8)
    (report : List UInt8) (state : Traced σ) :
    (link.traced.write device id report state).2.contacts ≠ [] := by
  simp [Link.traced]

private theorem Link.traced_read_logged (link : Link σ) (device : Device) (id : UInt8) (length : Nat)
    (state : Traced σ) : (link.traced.read device id length state).2.contacts ≠ [] := by
  simp [Link.traced]

section Operations
variable (link : Link σ) (device : Device) {before : List Contact → Prop}

private theorem exchange_triple (opcode : UInt8) (report : List UInt8) :
    Triple before (do
      Session.call opcode (link.traced.write device reportId report)
      let answer ← Session.call opcode (link.traced.read device reportId packetLength)
      Session.check (decode answer)) (· ≠ []) FailsLate := by
  refine (Triple.call _ (link.traced_write_logged device reportId report)).bind fun _ => ?_
  refine (Triple.call _ (link.traced_read_logged device reportId packetLength)).bind fun answer => ?_
  exact Triple.check fun error contacts failed touched => failsLate_decode touched failed

private theorem execute_triple {request : Request} (fits : request.Fits) :
    Triple before (execute link.traced device request) (· ≠ []) FailsLate := by
  rw [execute_eq]
  refine (Triple.check ?_).bind fun report => exchange_triple link device request.opcode report
  intro error contacts failed
  rw [Request.encode_of_fits fits] at failed
  cases failed

private theorem execute_fair (request : Request) : Fair (execute link.traced device request) := by
  rw [execute_eq]
  exact Fair.checked request.encode_rejects fun report =>
    (exchange_triple link device request.opcode report).fair

private theorem exchangeAll_triple {requests : List Request} (fits : ∀ request ∈ requests, request.Fits) :
    Triple before (exchangeAll link.traced device requests) (fun _ => True) FailsLate := by
  induction requests generalizing before with
  | nil => exact Triple.done ()
  | cons request rest ih =>
    exact (execute_triple link device (fits request (by simp))).bind fun _ =>
      ih fun other member => fits other (by simp [member])

private theorem setRegister_triple (opcode : UInt8) {payload : List UInt8} (short : payload.length ≤ 64) :
    Triple before (setRegister link.traced device opcode payload) (fun _ => True) FailsLate := by
  have fits : (Request.write opcode payload).Fits := by
    rw [Request.Fits, regionLength_eq]
    simpa [Request.write] using short
  exact (execute_triple link device fits).bind fun _ => Triple.done ()

private theorem getRegister_triple (opcode : UInt8) :
    Triple before (getRegister link.traced device opcode) (· ≠ []) FailsLate :=
  (execute_triple link device (Request.read_fits opcode)).bind fun _ => Triple.guarded

namespace Flash

private theorem readEight_triple (address : UInt16) :
    Triple before (readEight link.traced device address) (· ≠ []) FailsLate := by
  have fits : (Request.query Opcode.flashRead8 (wordBytes address)).Fits := by
    rw [Request.Fits, regionLength_eq]
    simp [Request.query]
  exact (execute_triple link device fits).bind fun _ => Triple.guarded

private theorem readDwords_fair (address : UInt32) (count : UInt8) :
    Fair (readDwords link.traced device address count) := by
  refine Fair.checked (rejects_unless rfl) fun count => ?_
  have fits : (Request.query Opcode.flashReadDwords (dwordBytes address ++ [count])).Fits := by
    rw [Request.Fits, regionLength_eq]
    simp [Request.query, dwordBytes]
  exact ((execute_triple link device fits).bind fun _ => Triple.guarded).fair

private theorem sendWords_triple (address : UInt16) (index : Nat) {chunks : List (List UInt8)}
    (short : ∀ chunk ∈ chunks, chunk.length ≤ 56) :
    Triple before (sendWords link.traced device address index chunks) (fun _ => True) FailsLate := by
  induction chunks generalizing index before with
  | nil => exact Triple.done ()
  | cons chunk rest ih =>
    rw [sendWords_cons]
    refine Triple.guarded.bind fun start => ?_
    refine (execute_triple link device (wordsPayload_fits (short chunk (by simp)))).bind fun _ => ?_
    exact ih (index + 1) fun other member => short other (by simp [member])

private theorem sendDwords_triple (address : UInt32) (index : Nat) {chunks : List (List UInt8)}
    (short : ∀ chunk ∈ chunks, chunk.length ≤ 56) :
    Triple before (sendDwords link.traced device address index chunks) (fun _ => True) FailsLate := by
  induction chunks generalizing index before with
  | nil => exact Triple.done ()
  | cons chunk rest ih =>
    rw [sendDwords_cons]
    refine Triple.guarded.bind fun start => ?_
    refine (execute_triple link device (dwordsPayload_fits (short chunk (by simp)))).bind fun _ => ?_
    exact ih (index + 1) fun other member => short other (by simp [member])

private theorem compareWords_fault {address : UInt16} {actual : List UInt8} {index : Nat}
    {wanted : List (List UInt8)} {error : Error}
    (failed : compareWords address actual index wanted = .error (.failed error)) :
    ∃ place expected found, error = .flashVerifyMismatch place expected found := by
  induction wanted generalizing index with
  | nil => cases failed
  | cons word rest ih =>
    rw [compareWords] at failed
    split at failed
    · split at failed
      · exact ih failed
      · split at failed
        · cases failed
          exact ⟨_, _, _, rfl⟩
        · cases failed
    · cases failed
    · cases failed

private theorem checkBlock_triple (start : UInt16) (block : List UInt8) :
    Triple before (checkBlock link.traced device start block) (· ≠ []) FailsLate := by
  refine (readEight_triple link device start).bind fun actual => Triple.result ?_
  intro error contacts failed touched
  obtain ⟨place, expected, found, rfl⟩ := compareWords_fault failed
  exact ⟨touched, rfl, by simp [Error.causes]⟩

private theorem verifyBlocks_triple (address : UInt16) (total index : Nat) (blocks : List (List UInt8)) :
    Triple before (verifyBlocks link.traced device address total index blocks) (fun _ => True)
      FailsLate := by
  induction blocks generalizing index before with
  | nil => exact Triple.done ()
  | cons block rest ih =>
    refine Triple.guarded.bind fun start => ?_
    exact (checkBlock_triple link device start block).within.bind fun _ => ih (index + 1)

private theorem verifyIf_triple (address : UInt16) (data : List UInt8) (verify : Bool) :
    Triple before (if verify then verifyWords link.traced device address data else pure ())
      (fun _ => True) FailsLate := by
  cases verify with
  | false => exact Triple.done ()
  | true => exact verifyBlocks_triple link device address _ 0 _

private theorem writeWords_fair (address : UInt16) (data : List UInt8) (verify : Bool) :
    Fair (writeWords link.traced device address data verify) := by
  -- The count of words is kept in 32 bits, so that passing the checks does not make a range.
  refine (Triple.result (rejects_payload data.length wordLength)).bind fun count => ?_
  refine Triple.guarded.bind fun stop => ?_
  split
  · exact fail_fair rfl
  · refine ((sendWords_triple link device address 0 fun chunk member => ?_).bind fun _ =>
      verifyIf_triple link device address data verify).fair
    exact length_of_mem_pieces (by decide) member

private theorem writeWords_triple {address : UInt16} {data : List UInt8} (range : WordRange address data)
    (verify : Bool) :
    Triple before (writeWords link.traced device address data verify) (fun _ => True) FailsLate := by
  rw [writeWords_eq link.traced device range verify]
  exact (exchangeAll_triple link device (wordPackets_fit address data)).bind fun _ =>
    verifyIf_triple link device address data verify

theorem writeDwords_fair (address : UInt32) (data : List UInt8) :
    Fair (writeDwords link.traced device address data) := by
  refine (Triple.result (rejects_payload data.length dwordLength)).bind fun count => ?_
  split
  · exact fail_fair rfl
  · refine (sendDwords_triple link device address 0 fun chunk member => ?_).fair
    exact length_of_mem_pieces (by decide) member

theorem writeTable_triple {base : UInt16} {table : List UInt8} (room : base.toNat + 64 ≤ 0xFFFF)
    (size : table.length = tableLength) :
    Triple before (writeTable link.traced device base table) (fun _ => True) FailsLate := by
  rw [writeTable_eq link.traced room size]
  exact (writeWords_triple link device (table_range room size) true).bind fun _ =>
    writeWords_triple link device (signature_range base) true

private theorem writeTable_fair (base : UInt16) (table : List UInt8) :
    Fair (writeTable link.traced device base table) := by
  by_cases size : table.length = tableLength
  · by_cases room : base.toNat + 64 ≤ 0xFFFF
    · exact (writeTable_triple link device room size).fair
    · rw [writeTable_no_room link.traced size (Nat.not_le.mp room)]
      exact fail_fair rfl
  · rw [writeTable_wrong_size link.traced size]
    exact fail_fair rfl

end Flash

namespace Save

private theorem step_triple (sequence : Sequence) :
    Triple before (Deed.ending (sequence.step link.traced device)) (fun _ => True) FailsLate := by
  intro start holds
  refine ⟨fun _ _ _ => trivial, ?_⟩
  intro error left ran
  simp only [Deed.ending, step_apply] at ran
  cases next : sequence.next? with
  | none =>
    rw [next] at ran
    cases ran
  | some phase =>
    have fits : (Request.write Opcode.save (sequence.payload phase.1 phase.2)).Fits := by
      rw [Request.Fits, regionLength_eq]
      simp [Request.write, Sequence.payload]
    have fails := (execute_triple link device fits start holds).2
    rw [next] at ran
    simp only at ran
    rcases executed : execute link.traced device (.write Opcode.save
      (sequence.payload phase.1 phase.2)) start with ⟨(cause | crash) | region, after⟩
    · rw [executed] at ran
      cases ran
      exact (fails cause after executed).sequence .save _ _
    · rw [executed] at ran
      cases ran
    · rw [executed] at ran
      cases ran

private theorem runUpTo_triple (bound : Nat) (sequence : Sequence) :
    Triple before (Deed.ending (sequence.runUpTo link.traced device bound)) (fun _ => True)
      FailsLate := by
  induction bound generalizing sequence before with
  | zero => exact Triple.done ()
  | succ bound ih =>
    intro start holds
    refine ⟨fun _ _ _ => trivial, ?_⟩
    intro error left ran
    cases finished : sequence.progress.isTerminal with
    | true =>
      simp only [Deed.ending, runUpTo_terminal link.traced device finished] at ran
      cases ran
    | false =>
      have fails := (step_triple link device sequence start holds).2
      simp only [Deed.ending, runUpTo_succ link.traced device finished] at ran
      rcases stepped : sequence.step link.traced device start with ⟨⟨halt | reached, next⟩, after⟩
      · rw [stepped] at ran
        cases ran
        refine fails error after ?_
        simp only [Deed.ending, stepped]
      · rw [stepped] at ran
        exact (@ih (fun _ => True) next after trivial).2 error left ran

private theorem saveSettings_triple (strategy : Strategy) :
    Triple before (saveSettings link.traced device strategy) (fun _ => True) FailsLate := by
  rw [saveSettings_eq]
  exact runUpTo_triple link device _ (.start strategy)

end Save

/-- Every operation makes its checks before its first call. -/
theorem Deed.perform_fair (deed : Deed) : Fair (deed.perform link.traced device) := by
  cases deed with
  | execute request => exact execute_fair link device request
  | writeReport id data =>
    exact Fair.checked (rejects_if rfl) fun _ =>
      (Triple.call _ (link.traced_write_logged device id data)).fair
  | readReport id length =>
    exact Fair.checked (rejects_if rfl) fun _ =>
      (Triple.call _ (link.traced_read_logged device id length)).fair
  | setBacklight level =>
    exact Fair.checked (rejects_if rfl) fun _ => (setRegister_triple link device _ (by simp)).fair
  | getBacklight => exact (getRegister_triple link device _).fair
  | setCoreSlot slot =>
    exact Fair.checked (rejects_if rfl) fun _ => (setRegister_triple link device _ (by simp)).fair
  | getCoreSlot => exact (getRegister_triple link device _).fair
  | getCoreState =>
    exact ((execute_triple link device (Request.read_fits _)).bind fun _ => Triple.guarded).fair
  | setSledProfile index => exact (setRegister_triple link device _ (by simp)).fair
  | getSledProfile => exact (getRegister_triple link device _).fair
  | setSledEnabled enabled => exact (setRegister_triple link device _ (by simp)).fair
  | getSledEnabled =>
    exact ((getRegister_triple link device _).bind fun _ => Triple.done _).fair
  | stepDpi code opcode commit =>
    exact Fair.checked (DpiStep.ofCode_rejects code) fun _ =>
      (setRegister_triple link device _ (by simp)).fair
  | readEight address => exact (Flash.readEight_triple link device address).fair
  | readDwords address count => exact Flash.readDwords_fair link device address count
  | writeWords address data verify => exact Flash.writeWords_fair link device address data verify
  | writeDwords address data => exact Flash.writeDwords_fair link device address data
  | writeTable base table => exact Flash.writeTable_fair link device base table
  | save code =>
    exact Fair.checked (Save.Strategy.ofCode_rejects code) fun strategy =>
      (Save.saveSettings_triple link device strategy).fair
  | saveStep sequence => exact (Save.step_triple link device sequence).fair
  | saveRun sequence => exact (Save.runUpTo_triple link device _ sequence).fair

end Operations

/-- An operation that fails does so with a rejection exactly if it made no call on its link, and no
error behind the one it reports is a rejection. -/
theorem rejected_iff_untouched (link : Link σ) (device : Device) (deed : Deed) (state : σ) :
    ∃ (result : Except Halt deed.Reply) (left : σ) (contacts : List Contact),
      deed.perform link device state = (result, left) ∧
      deed.perform link.traced device ⟨state, []⟩ = (result, ⟨left, contacts⟩) ∧
      ∀ error, result = .error (.failed error) →
        (error.isRejection = true ↔ contacts = []) ∧
        ∀ cause, .error cause ∈ error.causes → cause.isRejection = false := by
  obtain ⟨same, kept⟩ := deed.perform_traced device link state []
  refine ⟨(deed.perform link device state).1, (deed.perform link device state).2,
    (deed.perform link.traced device ⟨state, []⟩).2.contacts, rfl, ?_, ?_⟩
  · rw [← same, ← kept]
    rfl
  · intro error failed
    exact (deed.perform_fair link device ⟨state, []⟩ rfl).2 error _ (Prod.ext (same.trans failed) rfl)

-- A table that leaves no room for its signature is turned down without a call. A save whose first
-- phase the mouse does not take fails with an error that is none, and so is the one behind it.
theorem rejected_untouched_table :
    let device : Device := ⟨0x09DA, 0x7F1B, "Bloody T50", "SN1"⟩
    let mouse := { Mouse.fresh with failWrites := [(0, .timeout "x")] }
    let table : Deed := .writeTable 0xFFC0 (List.replicate 128 0)
    let save : Deed := .saveRun (.start .quick)
    let lost : Error := .transportFailed Opcode.save (.timeout "x")
    (table.perform Mouse.link device mouse).1 =
        .error (.failed (.invalidFlashPayloadLength 130 2)) ∧
      (table.perform Mouse.link.traced device ⟨mouse, []⟩).2.contacts = [] ∧
      (save.perform Mouse.link device mouse).1 = .error (.failed (.sequenceFailed .save 1 1 lost)) ∧
      (save.perform Mouse.link.traced device ⟨mouse, []⟩).2.contacts ≠ [] ∧
      lost.isRejection = false := by
  intro device mouse table save lost
  have refused : (table.perform Mouse.link device mouse).1 =
      .error (.failed (.invalidFlashPayloadLength 130 2)) := by
    have size : (List.replicate 128 (0 : UInt8)).length = tableLength := List.length_replicate
    have full := @Flash.writeTable_no_room _ 0xFFC0 _ device Mouse.link size (by decide)
    rw [size] at full
    exact congrArg Prod.fst (congrFun full mouse)
  have failed : (save.perform Mouse.link device mouse).1 =
      .error (.failed (.sequenceFailed .save 1 1 lost)) := by with_unfolding_all rfl
  refine ⟨refused, ?_, failed, ?_⟩
  · obtain ⟨result, left, contacts, ran, traced, tells⟩ :=
      rejected_iff_untouched Mouse.link device table mouse
    rw [ran] at refused
    rw [traced]
    exact (tells _ refused).1.mp rfl
  · obtain ⟨result, left, contacts, ran, traced, tells⟩ :=
      rejected_iff_untouched Mouse.link device save mouse
    rw [ran] at failed
    rw [traced]
    obtain ⟨apart, behind⟩ := tells _ failed
    refine ⟨fun untouched => ?_, behind lost (by simp [Error.causes])⟩
    cases apart.mpr untouched

end MouseControl
