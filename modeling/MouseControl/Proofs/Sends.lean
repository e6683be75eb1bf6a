import MouseControl.Proofs.Deed
import MouseControl.Proofs.PacketCodec

/-! What an operation can send. Each operation has requests of its own, fixed by its kind and its checked
arguments, and makes no other write. So what outlasts these requests and the reads between them outlasts
the operation, however it ends. -/
namespace MouseControl
variable {σ α β : Type}

def Session.Keeps (property : σ → Prop) (session : Session σ α) : Prop :=
  ∀ state, property state → property (session state).2

/-- A property of the link's state outlasts the reads of answers and the writes of some requests. -/
structure Link.Keeps (link : Link σ) (device : Device) (property : σ → Prop)
    (allowed : Request → Prop) : Prop where
  write {request : Request} {state : σ} : allowed request → request.Fits → property state →
    property (link.write device reportId request.report state).2
  read {state : σ} : property state → property (link.read device reportId packetLength state).2

namespace Session
variable {property : σ → Prop}

private theorem keeps_result (result : Except Halt α) :
    Keeps property (fun state : σ => (result, state) : Session σ α) :=
  fun _ holds => holds

theorem Keeps.bind {first : Session σ α} {next : α → Session σ β} (begins : Keeps property first)
    (rest : ∀ value, Keeps property (next value)) : Keeps property (first >>= next) := by
  intro state holds
  have kept := begins state holds
  rcases ran : first state with ⟨halt | value, left⟩
  · rw [ran] at kept
    rw [bind_error ran]
    exact kept
  · rw [ran] at kept
    rw [bind_ok ran]
    exact rest value left kept

private theorem keeps_checked {result : Except Error α} {next : α → Session σ β}
    (rest : ∀ value, result = .ok value → Keeps property (next value)) :
    Keeps property (check result >>= next) := by
  intro state holds
  cases result with
  | error error => exact holds
  | ok value => exact rest value rfl state holds

theorem Keeps.within {session : Session σ α} (kept : Keeps property session)
    (context : Error → Error) : Keeps property (within context session) := by
  intro state holds
  exact kept state holds

end Session

open Session
variable {link : Link σ} {device : Device} {property : σ → Prop} {allowed : Request → Prop}

private theorem execute_keeps (links : link.Keeps device property allowed) {request : Request}
    (fine : allowed request) : Keeps property (execute link device request) := by
  rw [execute_eq]
  apply keeps_checked
  intro report encoded
  obtain ⟨fits, rfl⟩ := (request.encode_ok_iff report).mp encoded
  have writes : Keeps property (call request.opcode (link.write device reportId request.report)) :=
    fun state holds => links.write fine fits holds
  have reads : Keeps property (call request.opcode (link.read device reportId packetLength)) :=
    fun state holds => links.read holds
  exact writes.bind fun _ => reads.bind fun _ => keeps_result _

private theorem setRegister_keeps (links : link.Keeps device property allowed) {opcode : UInt8}
    {payload : List UInt8} (fine : allowed (.write opcode payload)) :
    Keeps property (setRegister link device opcode payload) :=
  (execute_keeps links fine).bind fun _ => keeps_result _

private theorem getRegister_keeps (links : link.Keeps device property allowed) {opcode : UInt8}
    (fine : allowed (.read opcode)) : Keeps property (getRegister link device opcode) :=
  (execute_keeps links fine).bind fun _ => keeps_result _

namespace Flash

private theorem readEight_keeps (links : link.Keeps device property allowed)
    (fine : ∀ request : Request, request.opcode = Opcode.flashRead8 → allowed request)
    (address : UInt16) : Keeps property (readEight link device address) :=
  (execute_keeps links (fine _ rfl)).bind fun _ => keeps_result _

private theorem sendWords_keeps (links : link.Keeps device property allowed)
    (fine : ∀ request : Request, request.opcode = Opcode.flashWriteWords → allowed request)
    (address : UInt16) (index : Nat) (chunks : List (List UInt8)) :
    Keeps property (sendWords link device address index chunks) := by
  induction chunks generalizing index with
  | nil => exact keeps_result _
  | cons chunk rest ih =>
    refine Keeps.bind (keeps_result _) fun start => ?_
    exact (execute_keeps links (fine _ rfl)).bind fun _ => ih (index + 1)

private theorem sendDwords_keeps (links : link.Keeps device property allowed)
    (fine : ∀ request : Request, request.opcode = Opcode.flashWriteDwords → allowed request)
    (address : UInt32) (index : Nat) (chunks : List (List UInt8)) :
    Keeps property (sendDwords link device address index chunks) := by
  induction chunks generalizing index with
  | nil => exact keeps_result _
  | cons chunk rest ih =>
    refine Keeps.bind (keeps_result _) fun start => ?_
    exact (execute_keeps links (fine _ rfl)).bind fun _ => ih (index + 1)

private theorem verifyBlocks_keeps (links : link.Keeps device property allowed)
    (fine : ∀ request : Request, request.opcode = Opcode.flashRead8 → allowed request)
    (address : UInt16) (total index : Nat) (blocks : List (List UInt8)) :
    Keeps property (verifyBlocks link device address total index blocks) := by
  induction blocks generalizing index with
  | nil => exact keeps_result _
  | cons block rest ih =>
    refine Keeps.bind (keeps_result _) fun start => ?_
    have block : Keeps property (do
        let actual ← readEight link device start
        ExceptT.mk (pure (compareWords start actual 0 (pieces wordLength block)))) :=
      (readEight_keeps links fine start).bind fun _ => keeps_result _
    exact (block.within _).bind fun _ => ih (index + 1)

private theorem writeWords_keeps (links : link.Keeps device property allowed)
    (fine : ∀ request : Request, request.opcode = Opcode.flashWriteWords ∨
      request.opcode = Opcode.flashRead8 → allowed request)
    (address : UInt16) (data : List UInt8) (verify : Bool) :
    Keeps property (writeWords link device address data verify) := by
  refine Keeps.bind (keeps_result _) fun count => ?_
  refine Keeps.bind (keeps_result _) fun stop => ?_
  split
  · exact keeps_result _
  · refine (sendWords_keeps links (fun request same => fine request (.inl same)) address 0 _).bind
      fun _ => ?_
    cases verify with
    | false => exact keeps_result _
    | true => exact verifyBlocks_keeps links (fun request same => fine request (.inr same)) address _ 0 _

end Flash

namespace Save

private theorem step_keeps (links : link.Keeps device property allowed)
    (fine : ∀ request : Request, request.opcode = Opcode.save → allowed request) (sequence : Sequence) :
    ∀ state, property state → property (sequence.step link device state).2 := by
  intro state holds
  rw [step_apply]
  cases sequence.next? with
  | none => exact holds
  | some next =>
    obtain ⟨index, phase⟩ := next
    have kept := execute_keeps links
      (fine (.write Opcode.save (sequence.payload index phase)) rfl) state holds
    simp only
    rcases executed : execute link device (.write Opcode.save (sequence.payload index phase)) state
      with ⟨(error | crash) | region, left⟩
    all_goals
      rw [executed] at kept
      exact kept

private theorem runUpTo_keeps (links : link.Keeps device property allowed)
    (fine : ∀ request : Request, request.opcode = Opcode.save → allowed request) (bound : Nat)
    (sequence : Sequence) : Keeps property (Deed.ending (sequence.runUpTo link device bound)) := by
  induction bound generalizing sequence with
  | zero => exact keeps_result _
  | succ bound ih =>
    intro state holds
    cases finished : sequence.progress.isTerminal with
    | true =>
      simp only [Deed.ending, runUpTo_terminal link device finished]
      exact holds
    | false =>
      have kept := step_keeps links fine sequence state holds
      simp only [Deed.ending, runUpTo_succ link device finished]
      rcases stepped : sequence.step link device state with ⟨⟨halt | reached, next⟩, left⟩
      · rw [stepped] at kept
        exact kept
      · rw [stepped] at kept
        exact ih next left kept

end Save

namespace Deed

/-- Whether an operation is more than a raw exchange or a raw report. -/
def isTyped : Deed → Bool
  | execute _ | writeReport .. | readReport .. => false
  | _ => true

def Sends : Deed → Request → Prop
  | setBacklight level, request => level ≤ backlightMax ∧ request = .write Opcode.backlight [level]
  | setCoreSlot slot, request => slot ≤ coreSlotMax ∧ request = .write Opcode.coreSlot [slot]
  | setSledProfile index, request => request = .write Opcode.sledProfile [index]
  | setSledEnabled enabled, request =>
    request = .write Opcode.sledEnable [if enabled then 1 else 0]
  | stepDpi code opcode commit, request =>
    code ≤ 2 ∧ request = .write opcode [code, if commit then 1 else 0]
  | getBacklight, request => request = .read Opcode.backlight
  | getCoreSlot, request => request = .read Opcode.coreSlot
  | getCoreState, request => request = .read Opcode.coreState
  | getSledProfile, request => request = .read Opcode.sledProfile
  | getSledEnabled, request => request = .read Opcode.sledEnable
  | readEight _, request => request.opcode = Opcode.flashRead8
  | readDwords .., request => request.opcode = Opcode.flashReadDwords
  | writeWords .., request | writeTable .., request =>
    request.opcode = Opcode.flashWriteWords ∨ request.opcode = Opcode.flashRead8
  | writeDwords .., request => request.opcode = Opcode.flashWriteDwords
  | save _, request | saveStep _, request | saveRun _, request => request.opcode = Opcode.save
  | execute _, _ | writeReport .., _ | readReport .., _ => True

end Deed

private theorem bounded_ok {value passed bound : UInt8} {error : Error}
    (ok : (if value ≤ bound then Except.ok value else .error error) = .ok passed) :
    passed = value ∧ value ≤ bound := by
  split at ok
  · rename_i allowed
    cases ok
    exact ⟨rfl, allowed⟩
  · cases ok

private theorem checkBacklight_ok {level value : UInt8} (passed : checkBacklight level = .ok value) :
    value = level ∧ level ≤ backlightMax :=
  bounded_ok passed

private theorem checkCoreSlot_ok {slot value : UInt8} (passed : checkCoreSlot slot = .ok value) :
    value = slot ∧ slot ≤ coreSlotMax :=
  bounded_ok passed

private theorem DpiStep.code_of_ofCode {code : UInt8} {step : DpiStep}
    (known : DpiStep.ofCode code = .ok step) :
    step.code = code ∧ code ≤ 2 := by
  unfold DpiStep.ofCode at known
  split at known
  · rename_i found
    cases known
    have same : step.code = code := by simpa using List.find?_some found
    refine ⟨same, ?_⟩
    rw [← same]
    cases step <;> decide
  · cases known

theorem Deed.perform_keeps {deed : Deed} (typed : deed.isTyped = true)
    (links : link.Keeps device property deed.Sends) :
    Session.Keeps property (deed.perform link device) := by
  cases deed with
  | execute request => cases typed
  | writeReport id data => cases typed
  | readReport id length => cases typed
  | setBacklight level =>
    apply keeps_checked
    intro value passed
    obtain ⟨rfl, allowed⟩ := checkBacklight_ok passed
    exact setRegister_keeps links ⟨allowed, rfl⟩
  | setCoreSlot slot =>
    apply keeps_checked
    intro value passed
    obtain ⟨rfl, allowed⟩ := checkCoreSlot_ok passed
    exact setRegister_keeps links ⟨allowed, rfl⟩
  | stepDpi code opcode commit =>
    apply keeps_checked
    intro step known
    obtain ⟨rfl, small⟩ := DpiStep.code_of_ofCode known
    exact setRegister_keeps links ⟨small, rfl⟩
  | setSledProfile index => exact setRegister_keeps links rfl
  | setSledEnabled enabled => exact setRegister_keeps links rfl
  | getBacklight => exact getRegister_keeps links rfl
  | getCoreSlot => exact getRegister_keeps links rfl
  | getCoreState => exact (execute_keeps links rfl).bind fun _ => keeps_result _
  | getSledProfile => exact getRegister_keeps links rfl
  | getSledEnabled => exact (getRegister_keeps links rfl).bind fun _ => keeps_result _
  | readEight address => exact Flash.readEight_keeps links (fun _ same => same) address
  | readDwords address count =>
    apply keeps_checked
    intro count _
    refine (execute_keeps links ?_).bind fun _ => keeps_result _
    rfl
  | writeWords address data verify =>
    exact Flash.writeWords_keeps links (fun _ same => same) address data verify
  | writeDwords address data =>
    refine Keeps.bind (keeps_result _) fun count => ?_
    split
    · exact keeps_result _
    · exact Flash.sendDwords_keeps links (fun _ same => same) address 0 _
  | writeTable base table =>
    refine Keeps.bind (keeps_result _) fun _ => ?_
    split
    · exact keeps_result _
    · exact (Flash.writeWords_keeps links (fun _ same => same) _ _ _).bind fun _ =>
        Flash.writeWords_keeps links (fun _ same => same) _ _ _
  | save code =>
    apply keeps_checked
    intro strategy _
    rw [Save.saveSettings_eq]
    exact Save.runUpTo_keeps links (fun _ same => same) _ (.start strategy)
  | saveStep sequence =>
    intro state holds
    exact Save.step_keeps links (fun _ same => same) sequence state holds
  | saveRun sequence => exact Save.runUpTo_keeps links (fun _ same => same) _ sequence

structure Turn where
  device : Device
  deed : Deed

namespace Turn

def play (link : Link σ) (state : σ) (turn : Turn) : σ :=
  (turn.deed.perform link turn.device state).2

theorem foldl_play_keeps {turns : List Turn} {state : σ}
    (each : ∀ turn ∈ turns, ∀ state, property state → property (turn.play link state))
    (holds : property state) : property (turns.foldl (play link) state) := by
  induction turns generalizing state with
  | nil => exact holds
  | cons turn rest ih =>
    apply ih
    · intro other member
      exact each other (by simp [member])
    · exact each turn (by simp) state holds

end Turn

end MouseControl
