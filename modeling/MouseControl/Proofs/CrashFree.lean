import MouseControl.Proofs.DwordPackets
import MouseControl.Proofs.ReadBack
import MouseControl.Proofs.Deed
import MouseControl.Proofs.Table

/-! Operations that never crash. An answer has the length of its region, so that no access to it goes
past the end, and the ranges that pass the checks keep every sum inside its width. The one exception is
a write of so many words that their count leaves 32 bits. -/
namespace MouseControl
variable {σ α β : Type}

def Session.CrashFree (session : Session σ α) : Prop :=
  ∀ state crash, (session state).1 ≠ .error (.crashed crash)

namespace Session

theorem CrashFree.bind {first : Session σ α} {next : α → Session σ β} (begins : CrashFree first)
    (rest : ∀ value state left, first state = (.ok value, left) → CrashFree (next value)) :
    CrashFree (first >>= next) := by
  intro state crash
  have fine := begins state crash
  rcases ran : first state with ⟨halt | value, left⟩
  · rw [bind_error ran]
    rw [ran] at fine
    intro same
    cases same
    exact fine rfl
  · rw [bind_ok ran]
    exact rest value state left ran left crash

private theorem CrashFree.returns {session : Session σ α} (fine : CrashFree session) (state : σ) :
    ∃ (result : Except Error α) (left : σ), session state = (result.mapError .failed, left) := by
  rcases ran : session state with ⟨(error | crash) | value, left⟩
  · exact ⟨.error error, left, rfl⟩
  · exact absurd (congrArg Prod.fst ran) (fine state crash)
  · exact ⟨.ok value, left, rfl⟩

theorem crashFree_pure (value : α) : CrashFree (pure value : Session σ α) := by
  intro state crash same
  cases same

private theorem crashFree_fail (error : Error) : CrashFree (fail error : Session σ α) := by
  intro state crash same
  cases same

private theorem crashFree_check (result : Except Error α) : CrashFree (check result : Session σ α) := by
  intro state crash same
  cases result <;> cases same

theorem crashFree_guarded {result : Except Crash α} {value : α} (fine : result = .ok value) :
    CrashFree (guarded result : Session σ α) := by
  subst fine
  intro state crash same
  cases same

private theorem crashFree_call (opcode : UInt8) (answer : σ → Except LinkError α × σ) :
    CrashFree (call opcode answer) := by
  intro state crash same
  simp only [call] at same
  cases answered : (answer state).1 <;> rw [answered] at same <;> cases same

end Session

open Session
section Operations
variable (link : Link σ) (device : Device)

private theorem execute_crashFree (request : Request) : CrashFree (execute link device request) := by
  intro state crash
  obtain ⟨outcome, left, ran⟩ := execute_outcome link device request state
  rw [ran]
  intro same
  cases outcome <;> cases same

theorem exchange_crashFree (request : Request) {next : List UInt8 → Session σ α}
    (rest : ∀ region, region.length = 64 → CrashFree (next region)) :
    CrashFree (execute link device request >>= next) :=
  (execute_crashFree link device request).bind fun region _ _ ran => rest region (execute_length ran)

private theorem exchangeAll_crashFree (requests : List Request) :
    CrashFree (exchangeAll link device requests) := by
  induction requests with
  | nil => exact crashFree_pure ()
  | cons request rest ih => exact exchange_crashFree link device request fun _ _ => ih

private theorem setRegister_crashFree (opcode : UInt8) (payload : List UInt8) :
    CrashFree (setRegister link device opcode payload) :=
  exchange_crashFree link device _ fun _ _ => crashFree_pure ()

private theorem getRegister_crashFree (opcode : UInt8) : CrashFree (getRegister link device opcode) := by
  refine exchange_crashFree link device _ fun region long => ?_
  have inside : 0 < region.length := by omega
  exact crashFree_guarded (byteAt_ok inside)

private theorem getCoreState_crashFree : CrashFree (getCoreState link device) := by
  refine exchange_crashFree link device _ fun region long => ?_
  have block : CoreState.ofRegion region = .ok ⟨region[0], region[1], region[2],
      wordOf region[4] region[5]⟩ := by
    rw [CoreState.ofRegion]
    repeat rw [byteAt_ok (by omega)]
    rfl
  exact crashFree_guarded block

namespace Flash

theorem readEight_crashFree (address : UInt16) : CrashFree (readEight link device address) := by
  refine exchange_crashFree link device _ fun region long => ?_
  exact crashFree_guarded (eightBytes_ok (by omega))

private theorem readDwords_crashFree (address : UInt32) (count : UInt8) :
    CrashFree (readDwords link device address count) := by
  refine (crashFree_check _).bind fun count _ _ allowed => ?_
  have few : count.toNat ≤ 14 := by
    simp only [Session.check, checkDwordCount] at allowed
    split at allowed
    · cases allowed
    · rename_i within
      cases allowed
      exact Nat.not_lt.mp fun many => within (.inr (UInt8.lt_iff_toNat_lt.mpr many))
  refine exchange_crashFree link device _ fun region long => ?_
  refine crashFree_guarded (slice_ok ?_)
  change 8 + count.toNat * 4 ≤ region.length
  omega

private theorem verifyWords_crashFree {address : UInt16} {data : List UInt8}
    (range : WordRange address data) :
    CrashFree (verifyWords link device address data) := by
  intro state crash
  obtain ⟨outcomes, result, left, ran, _, verdict⟩ := verifyWords_verdict link device range state
  rw [ran]
  rcases verdict.ends with rfl | ⟨error, rfl, _⟩ <;> exact fun same => (by cases same)

theorem writeWords_crashFree (address : UInt16) {data : List UInt8} (short : data.length ≤ 0x1FFFE0000)
    (verify : Bool) : CrashFree (writeWords link device address data verify) := by
  by_cases range : WordRange address data
  · rw [writeWords_eq link device range verify]
    refine (exchangeAll_crashFree link device _).bind fun _ _ _ _ => ?_
    cases verify with
    | false => exact crashFree_pure ()
    | true => exact verifyWords_crashFree link device range
  · rw [writeWords_refused link device range short verify]
    exact crashFree_fail _

private theorem writeDwords_crashFree (address : UInt32) (data : List UInt8) :
    CrashFree (writeDwords link device address data) := by
  by_cases range : DwordRange address data
  · rw [writeDwords_eq link device range]
    exact exchangeAll_crashFree link device _
  · rw [writeDwords_refused link device range]
    exact crashFree_fail _

private theorem writeTable_crashFree (base : UInt16) (table : List UInt8) :
    CrashFree (writeTable link device base table) := by
  by_cases size : table.length = tableLength
  · by_cases room : base.toNat + 64 ≤ 0xFFFF
    · rw [writeTable_eq link room size]
      have short : table.length ≤ 0x1FFFE0000 := by
        rw [size]
        decide
      exact (writeWords_crashFree link device base short true).bind fun _ _ _ _ =>
        writeWords_crashFree link device _ (by decide) true
    · rw [writeTable_no_room link size (Nat.not_le.mp room)]
      exact crashFree_fail _
  · rw [writeTable_wrong_size link size]
    exact crashFree_fail _

end Flash

namespace Save

private theorem step_crashFree (sequence : Sequence) :
    CrashFree (Deed.ending (sequence.step link device)) := by
  intro state crash same
  simp only [Deed.ending, step_apply] at same
  cases next : sequence.next? with
  | none =>
    rw [next] at same
    cases same
  | some phase =>
    have fine := execute_crashFree link device
      (.write Opcode.save (sequence.payload phase.1 phase.2)) state
    rw [next] at same
    simp only at same
    rcases executed : execute link device (.write Opcode.save
      (sequence.payload phase.1 phase.2)) state with ⟨(error | other) | region, after⟩
    · rw [executed] at same
      cases same
    · rw [executed] at fine
      exact fine other rfl
    · rw [executed] at same
      cases same

private theorem runUpTo_crashFree (bound : Nat) (sequence : Sequence) :
    CrashFree (Deed.ending (sequence.runUpTo link device bound)) := by
  induction bound generalizing sequence with
  | zero => exact crashFree_pure ()
  | succ bound ih =>
    intro state crash same
    cases finished : sequence.progress.isTerminal with
    | true =>
      simp only [Deed.ending, runUpTo_terminal link device finished] at same
      cases same
    | false =>
      have fine := step_crashFree link device sequence state
      simp only [Deed.ending, runUpTo_succ link device finished] at same
      rcases stepped : sequence.step link device state with ⟨⟨halt | reached, next⟩, after⟩
      · rw [stepped] at same
        cases same
        refine fine crash ?_
        simp only [Deed.ending, stepped]
      · rw [stepped] at same
        exact ih next after crash same

private theorem run_finishes (strategy : Strategy) (acts : List Act) (state : σ) :
    ∃ (sequence next : Sequence) (before after : Traced σ) (result : Except Error Unit),
      performAll link.traced device acts (.start strategy) ⟨state, []⟩ = (sequence, before) ∧
      sequence.run link.traced device before = ((result.mapError .failed, next), after) ∧
      next.progress.isTerminal = true := by
  obtain ⟨sequence, left, contacts, outcomes, performed, kept⟩ :=
    performAll_kept link device (kept_start strategy) acts state
  have enough : strategy.stepCount ≤ ([] ++ outcomes).length + sequence.total := by
    rw [Sequence.total, kept.same]
    omega
  obtain ⟨ended, next, after, made, more, ran, _, _, finished⟩ :=
    runUpTo_kept link device kept enough left
  obtain ⟨result, _, returned⟩ :=
    (runUpTo_crashFree link.traced device sequence.total sequence).returns ⟨left, [] ++ contacts⟩
  have same : ended = result.mapError .failed := by
    simp only [Deed.ending, ran] at returned
    exact congrArg Prod.fst returned
  subst same
  exact ⟨sequence, next, _, _, result, performed, ran, finished⟩

end Save

/-- Whether the words of a write can be counted from any address in 32 bits. -/
def Deed.Countable : Deed → Prop
  | writeWords _ data _ => data.length ≤ 0x1FFFE0000
  | _ => True

theorem Deed.perform_crashFree (deed : Deed) (countable : deed.Countable) :
    CrashFree (deed.perform link device) := by
  cases deed with
  | execute request => exact execute_crashFree link device request
  | writeReport id data => exact (crashFree_check _).bind fun _ _ _ _ => crashFree_call _ _
  | readReport id length => exact (crashFree_check _).bind fun _ _ _ _ => crashFree_call _ _
  | setBacklight level =>
    exact (crashFree_check _).bind fun _ _ _ _ => setRegister_crashFree link device _ _
  | getBacklight => exact getRegister_crashFree link device _
  | setCoreSlot slot =>
    exact (crashFree_check _).bind fun _ _ _ _ => setRegister_crashFree link device _ _
  | getCoreSlot => exact getRegister_crashFree link device _
  | getCoreState => exact getCoreState_crashFree link device
  | setSledProfile index => exact setRegister_crashFree link device _ _
  | getSledProfile => exact getRegister_crashFree link device _
  | setSledEnabled enabled => exact setRegister_crashFree link device _ _
  | getSledEnabled =>
    exact (getRegister_crashFree link device _).bind fun _ _ _ _ => crashFree_pure _
  | stepDpi code opcode commit =>
    exact (crashFree_check _).bind fun _ _ _ _ => setRegister_crashFree link device _ _
  | readEight address => exact Flash.readEight_crashFree link device address
  | readDwords address count => exact Flash.readDwords_crashFree link device address count
  | writeWords address data verify =>
    exact Flash.writeWords_crashFree link device address countable verify
  | writeDwords address data => exact Flash.writeDwords_crashFree link device address data
  | writeTable base table => exact Flash.writeTable_crashFree link device base table
  | save code =>
    refine (crashFree_check _).bind fun strategy _ _ _ => ?_
    rw [Save.saveSettings_eq]
    exact Save.runUpTo_crashFree link device _ (.start strategy)
  | saveStep sequence => exact Save.step_crashFree link device sequence
  | saveRun sequence => exact Save.runUpTo_crashFree link device _ sequence

/-- Whatever a link answers, every operation on any arguments gives a value or reports an error, as long
as the words of a write can be counted in 32 bits. The run of a save ends with the save finished,
whatever was done with it before. -/
theorem operations_return (state : σ) :
    (∀ deed : Deed, deed.Countable → ∃ (result : Except Error deed.Reply) (left : σ),
      deed.perform link device state = (result.mapError .failed, left)) ∧
    ∀ (strategy : Save.Strategy) (acts : List Save.Act),
      ∃ (sequence next : Save.Sequence) (before after : Traced σ) (result : Except Error Unit),
        Save.performAll link.traced device acts (.start strategy) ⟨state, []⟩ = (sequence, before) ∧
        sequence.run link.traced device before = ((result.mapError .failed, next), after) ∧
        next.progress.isTerminal = true := by
  constructor
  · intro deed countable
    exact (deed.perform_crashFree link device countable).returns state
  · exact fun strategy acts => Save.run_finishes link device strategy acts state

end Operations

-- The last word of the word space is written and read back on a link whose answers have a single byte.
theorem operations_return_cut_short :
    let link : Link Unit := ⟨fun _ _ _ _ => (.ok (), ()), fun _ _ _ _ => (.ok [reportId], ())⟩
    let device : Device := ⟨0x09DA, 0x7F1B, "Bloody T50", "SN1"⟩
    let deed : Deed := .writeWords 0xFFFF [0xA4, 0xA4] true
    deed.Countable ∧ ∃ result : Except Error deed.Reply,
      deed.perform link device () = (result.mapError .failed, ()) ∧
      result = .error (.responseTooShort 1) := by
  intro link device deed
  have countable : deed.Countable := show 2 ≤ 0x1FFFE0000 by decide
  have ended : (deed.perform link device ()).1 = .error (.failed (.responseTooShort 1)) := by
    with_unfolding_all rfl
  obtain ⟨result, left, returned⟩ := (operations_return link device ()).1 deed countable
  refine ⟨countable, result, returned, ?_⟩
  rw [returned] at ended
  cases result with
  | error error =>
    cases ended
    rfl
  | ok value => cases ended

end MouseControl
