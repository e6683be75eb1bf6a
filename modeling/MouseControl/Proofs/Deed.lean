import MouseControl.Flash.Write
import MouseControl.Proofs.Alike
import MouseControl.Proofs.SaveHistory
import MouseControl.Setting

/-! The operations on a device as data. Whatever links two operations see, they end alike where the links
answer alike; in particular the calls of an operation can be read off a traced link. -/
namespace MouseControl

inductive Deed where
  | execute (request : Request)
  | writeReport (id : UInt8) (data : List UInt8)
  | readReport (id : UInt8) (length : Nat)
  | setBacklight (level : UInt8)
  | getBacklight
  | setCoreSlot (slot : UInt8)
  | getCoreSlot
  | getCoreState
  | setSledProfile (index : UInt8)
  | getSledProfile
  | setSledEnabled (enabled : Bool)
  | getSledEnabled
  | stepDpi (code opcode : UInt8) (commit : Bool)
  | readEight (address : UInt16)
  | readDwords (address : UInt32) (count : UInt8)
  | writeWords (address : UInt16) (data : List UInt8) (verify : Bool)
  | writeDwords (address : UInt32) (data : List UInt8)
  | writeTable (base : UInt16) (table : List UInt8)
  | save (code : UInt8)
  | saveStep (sequence : Save.Sequence)
  | saveRun (sequence : Save.Sequence)
deriving DecidableEq

namespace Deed
variable {σ τ α : Type}

def Reply : Deed → Type
  | getBacklight | getCoreSlot | getSledProfile => UInt8
  | getSledEnabled => Bool
  | getCoreState => CoreState
  | execute _ | readReport .. | readEight _ | readDwords .. => List UInt8
  | saveStep _ => Save.Progress
  | writeReport .. | setBacklight _ | setCoreSlot _ | setSledProfile _ | setSledEnabled _
  | stepDpi .. | writeWords .. | writeDwords .. | writeTable .. | save _ | saveRun _ => Unit

def ending (call : StateM σ (Except Halt α × Save.Sequence)) : Session σ α :=
  fun state => ((call state).1.1, (call state).2)

def perform (link : Link σ) (device : Device) : (deed : Deed) → Session σ deed.Reply
  | execute request => MouseControl.execute link device request
  | writeReport id data => MouseControl.writeReport link device id data
  | readReport id length => MouseControl.readReport link device id length
  | setBacklight level => MouseControl.setBacklight link device level
  | getBacklight => MouseControl.getBacklight link device
  | setCoreSlot slot => MouseControl.setCoreSlot link device slot
  | getCoreSlot => MouseControl.getCoreSlot link device
  | getCoreState => MouseControl.getCoreState link device
  | setSledProfile index => MouseControl.setSledProfile link device index
  | getSledProfile => MouseControl.getSledProfile link device
  | setSledEnabled enabled => MouseControl.setSledEnabled link device enabled
  | getSledEnabled => MouseControl.getSledEnabled link device
  | stepDpi code opcode commit => stepDpiByCode link device code opcode commit
  | readEight address => Flash.readEight link device address
  | readDwords address count => Flash.readDwords link device address count
  | writeWords address data verify => Flash.writeWords link device address data verify
  | writeDwords address data => Flash.writeDwords link device address data
  | writeTable base table => Flash.writeTable link device base table
  | save code => Save.saveSettingsByCode link device code
  | saveStep sequence => ending (sequence.step link device)
  | saveRun sequence => ending (sequence.run link device)

end Deed

open Session
variable {σ τ : Type} {related : σ → τ → Prop} {link : Link σ} {other : Link τ} (device : Device)

private theorem setRegister_alike (links : Link.Alike device related link other) (opcode : UInt8)
    (payload : List UInt8) :
    Alike related (setRegister link device opcode payload) (setRegister other device opcode payload) :=
  alike_bind (execute_alike device links _) fun _ => alike_result _

private theorem getRegister_alike (links : Link.Alike device related link other) (opcode : UInt8) :
    Alike related (getRegister link device opcode) (getRegister other device opcode) :=
  alike_bind (execute_alike device links _) fun _ => alike_result _

private theorem Flash.sendDwords_alike (links : Link.Alike device related link other) (address : UInt32)
    (index : Nat) (chunks : List (List UInt8)) :
    Alike related (sendDwords link device address index chunks)
      (sendDwords other device address index chunks) := by
  induction chunks generalizing index with
  | nil => exact alike_result _
  | cons chunk rest ih =>
    refine alike_bind (alike_result _) fun start => ?_
    exact alike_bind (execute_alike device links _) fun _ => ih (index + 1)

namespace Save

theorem saveSettings_eq (link : Link σ) (strategy : Strategy) :
    saveSettings link device strategy = Deed.ending (Sequence.run link device (.start strategy)) := rfl

private theorem step_alike (links : Link.Alike device related link other) (sequence : Sequence)
    {s : σ} {t : τ} (start : related s t) :
    (sequence.step link device s).1 = (sequence.step other device t).1 ∧
      related (sequence.step link device s).2 (sequence.step other device t).2 := by
  rw [step_apply, step_apply]
  cases sequence.next? with
  | none => exact ⟨rfl, start⟩
  | some next =>
    obtain ⟨index, phase⟩ := next
    obtain ⟨same, kept⟩ := execute_alike device links
      (.write Opcode.save (sequence.payload index phase)) s t start
    simp only
    generalize execute link device _ s = left at same kept ⊢
    generalize execute other device _ t = right at same kept ⊢
    obtain ⟨result, s'⟩ := left
    obtain ⟨ended, t'⟩ := right
    cases same
    rcases result with (error | crash) | region <;> exact ⟨rfl, kept⟩

private theorem runUpTo_alike (links : Link.Alike device related link other) (bound : Nat)
    (sequence : Sequence) {s : σ} {t : τ} (start : related s t) :
    (sequence.runUpTo link device bound s).1 = (sequence.runUpTo other device bound t).1 ∧
      related (sequence.runUpTo link device bound s).2 (sequence.runUpTo other device bound t).2 := by
  induction bound generalizing sequence s t with
  | zero => exact ⟨rfl, start⟩
  | succ bound ih =>
    cases finished : sequence.progress.isTerminal with
    | true =>
      rw [runUpTo_terminal link device finished, runUpTo_terminal other device finished]
      exact ⟨rfl, start⟩
    | false =>
      rw [runUpTo_succ link device finished, runUpTo_succ other device finished]
      obtain ⟨same, kept⟩ := step_alike device links sequence start
      generalize sequence.step link device s = left at same kept ⊢
      generalize sequence.step other device t = right at same kept ⊢
      obtain ⟨⟨result, next⟩, s'⟩ := left
      obtain ⟨ended, t'⟩ := right
      cases same
      cases result with
      | error halt => exact ⟨rfl, kept⟩
      | ok reached => exact ih next kept

private theorem run_alike (links : Link.Alike device related link other) (sequence : Sequence) :
    Alike related (Deed.ending (sequence.run link device)) (Deed.ending (sequence.run other device)) := by
  intro s t start
  obtain ⟨same, kept⟩ := runUpTo_alike device links sequence.total sequence start
  exact ⟨congrArg Prod.fst same, kept⟩

end Save

theorem Deed.perform_alike (links : Link.Alike device related link other) (deed : Deed) :
    Alike related (deed.perform link device) (deed.perform other device) := by
  cases deed with
  | execute request => exact execute_alike device links request
  | writeReport id data =>
    exact alike_bind (alike_result _) fun _ => alike_call _ fun _ _ => links.write id data
  | readReport id length =>
    exact alike_bind (alike_result _) fun _ => alike_call _ fun _ _ => links.read id length
  | setBacklight level => exact alike_bind (alike_result _) fun _ => setRegister_alike device links _ _
  | getBacklight => exact getRegister_alike device links _
  | setCoreSlot slot => exact alike_bind (alike_result _) fun _ => setRegister_alike device links _ _
  | getCoreSlot => exact getRegister_alike device links _
  | getCoreState => exact alike_bind (execute_alike device links _) fun _ => alike_result _
  | setSledProfile index => exact setRegister_alike device links _ _
  | getSledProfile => exact getRegister_alike device links _
  | setSledEnabled enabled => exact setRegister_alike device links _ _
  | getSledEnabled => exact alike_bind (getRegister_alike device links _) fun _ => alike_result _
  | stepDpi code opcode commit =>
    exact alike_bind (alike_result _) fun _ => setRegister_alike device links _ _
  | readEight address => exact Flash.readEight_alike device links address
  | readDwords address count =>
    refine alike_bind (alike_result _) fun count => ?_
    exact alike_bind (execute_alike device links _) fun _ => alike_result _
  | writeWords address data verify => exact Flash.writeWords_alike device links address data verify
  | writeDwords address data =>
    refine alike_bind (alike_result _) fun count => ?_
    split
    · exact alike_result _
    · exact Flash.sendDwords_alike device links address 0 _
  | writeTable base table =>
    refine alike_bind (alike_result _) fun _ => ?_
    split
    · exact alike_result _
    · exact alike_bind (Flash.writeWords_alike device links _ _ _) fun _ =>
        Flash.writeWords_alike device links _ _ _
  | save code =>
    refine alike_bind (alike_result _) fun strategy => ?_
    rw [Save.saveSettings_eq, Save.saveSettings_eq]
    exact Save.run_alike device links (.start strategy)
  | saveStep sequence =>
    intro s t start
    obtain ⟨same, kept⟩ := Save.step_alike device links sequence start
    exact ⟨congrArg Prod.fst same, kept⟩
  | saveRun sequence => exact Save.run_alike device links sequence

private theorem Link.traced_alike (link : Link σ) : Link.Alike device
    (fun (traced : Traced σ) (state : σ) => traced.state = state) link.traced link where
  write := by
    rintro ⟨state, contacts⟩ _ id report rfl
    exact ⟨rfl, rfl⟩
  read := by
    rintro ⟨state, contacts⟩ _ id length rfl
    exact ⟨rfl, rfl⟩

theorem Deed.perform_traced (link : Link σ) (deed : Deed) (state : σ) (contacts : List Contact) :
    (deed.perform link.traced device ⟨state, contacts⟩).1 = (deed.perform link device state).1 ∧
      (deed.perform link.traced device ⟨state, contacts⟩).2.state =
        (deed.perform link device state).2 :=
  perform_alike device (link.traced_alike device) deed ⟨state, contacts⟩ state rfl

end MouseControl
