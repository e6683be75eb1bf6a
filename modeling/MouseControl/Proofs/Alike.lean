import MouseControl.Flash.Write
import MouseControl.Proofs.Transcript

/-! Operations see of a link only its answers for their device. Where two links answer alike from related
states, every operation ends alike on both and leaves related states; with a relation on one state this
carries an invariant of the calls over to whole operations. -/
namespace MouseControl
variable {σ τ α β : Type}

structure Link.Alike (device : Device) (related : σ → τ → Prop) (first : Link σ) (second : Link τ) :
    Prop where
  write {s : σ} {t : τ} (id : UInt8) (report : List UInt8) : related s t →
    (first.write device id report s).1 = (second.write device id report t).1 ∧
      related (first.write device id report s).2 (second.write device id report t).2
  read {s : σ} {t : τ} (id : UInt8) (length : Nat) : related s t →
    (first.read device id length s).1 = (second.read device id length t).1 ∧
      related (first.read device id length s).2 (second.read device id length t).2

namespace Session
variable {related : σ → τ → Prop}

def Alike (related : σ → τ → Prop) (first : Session σ α) (second : Session τ α) : Prop :=
  ∀ s t, related s t → (first s).1 = (second t).1 ∧ related (first s).2 (second t).2

theorem alike_result (result : Except Halt α) :
    Alike related (fun state => (result, state)) (fun state => (result, state)) :=
  fun _ _ start => ⟨rfl, start⟩

theorem alike_bind {first : Session σ α} {second : Session τ α} {next : α → Session σ β}
    {follow : α → Session τ β} (start : Alike related first second)
    (rest : ∀ value, Alike related (next value) (follow value)) :
    Alike related (first >>= next) (second >>= follow) := by
  intro s t begins
  obtain ⟨same, kept⟩ := start s t begins
  rw [bind_apply, bind_apply]
  generalize first s = left at same kept
  generalize second t = right at same kept
  obtain ⟨result, s'⟩ := left
  obtain ⟨other, t'⟩ := right
  cases same
  cases result with
  | error halt => exact ⟨rfl, kept⟩
  | ok value => exact rest value s' t' kept

theorem alike_call {first : σ → Except LinkError α × σ} {second : τ → Except LinkError α × τ}
    (opcode : UInt8)
    (answers : ∀ s t, related s t → (first s).1 = (second t).1 ∧ related (first s).2 (second t).2) :
    Alike related (call opcode first) (call opcode second) := by
  intro s t begins
  obtain ⟨same, kept⟩ := answers s t begins
  refine ⟨?_, kept⟩
  simp only [call, same]

private theorem alike_within {first : Session σ α} {second : Session τ α} (context : Error → Error)
    (start : Alike related first second) :
    Alike related (within context first) (within context second) := by
  intro s t begins
  obtain ⟨same, kept⟩ := start s t begins
  refine ⟨?_, kept⟩
  change (first s).1.mapError _ = (second t).1.mapError _
  rw [same]

end Session

open Session
variable {related : σ → τ → Prop} {link : Link σ} {other : Link τ} (device : Device)

theorem execute_alike (links : Link.Alike device related link other) (request : Request) :
    Alike related (execute link device request) (execute other device request) := by
  rw [execute_eq, execute_eq]
  refine alike_bind (alike_result _) fun report => ?_
  refine alike_bind (alike_call _ fun s t => links.write reportId report) fun _ => ?_
  refine alike_bind (alike_call _ fun s t => links.read reportId packetLength) fun answer => ?_
  exact alike_result _

namespace Flash

theorem readEight_alike (links : Link.Alike device related link other) (address : UInt16) :
    Alike related (readEight link device address) (readEight other device address) :=
  alike_bind (execute_alike device links _) fun _ => alike_result _

theorem sendWords_alike (links : Link.Alike device related link other) (address : UInt16) (index : Nat)
    (chunks : List (List UInt8)) :
    Alike related (sendWords link device address index chunks)
      (sendWords other device address index chunks) := by
  induction chunks generalizing index with
  | nil => exact alike_result _
  | cons chunk rest ih =>
    refine alike_bind (alike_result _) fun start => ?_
    exact alike_bind (execute_alike device links _) fun _ => ih (index + 1)

theorem verifyBlocks_alike (links : Link.Alike device related link other) (address : UInt16)
    (total index : Nat) (blocks : List (List UInt8)) :
    Alike related (verifyBlocks link device address total index blocks)
      (verifyBlocks other device address total index blocks) := by
  induction blocks generalizing index with
  | nil => exact alike_result _
  | cons block rest ih =>
    refine alike_bind (alike_result _) fun start => ?_
    refine alike_bind (alike_within _ ?_) fun _ => ih (index + 1)
    exact alike_bind (readEight_alike device links start) fun actual => alike_result _

theorem writeWords_alike (links : Link.Alike device related link other) (address : UInt16)
    (data : List UInt8) (verify : Bool) :
    Alike related (writeWords link device address data verify)
      (writeWords other device address data verify) := by
  refine alike_bind (alike_result _) fun count => ?_
  refine alike_bind (alike_result _) fun stop => ?_
  split
  · exact alike_result _
  · refine alike_bind (sendWords_alike device links address 0 _) fun _ => ?_
    cases verify with
    | false => exact alike_result _
    | true => exact verifyBlocks_alike device links address _ 0 _

end Flash

end MouseControl
