import MouseControl.Exchange
import MouseControl.Save.Strategy

/-! A save in progress. Every step sends the next phase of the strategy; there is no rollback, and a
failed or finished save sends nothing more. -/
namespace MouseControl.Save
variable {σ : Type}

inductive Progress where
  | idle
  /-- The steps before this one are done. -/
  | stepping (next : Nat)
  | committed
  | failed (step : Nat)
deriving DecidableEq, Repr

def Progress.isTerminal : Progress → Bool
  | committed | failed _ => true
  | idle | stepping _ => false

structure Sequence where
  strategy : Strategy
  progress : Progress
deriving DecidableEq, Repr

namespace Sequence

def start (strategy : Strategy) : Sequence := ⟨strategy, .idle⟩

def total (sequence : Sequence) : Nat := sequence.strategy.stepCount

def next? (sequence : Sequence) : Option (Nat × Phase) :=
  match sequence.progress with
  | .idle => sequence.strategy.phases[0]?.map (0, ·)
  | .stepping index => sequence.strategy.phases[index]?.map (index, ·)
  | .committed | .failed _ => none

def payload (sequence : Sequence) (index : Nat) (phase : Phase) : List UInt8 :=
  [sequence.strategy.code, UInt8.ofNat index, phase.code, UInt8.ofNat sequence.total]

/-- Sends the next step. Gives the progress reached, or the error of a step that failed, and in both
cases the save as it stands. -/
def step (link : Link σ) (device : Device) (sequence : Sequence) :
    StateM σ (Except Halt Progress × Sequence) :=
  match sequence.next? with
  | none => pure (.ok sequence.progress, sequence)
  | some (index, phase) => do
    match ← (execute link device (.write Opcode.save (sequence.payload index phase))).run with
    | .ok _ =>
      let reached :=
        if index + 1 = sequence.total then Progress.committed else .stepping (index + 1)
      pure (.ok reached, { sequence with progress := reached })
    | .error (.failed error) =>
      pure (.error (.failed (.sequenceFailed .save (index + 1) sequence.total error)),
        { sequence with progress := .failed index })
    | .error (.crashed crash) =>
      pure (.error (.crashed crash), { sequence with progress := .stepping index })

def runUpTo (link : Link σ) (device : Device) :
    Nat → Sequence → StateM σ (Except Halt Unit × Sequence)
  | 0, sequence => pure (.ok (), sequence)
  | bound + 1, sequence =>
    if sequence.progress.isTerminal then pure (.ok (), sequence)
    else do
      match ← step link device sequence with
      | (.ok _, sequence) => runUpTo link device bound sequence
      | (.error halt, sequence) => pure (.error halt, sequence)

/-- Sends every step that remains. A save has no more steps than its strategy has phases. -/
def run (link : Link σ) (device : Device) (sequence : Sequence) :
    StateM σ (Except Halt Unit × Sequence) :=
  runUpTo link device sequence.total sequence

end Sequence

def saveSettings (link : Link σ) (device : Device) (strategy : Strategy) : Session σ Unit :=
  ExceptT.mk do
    let (result, _) ← Sequence.run link device (.start strategy)
    pure result

def saveSettingsByCode (link : Link σ) (device : Device) (code : UInt8) : Session σ Unit := do
  let strategy ← Session.check (Strategy.ofCode code)
  saveSettings link device strategy

end MouseControl.Save
