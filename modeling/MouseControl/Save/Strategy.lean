import MouseControl.Fault

/-! Save strategies: each firmware generation persists settings in its own fixed order of phases. -/
namespace MouseControl.Save

inductive Phase where
  | unlock
  | stage
  | verify
  | commit
  | finalize
  | reload
deriving DecidableEq, Repr

namespace Phase

def all : List Phase := [unlock, stage, verify, commit, finalize, reload]

def code : Phase → UInt8
  | unlock => 1
  | stage => 2
  | verify => 3
  | commit => 4
  | finalize => 5
  | reload => 6

def name : Phase → String
  | unlock => "unlock"
  | stage => "stage"
  | verify => "verify"
  | commit => "commit"
  | finalize => "finalize"
  | reload => "reload"

end Phase

inductive Strategy where
  | quick
  | captureV1
  | captureV2
  | captureV3
  | captureV4
  | majorSync
deriving DecidableEq, Repr

namespace Strategy

def all : List Strategy := [quick, captureV1, captureV2, captureV3, captureV4, majorSync]

def code : Strategy → UInt8
  | quick => 0
  | captureV1 => 1
  | captureV2 => 2
  | captureV3 => 3
  | captureV4 => 4
  | majorSync => 5

def name : Strategy → String
  | quick => "quick"
  | captureV1 => "capture-v1"
  | captureV2 => "capture-v2"
  | captureV3 => "capture-v3"
  | captureV4 => "capture-v4"
  | majorSync => "major-sync"

def phases : Strategy → List Phase
  | quick => [.commit]
  | captureV1 => [.stage, .commit]
  | captureV2 => [.stage, .verify, .commit]
  | captureV3 => [.unlock, .stage, .verify, .commit]
  | captureV4 => [.unlock, .stage, .verify, .commit, .finalize]
  | majorSync => [.unlock, .stage, .verify, .commit, .finalize, .reload]

def stepCount (strategy : Strategy) : Nat := strategy.phases.length

def ofCode (code : UInt8) : Except Error Strategy :=
  match all.find? (·.code = code) with
  | some strategy => .ok strategy
  | none => .error (.unsupportedSaveStrategy code)

/-- The accepted spellings, free of hyphens and underscores. -/
def spellings : List (String × Strategy) :=
  [("quick", quick), ("capturev1", captureV1), ("v1", captureV1), ("capturev2", captureV2),
    ("v2", captureV2), ("capturev3", captureV3), ("v3", captureV3), ("capturev4", captureV4),
    ("v4", captureV4), ("majorsync", majorSync), ("major", majorSync)]

def normalize (name : String) : String :=
  String.ofList ((Text.foldCase name.toList).filter fun c => c ≠ '-' ∧ c ≠ '_')

def ofName? (name : String) : Option Strategy :=
  spellings.lookup (normalize name)

end Strategy

end MouseControl.Save
