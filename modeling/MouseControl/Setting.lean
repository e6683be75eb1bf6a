import MouseControl.Check
import MouseControl.Exchange
import MouseControl.Word

/-! Settings of one byte, the core state block and DPI steps. A setting is the first byte of its
register. -/
namespace MouseControl
variable {σ : Type} (link : Link σ) (device : Device)

def setRegister (opcode : UInt8) (payload : List UInt8) : Session σ Unit := do
  let _ ← execute link device (.write opcode payload)

def getRegister (opcode : UInt8) : Session σ UInt8 := do
  let region ← execute link device (.read opcode)
  Session.guarded (byteAt region 0)

def setBacklight (level : UInt8) : Session σ Unit := do
  let level ← Session.check (checkBacklight level)
  setRegister link device Opcode.backlight [level]

def getBacklight : Session σ UInt8 := getRegister link device Opcode.backlight

def setCoreSlot (slot : UInt8) : Session σ Unit := do
  let slot ← Session.check (checkCoreSlot slot)
  setRegister link device Opcode.coreSlot [slot]

def getCoreSlot : Session σ UInt8 := getRegister link device Opcode.coreSlot

def setSledProfile (index : UInt8) : Session σ Unit :=
  setRegister link device Opcode.sledProfile [index]

def getSledProfile : Session σ UInt8 := getRegister link device Opcode.sledProfile

def setSledEnabled (enabled : Bool) : Session σ Unit :=
  setRegister link device Opcode.sledEnable [if enabled then 1 else 0]

def getSledEnabled : Session σ Bool := do
  let value ← getRegister link device Opcode.sledEnable
  pure (value != 0)

structure CoreState where
  activeSlot : UInt8
  unlockedMask : UInt8
  coreMode : UInt8
  firmwareRevision : UInt16
deriving DecidableEq, Repr

namespace CoreState

/-- The block at the start of a region; a region of fewer than six bytes is a crash. -/
def ofRegion (region : List UInt8) : Except Crash CoreState := do
  let activeSlot ← byteAt region 0
  let unlockedMask ← byteAt region 1
  let coreMode ← byteAt region 2
  let low ← byteAt region 4
  let high ← byteAt region 5
  pure ⟨activeSlot, unlockedMask, coreMode, wordOf low high⟩

/-- Whether a slot is unlocked; the mask has room for eight. -/
def isUnlocked (state : CoreState) (slot : UInt8) : Bool :=
  slot < 8 && state.unlockedMask &&& (1 <<< slot) != 0

/-- The members by name, in the order of their names. -/
def fields (state : CoreState) : List (String × Nat) :=
  [("active_slot", state.activeSlot.toNat), ("core_mode", state.coreMode.toNat),
    ("firmware_revision", state.firmwareRevision.toNat),
    ("unlocked_mask", state.unlockedMask.toNat)]

end CoreState

def getCoreState : Session σ CoreState := do
  let region ← execute link device (.read Opcode.coreState)
  Session.guarded (CoreState.ofRegion region)

inductive DpiStep where
  | down
  | up
  | cycle
deriving DecidableEq, Repr

namespace DpiStep

def all : List DpiStep := [down, up, cycle]

def code : DpiStep → UInt8
  | down => 0
  | up => 1
  | cycle => 2

def label : DpiStep → String
  | down => "down"
  | up => "up"
  | cycle => "cycle"

def ofCode (code : UInt8) : Except Error DpiStep :=
  match all.find? (·.code = code) with
  | some step => .ok step
  | none => .error (.invalidDpiStepAction code)

def names : List (String × DpiStep) :=
  [("down", down), ("-", down), ("prev", down), ("up", up), ("+", up), ("next", up),
    ("cycle", cycle)]

def ofName? (name : String) : Option DpiStep :=
  names.lookup (String.ofList (Text.foldCase name.toList))

end DpiStep

/-- Sends one step on an opcode; with commit the device keeps it at once. -/
def stepDpi (step : DpiStep) (opcode : UInt8) (commit : Bool) : Session σ Unit :=
  setRegister link device opcode [step.code, if commit then 1 else 0]

def stepDpiByCode (code opcode : UInt8) (commit : Bool) : Session σ Unit := do
  let step ← Session.check (DpiStep.ofCode code)
  stepDpi link device step opcode commit

end MouseControl
