import MouseControl.Profile.Basic

/-! The commands of the program. -/
namespace MouseControl.Cli

inductive ProfileSource where
  | file (path : String)
  | numbers (profile : Profile)
deriving DecidableEq, Repr

inductive ByteAction where
  | get
  | set (value : UInt8)
deriving DecidableEq, Repr

inductive SwitchAction where
  | get
  | turn (on : Bool)
deriving DecidableEq, Repr

inductive Command where
  | listDevices (json : Bool)
  | validateProfile (source : ProfileSource)
  | applyProfile (source : ProfileSource)
  | backlight (action : ByteAction)
  | coreSlot (action : ByteAction)
  | coreState (json : Bool)
  | sledProfile (action : ByteAction)
  | sledEnabled (action : SwitchAction)
  | dpiStep (action : String) (opcode : UInt8) (commit : Bool)
  | flashRead (address : UInt16)
  | flashReadDwords (address : UInt32) (count : UInt8)
  | flashWrite (address : UInt16) (data : String) (verify : Bool)
  | flashWriteDwords (address : UInt32) (data : String)
  | adjustGun (base : UInt16) (path : String)
  | save (strategy : String)
  | exchange (opcode : UInt8) (write : Bool) (offset : Nat) (payload : String)
  | readReport (id : UInt8) (length : Nat)
  | writeReport (id : UInt8) (data : String)
deriving DecidableEq, Repr

def Command.file? : Command → Option String
  | validateProfile (.file path) | applyProfile (.file path) | adjustGun _ path => some path
  | _ => none

structure Invocation where
  command : Command
  serial : Option String
deriving DecidableEq, Repr

end MouseControl.Cli
