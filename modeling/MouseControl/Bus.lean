import MouseControl.Mouse.Basic

/-! A simulated bus: interfaces in the order they are listed, one mouse behind all of them, the choice
of the interface that is opened, and failures of starting the bus or of opening an interface.
Everything that happens on it is recorded. -/
namespace MouseControl
open Text

inductive Event where
  | opening (vendorId productId : UInt16) (serial : Option String)
  | report (interface : Interface) (call : Call)
deriving DecidableEq, Repr

def Event.line : Event → String
  | .opening vendorId productId none =>
    s!"o {lowerHex 4 vendorId.toNat} {lowerHex 4 productId.toNat}"
  | .opening vendorId productId (some serial) =>
    s!"o {lowerHex 4 vendorId.toNat} {lowerHex 4 productId.toNat} {serial}"
  | .report _ call => call.line

def firstInterface? (interfaces : List Interface) (vendorId productId : UInt16)
    (serial : Option String) : Option Interface :=
  interfaces.find? fun interface =>
    interface.vendorId == vendorId && interface.productId == productId &&
      (serial.isNone || interface.serial == serial)

/-- A simulated bus; the record has the latest event first. -/
structure Bus where
  interfaces : List Interface
  /-- The interface that opening by vendor, product and perhaps serial number gives. -/
  pick : UInt16 → UInt16 → Option String → Option Interface
  failStarts : List (Nat × String)
  failOpen : Option String
  mouse : Mouse
  starts : Nat
  backlog : List Event

namespace Bus

def idle (interfaces : List Interface) (failStarts : List (Nat × String))
    (failOpen : Option String) (mouse : Mouse) : Bus :=
  ⟨interfaces, firstInterface? interfaces, failStarts, failOpen, mouse, 0, []⟩

def empty : Bus := idle [] [] none .fresh

def events (bus : Bus) : List Event := bus.backlog.reverse

def start (bus : Bus) : Except String Unit × Bus :=
  let counted := { bus with starts := bus.starts + 1 }
  match bus.failStarts.lookup bus.starts with
  | some text => (.error text, counted)
  | none => (.ok (), counted)

def discover (bus : Bus) : Except LinkError (List Device) × Bus :=
  let (started, bus) := bus.start
  ((started.mapError LinkError.ofText).map fun _ => unitsOf bus.interfaces, bus)

def discoverSupported (bus : Bus) : Except LinkError (List Device) × Bus :=
  let (found, bus) := bus.discover
  (found.map supported, bus)

def openInterface (bus : Bus) (vendorId productId : UInt16) (serial : Option String) :
    Except String Interface × Bus :=
  let bus := { bus with backlog := .opening vendorId productId serial :: bus.backlog }
  match bus.failOpen with
  | some text => (.error text, bus)
  | none =>
    match bus.pick vendorId productId serial with
    | some interface => (.ok interface, bus)
    | none => (.error "no such device", bus)

def send (bus : Bus) (interface : Interface) (report : List UInt8) : Except String Unit × Bus :=
  let id := report.headD 0
  let (result, mouse) := bus.mouse.write id report
  (result.mapError LinkError.text,
    { bus with mouse := mouse, backlog := .report interface (.write id report) :: bus.backlog })

def fetch (bus : Bus) (interface : Interface) (id : UInt8) (length : Nat) :
    Except String (List UInt8) × Bus :=
  let (result, mouse) := bus.mouse.read length
  ((result.mapError LinkError.text).map (·.take length),
    { bus with mouse := mouse, backlog := .report interface (.read id length) :: bus.backlog })

end Bus

structure Handle where
  interface : Interface
  target : Device
deriving DecidableEq, Repr

namespace Handle

def checkTarget (handle : Handle) (device : Device) : Except LinkError Unit :=
  if handle.target.sameUnit device then .ok ()
  else
    .error (.deviceNotFound
      s!"transport is bound to {handle.target.display}, not {device.display}")

/-- A report with its first byte replaced by its number. -/
def numbered (id : UInt8) (data : List UInt8) : List UInt8 := id :: data.drop 1

def link (handle : Handle) : Link Bus where
  write device id data bus :=
    match handle.checkTarget device with
    | .error error => (.error error, bus)
    | .ok _ =>
      let (result, bus) := bus.send handle.interface (numbered id data)
      (result.mapError LinkError.ofText, bus)
  read device id length bus :=
    match handle.checkTarget device with
    | .error error => (.error error, bus)
    | .ok _ =>
      let (result, bus) := bus.fetch handle.interface id (max length 1)
      match result with
      | .error text => (.error (.ofText text), bus)
      | .ok [] => (.error (.timeout s!"empty feature report 0x{upperHex 2 id.toNat}"), bus)
      | .ok report => (.ok report, bus)

end Handle

end MouseControl
