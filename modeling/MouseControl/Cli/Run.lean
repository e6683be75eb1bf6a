import MouseControl.Bus
import MouseControl.Cli.Arguments
import MouseControl.Cli.Failure
import MouseControl.Flash.Write
import MouseControl.Profile.Sink
import MouseControl.Profile.Text
import MouseControl.Save.Sequence
import MouseControl.Setting

/-! Running a command on a bus. Requests are checked as far as possible before a device is opened,
and a command that writes flash warns before it opens one. -/
namespace MouseControl.Cli
open Text

structure World where
  bus : Bus
  out : String
  err : String

abbrev ReadFile := String → Except FileError (List UInt8)

abbrev Job := ExceptT Failure (StateM World)

namespace Job
variable {α : Type}

def say (line : String) : Job Unit :=
  fun world => (.ok (), { world with out := world.out ++ line ++ "\n" })

def warn (line : String) : Job Unit :=
  fun world => (.ok (), { world with err := world.err ++ line ++ "\n" })

def check (result : Except Error α) : Job α :=
  fun world => (result.mapError Failure.failed, world)

def orElse {ε : Type} (failure : ε → Failure) (result : Except ε α) : Job α :=
  fun world => (result.mapError failure, world)

def onBus {ε : Type} (failure : ε → Failure) (action : Bus → Except ε α × Bus) : Job α :=
  fun world =>
    let (result, bus) := action world.bus
    (result.mapError failure, { world with bus := bus })

def session (session : Session Bus α) : Job α :=
  onBus Failure.ofHalt session

end Job

open Job

def choose (serial : Option String) (prefer : Device → Bool) (devices : List Device) :
    Option Device :=
  match serial with
  | some serial => devices.find? (·.serialNumber == serial)
  | none => devices.find? prefer

def selectDevice (serial : Option String) (prefer : Device → Bool) : Job Device := do
  let devices ← onBus Failure.discovery Bus.discoverSupported
  match choose serial prefer devices with
  | some device => pure device
  | none => throw (.noDevice serial)

def openDevice (target : Device) : Job Handle := do
  onBus Failure.starting Bus.start
  let serial := if target.serialNumber.isEmpty then none else some target.serialNumber
  let interface ← onBus (fun text => Failure.opening target (.ofText text))
    (·.openInterface target.vendorId target.productId serial)
  pure ⟨interface, target⟩

def openT50 (serial : Option String) : Job Handle := do
  let target ← selectDevice serial Device.isT50
  check target.requireT50
  openDevice target

def openSupported (serial : Option String) : Job Handle := do
  openDevice (← selectDevice serial fun _ => true)

def ask {α : Type} (handle : Handle) (action : Link Bus → Device → Session Bus α) : Job α :=
  session (action handle.link handle.target)

def readText (readFile : ReadFile) (path : String) : Except FileError String := do
  let bytes ← readFile path
  match String.fromUTF8? ⟨bytes.toArray⟩ with
  | some text => .ok text
  | none => .error .invalidUtf8

def loadProfile (readFile : ReadFile) : ProfileSource → Except Error Profile
  | .file path => do
    let text ← (readText readFile path).mapError fun error => .profile (.unreadable path error)
    (Profile.ofText text).mapError .profile
  | .numbers profile => .ok profile

def readStrategy (text : String) : Except Failure Save.Strategy :=
  match Save.Strategy.ofName? text with
  | some strategy => .ok strategy
  | none =>
    match readByte text with
    | .ok code => (Save.Strategy.ofCode code).mapError .failed
    | .error _ => .error (.unknownStrategy text)

def readStep (text : String) : Except Failure DpiStep :=
  match DpiStep.ofName? text with
  | some step => .ok step
  | none =>
    match readByte text with
    | .ok code => (DpiStep.ofCode code).mapError .failed
    | .error _ => .error (.unknownStep text)

def deviceLine (device : Device) : String :=
  let family := match device.family? with
    | some family => family.name
    | none => "unknown"
  s!"{device.display} [{family}]"

def onOff (on : Bool) : String := if on then "on" else "off"

def listDevices (json : Bool) : Job Unit := do
  let devices ← onBus Failure.discovery Bus.discoverSupported
  if json then say (Json.prettyList (devices.map Device.members))
  else if devices.isEmpty then
    say "No Bloody mice found."
    say "Ensure your mouse is connected and udev permissions are set up."
  else devices.forM fun device => say (deviceLine device)

def validateProfile (readFile : ReadFile) (source : ProfileSource) : Job Unit := do
  let profile ← check (loadProfile readFile source)
  check (checkProfile profile)
  say s!"Profile OK: {profile.json}"

def applyProfile (readFile : ReadFile) (serial : Option String) (source : ProfileSource) :
    Job Unit := do
  let profile ← check (loadProfile readFile source)
  let device ← selectDevice serial fun _ => true
  let (result, sink) := Sink.accepting.apply device profile
  check result
  match sink.last with
  | some (device, profile) =>
    say s!"Dry run: {device.display} would receive"
    say s!"  DPI: {decimal profile.dpi.toNat}"
    say s!"  Polling rate: {decimal profile.pollingRate.toNat} Hz"
    say s!"  Lift-off distance: {decimal profile.liftOff.toNat}"
  | none => pure ()

def backlight (serial : Option String) (action : ByteAction) : Job Unit := do
  let handle ← openT50 serial
  match action with
  | .get =>
    let level ← ask handle getBacklight
    say s!"Backlight level: {decimal level.toNat}"
  | .set value =>
    ask handle fun link device => setBacklight link device value
    say s!"Backlight level set to {decimal value.toNat}"

/-- Cores are shown with numbers from one on. -/
def coreSlot (serial : Option String) (action : ByteAction) : Job Unit := do
  let handle ← openT50 serial
  match action with
  | .get =>
    let slot ← ask handle getCoreSlot
    say s!"Active core slot: {decimal slot.toNat} (Core {decimal (slot.toNat + 1)})"
  | .set value =>
    ask handle fun link device => setCoreSlot link device value
    say s!"Core slot set to {decimal value.toNat}"

def coreState (serial : Option String) (json : Bool) : Job Unit := do
  let handle ← openT50 serial
  let state ← ask handle getCoreState
  if json then
    say (Json.pretty "" (state.fields.map fun (name, value) => (name, .number value)))
  else state.fields.forM fun (name, value) => say s!"{name}: {decimal value}"

def sledProfile (serial : Option String) (action : ByteAction) : Job Unit := do
  let handle ← openT50 serial
  match action with
  | .get =>
    let index ← ask handle getSledProfile
    say s!"SLED profile: {decimal index.toNat}"
  | .set value =>
    ask handle fun link device => setSledProfile link device value
    say s!"SLED profile set to {decimal value.toNat}"

def sledEnabled (serial : Option String) (action : SwitchAction) : Job Unit := do
  let handle ← openT50 serial
  match action with
  | .get =>
    let on ← ask handle getSledEnabled
    say s!"SLED: {onOff on}"
  | .turn on =>
    ask handle fun link device => setSledEnabled link device on
    say s!"SLED turned {onOff on}"

def dpiStep (serial : Option String) (action : String) (opcode : UInt8) (commit : Bool) :
    Job Unit := do
  let step ← orElse id (readStep action)
  let handle ← openT50 serial
  ask handle fun link device => stepDpi link device step opcode commit
  say s!"DPI step '{step.label}' sent on {Opcode.name opcode}"

def flashRead (serial : Option String) (address : UInt16) : Job Unit := do
  let handle ← openT50 serial
  let bytes ← ask handle fun link device => Flash.readEight link device address
  say s!"0x{upperHex 4 address.toNat}: {dumpHex bytes}"

/-- Addresses past the end of the space are shown with the digits they need. -/
def flashReadDwords (serial : Option String) (address : UInt32) (count : UInt8) : Job Unit := do
  let count ← check (checkDwordCount count)
  let handle ← openT50 serial
  let bytes ← ask handle fun link device => Flash.readDwords link device address count
  (pieces dwordLength bytes).zipIdx.forM fun (dword, i) =>
    say s!"0x{upperHex 8 (address.toNat + i)}: {dumpHex dword}"

def flashData (data : String) (unit : Nat) : Job (List UInt8) := do
  let bytes ← orElse Failure.ofHexHalt (readHex data)
  let _ ← orElse Failure.ofHalt (checkPayloadLength bytes.length unit)
  warn flashWarning
  pure bytes

def flashWrite (serial : Option String) (address : UInt16) (data : String) (verify : Bool) :
    Job Unit := do
  let bytes ← flashData data wordLength
  let handle ← openT50 serial
  ask handle fun link device => Flash.writeWords link device address bytes verify
  let verified := if verify then " (verified)" else ""
  say s!"Wrote {decimal (bytes.length / wordLength)} word(s) at 0x{upperHex 4 address.toNat}{verified}"

def flashWriteDwords (serial : Option String) (address : UInt32) (data : String) : Job Unit := do
  let bytes ← flashData data dwordLength
  let handle ← openT50 serial
  ask handle fun link device => Flash.writeDwords link device address bytes
  say s!"Wrote {decimal (bytes.length / dwordLength)} dword(s) at 0x{upperHex 8 address.toNat}"

def adjustGun (readFile : ReadFile) (serial : Option String) (base : UInt16) (path : String) :
    Job Unit := do
  let table ← orElse (Failure.tableFile path) (readFile path)
  check (checkTableLength table.length)
  warn flashWarning
  let handle ← openT50 serial
  ask handle fun link device => Flash.writeTable link device base table
  say s!"Adjust-gun table written at 0x{upperHex 4 base.toNat}"

def save (serial : Option String) (name : String) : Job Unit := do
  let strategy ← orElse id (readStrategy name)
  let handle ← openT50 serial
  ask handle fun link device => Save.saveSettings link device strategy
  say s!"Settings saved ({strategy.name}, {decimal strategy.stepCount} step(s))"

def exchange (serial : Option String) (opcode : UInt8) (write : Bool) (offset : Nat)
    (payload : String) : Job Unit := do
  let bytes ← orElse Failure.ofHexHalt (readHex payload)
  let handle ← openT50 serial
  let flag := if write then writeFlag else readFlag
  let region ← ask handle fun link device => execute link device ⟨opcode, flag, offset, bytes⟩
  say s!"{Opcode.name opcode} response: {dumpHex region}"

def capacity : Nat := 0x7FFFFFFFFFFFFFFF

def readRawReport (serial : Option String) (id : UInt8) (length : Nat) : Job Unit := do
  let handle ← openSupported serial
  if capacity < length then throw (.crashed .capacity)
  let report ← ask handle fun link device => readReport link device id length
  say (dumpHex report)

def writeRawReport (serial : Option String) (id : UInt8) (data : String) : Job Unit := do
  let bytes ← orElse Failure.ofHexHalt (readHex data)
  let handle ← openSupported serial
  ask handle fun link device => writeReport link device id bytes
  say s!"Wrote {decimal bytes.length} byte(s) to report 0x{upperHex 2 id.toNat}"

def perform (readFile : ReadFile) (serial : Option String) : Command → Job Unit
  | .listDevices json => listDevices json
  | .validateProfile source => validateProfile readFile source
  | .applyProfile source => applyProfile readFile serial source
  | .backlight action => backlight serial action
  | .coreSlot action => coreSlot serial action
  | .coreState json => coreState serial json
  | .sledProfile action => sledProfile serial action
  | .sledEnabled action => sledEnabled serial action
  | .dpiStep action opcode commit => dpiStep serial action opcode commit
  | .flashRead address => flashRead serial address
  | .flashReadDwords address count => flashReadDwords serial address count
  | .flashWrite address data verify => flashWrite serial address data verify
  | .flashWriteDwords address data => flashWriteDwords serial address data
  | .adjustGun base path => adjustGun readFile serial base path
  | .save strategy => save serial strategy
  | .exchange opcode write offset payload => exchange serial opcode write offset payload
  | .readReport id length => readRawReport serial id length
  | .writeReport id data => writeRawReport serial id data

structure Transcript where
  exit : UInt8
  out : String
  err : String
  complaint : Option Complaint
  events : List Event

def versionLine : String := "t50ctl 0.1.0\n"
def helpLine : String := "Usage: t50ctl [OPTIONS] <COMMAND>\n"

def run (arguments : List String) (readFile : ReadFile) (bus : Bus) : Transcript :=
  match readArguments arguments with
  | .error .version => ⟨0, versionLine, "", none, bus.events⟩
  | .error .help => ⟨0, helpLine, "", none, bus.events⟩
  | .error (.complaint complaint) => ⟨2, "", "", some complaint, bus.events⟩
  | .ok invocation =>
    let (result, world) := perform readFile invocation.serial invocation.command ⟨bus, "", ""⟩
    match result with
    | .ok _ => ⟨0, world.out, world.err, none, world.bus.events⟩
    | .error failure =>
      ⟨failure.exit, world.out, world.err ++ failure.report, none, world.bus.events⟩

end MouseControl.Cli
