import MouseControl.Cli.Command
import MouseControl.Cli.Number
import MouseControl.Limits
import MouseControl.Text.Terminal

/-! Reading the arguments. They are taken from the left. A value is held back until the next
argument that the command knows, or the end, and only then read, so a value that cannot be read gives
way to an argument that nobody knows right after it. What is missing, doubled or in conflict is found
after every value was read. -/
namespace MouseControl.Cli
open Text

inductive Value where
  | flag
  | text (text : String)
  | byte (value : UInt8)
  | word (value : UInt16)
  | dword (value : UInt32)
  | size (value : Nat)
deriving DecidableEq, Repr

inductive Kind where
  | text
  | path
  | byte
  | word
  | dword
  /-- A length of 64 bits in plain decimal. -/
  | size
  /-- A decimal number of 32 bits, told from one that is out of range. -/
  | count
deriving DecidableEq, Repr

inductive Complaint where
  | invalidValue (value place reason : String)
  | usage
deriving DecidableEq, Repr

/-- A complaint as it is written for a terminal. A value comes in yellow, names come in bold. -/
def Complaint.styled : Complaint → String
  | invalidValue value place reason =>
    let value := Terminal.styled "33" value
    let place := Terminal.styled "1" place
    let help := Terminal.styled "1" "--help"
    s!"'{value}' for '{place}': {reason}\n\nFor more information, try '{help}'.\n"
  | usage => "usage"

/-- The first line of what a complaint shows. A control sequence that a value leaves open can take
up what follows the value. -/
def Complaint.line (complaint : Complaint) : String :=
  String.ofList (Terminal.firstLine (Terminal.shown complaint.styled).toList)

inductive Stop where
  | complaint (complaint : Complaint)
  | version
  | help
deriving DecidableEq, Repr

structure Slot where
  name : String
  place : String
  kind : Kind
deriving DecidableEq, Repr

def signedDecimal (n : Int) : String :=
  if n < 0 then "-" ++ decimal n.natAbs else decimal n.natAbs

def Slot.invalid (slot : Slot) (value reason : String) : Complaint :=
  .invalidValue value slot.place reason

def Slot.read (slot : Slot) (value : String) : Except Complaint Value :=
  match slot.kind with
  | .text => .ok (.text value)
  | .path => if value.isEmpty then .error .usage else .ok (.text value)
  | .byte => ((readByte value).map Value.byte).mapError (slot.invalid value ·.message)
  | .word => ((readWord value).map Value.word).mapError (slot.invalid value ·.message)
  | .dword => ((readDword value).map Value.dword).mapError (slot.invalid value ·.message)
  | .size =>
    ((readUnsigned 10 0xFFFFFFFFFFFFFFFF value.toList).map Value.size).mapError
      (slot.invalid value ·.message)
  | .count =>
    match readSigned value.toList with
    | .error error => .error (slot.invalid value error.message)
    | .ok n =>
      if 0 ≤ n ∧ n < 0x100000000 then .ok (.dword (UInt32.ofNat n.toNat))
      else .error (slot.invalid value s!"{signedDecimal n} is not in 0..=4294967295")

structure Form where
  flags : List String
  options : List Slot
  positionals : List Slot
  subcommands : List String
deriving DecidableEq, Repr

namespace Form

def bare : Form := ⟨[], [], [], []⟩

def places (positionals : List Slot) : Form := ⟨[], [], positionals, []⟩

def group (subcommands : List String) : Form := ⟨[], [], [], subcommands⟩

def commands : List String :=
  ["list-devices", "validate-profile", "apply-profile", "backlight", "core-slot", "core-state",
    "sled-profile", "sled-enabled", "dpi-step", "flash-read", "flash-read-dwords", "flash-write",
    "flash-write-dwords", "adjust-gun", "save", "exchange", "read-report", "write-report"]

def profile : Form :=
  ⟨[], [⟨"file", "--file <FILE>", .path⟩, ⟨"dpi", "--dpi <DPI>", .count⟩,
    ⟨"rate", "--rate <RATE>", .count⟩, ⟨"lift-off", "--lift-off <LIFT_OFF>", .count⟩], [], []⟩

def ofPath : List String → Form
  | [] => ⟨["version"], [], [], commands⟩
  | ["list-devices"] => { bare with flags := ["json"] }
  | ["validate-profile"] => profile
  | ["apply-profile"] => profile
  | ["backlight"] => group ["get", "set"]
  | ["core-slot"] => group ["get", "set"]
  | ["sled-profile"] => group ["get", "set"]
  | ["sled-enabled"] => group ["get", "on", "off"]
  | [_, "set"] => places [⟨"value", "<VALUE>", .byte⟩]
  | ["core-state"] => { bare with flags := ["json"] }
  | ["dpi-step"] =>
    ⟨["commit"], [⟨"opcode", "--opcode <OPCODE>", .byte⟩], [⟨"action", "<ACTION>", .text⟩], []⟩
  | ["flash-read"] => places [⟨"address", "<ADDRESS>", .word⟩]
  | ["flash-read-dwords"] =>
    places [⟨"address", "<ADDRESS>", .dword⟩, ⟨"count", "<COUNT>", .byte⟩]
  | ["flash-write"] =>
    ⟨["verify"], [], [⟨"address", "<ADDRESS>", .word⟩, ⟨"data", "<DATA>", .text⟩], []⟩
  | ["flash-write-dwords"] =>
    places [⟨"address", "<ADDRESS>", .dword⟩, ⟨"data", "<DATA>", .text⟩]
  | ["adjust-gun"] => places [⟨"base", "<BASE>", .word⟩, ⟨"file", "<FILE>", .path⟩]
  | ["save"] => places [⟨"strategy", "<STRATEGY>", .text⟩]
  | ["exchange"] =>
    ⟨["write"], [⟨"offset", "--offset <OFFSET>", .size⟩],
      [⟨"opcode", "<OPCODE>", .byte⟩, ⟨"payload", "[PAYLOAD]", .text⟩], []⟩
  | ["read-report"] =>
    places [⟨"report-id", "<REPORT_ID>", .byte⟩, ⟨"length", "<LENGTH>", .size⟩]
  | ["write-report"] =>
    places [⟨"report-id", "<REPORT_ID>", .byte⟩, ⟨"data", "<DATA>", .text⟩]
  | _ => bare

/-- The option with a name; the serial number can be given anywhere. -/
def option? (form : Form) (name : String) : Option Slot :=
  (⟨"serial", "--serial <SERIAL>", .text⟩ :: form.options).find? (·.name = name)

def hasFlag (form : Form) (name : String) : Bool :=
  ("verbose" :: "help" :: form.flags).contains name

def letter? (form : Form) (letter : Char) : Option String :=
  [('v', "verbose"), ('h', "help"), ('V', "version")].lookup letter |>.filter form.hasFlag

def leads (path : List String) : List String → Bool
  | [] => true
  | name :: rest =>
    ((ofPath path).subcommands.contains name || name == "help" && (ofPath path).subcommands ≠ []) &&
      leads (path ++ [name]) rest

end Form

structure Level where
  path : List String
  given : List (String × Value)
  /-- A place whose value is held back, or still to come. -/
  pending : Option (Slot × Option String)
  placed : Nat
deriving DecidableEq, Repr

namespace Level

def start (path : List String) : Level := ⟨path, [], none, 0⟩

def form (level : Level) : Form := .ofPath level.path

def awaits (level : Level) : Bool :=
  match level.pending with
  | some (_, none) => true
  | _ => false

def accept (level : Level) (slot : Slot) (value : String) : Except Stop Level :=
  if (level.given.lookup slot.name).isSome then .error (.complaint .usage)
  else
    match slot.read value with
    | .ok value => .ok { level with given := (slot.name, value) :: level.given }
    | .error complaint => .error (.complaint complaint)

def settle (level : Level) : Except Stop Level :=
  match level.pending with
  | none => .ok level
  | some (_, none) => .error (.complaint .usage)
  | some (slot, some value) => { level with pending := none }.accept slot value

def raise (level : Level) (name : String) : Except Stop Level := do
  let level ← level.settle
  if name = "version" then .error .version
  else if name = "help" then .error .help
  else if (level.given.lookup name).isSome then .error (.complaint .usage)
  else .ok { level with given := (name, .flag) :: level.given }

def raiseLetters (level : Level) : List Char → Except Stop Level
  | [] => .ok level
  | letter :: rest =>
    match level.form.letter? letter with
    | some name => do (← level.raise name).raiseLetters rest
    | none => .error (.complaint .usage)

def takeNamed (level : Level) (name : String) (value : Option String) : Except Stop Level :=
  match level.form.option? name with
  | some slot => do
    let level ← level.settle
    match value with
    | some value => level.accept slot value
    | none => .ok { level with pending := some (slot, none) }
  | none =>
    if level.form.hasFlag name ∧ value = none then level.raise name
    else .error (.complaint .usage)

def place (level : Level) (value : String) : Except Stop Level :=
  match level.form.positionals[level.placed]? with
  | some slot => do
    let level ← level.settle
    .ok { level with pending := some (slot, some value), placed := level.placed + 1 }
  | none => .error (.complaint .usage)

def fill (level : Level) (value : String) : Level :=
  { level with pending := level.pending.map fun (slot, _) => (slot, some value) }

end Level

/-- The arguments read so far: the command being read and those around it, the nearest first. After
two hyphens only values follow. -/
structure Reading where
  level : Level
  outer : List Level
  trailing : Bool
deriving DecidableEq, Repr

namespace Reading

def start : Reading := ⟨.start [], [], false⟩

def enter (reading : Reading) (name : String) : Reading :=
  ⟨.start (reading.level.path ++ [name]), reading.level :: reading.outer, false⟩

def onLevel (reading : Reading) (level : Except Stop Level) : Except Stop Reading :=
  level.map fun level => { reading with level := level }

def feed (reading : Reading) (argument : String) : Except Stop Reading :=
  let level := reading.level
  if reading.trailing then reading.onLevel (level.place argument)
  else if !level.awaits && level.form.subcommands.contains argument then
    .ok (reading.enter argument)
  else
    match argument.toList with
    | ['-', '-'] => .ok { reading with trailing := true }
    | '-' :: '-' :: rest =>
      let name := String.ofList (rest.takeWhile (· ≠ '='))
      match rest.dropWhile (· ≠ '=') with
      | _ :: value => reading.onLevel (level.takeNamed name (some (String.ofList value)))
      | [] => reading.onLevel (level.takeNamed name none)
    | '-' :: letter :: rest => reading.onLevel (level.raiseLetters (letter :: rest))
    | _ =>
      if level.awaits then .ok { reading with level := level.fill argument }
      else reading.onLevel (level.place argument)

def asksHelp (reading : Reading) (argument : String) : Bool :=
  argument == "help" && !reading.trailing && !reading.level.awaits &&
    reading.level.form.subcommands ≠ []

def feedAll (reading : Reading) : List String → Except Stop Reading
  | [] => .ok reading
  | argument :: rest =>
    if reading.asksHelp argument then
      .error (if Form.leads reading.level.path rest then .help else .complaint .usage)
    else do (← reading.feed argument).feedAll rest

/-- Reads the values that are held back, those of the inner command first. -/
def finish (reading : Reading) : Except Stop (Level × List Level) := do
  let level ← reading.level.settle
  let outer ← reading.outer.mapM Level.settle
  pure (level, outer)

end Reading

namespace Level

def hasFlag (level : Level) (name : String) : Bool := (level.given.lookup name).isSome

def text? (level : Level) (name : String) : Option String :=
  match level.given.lookup name with
  | some (.text text) => some text
  | _ => none

def byte? (level : Level) (name : String) : Option UInt8 :=
  match level.given.lookup name with
  | some (.byte value) => some value
  | _ => none

def word? (level : Level) (name : String) : Option UInt16 :=
  match level.given.lookup name with
  | some (.word value) => some value
  | _ => none

def dword? (level : Level) (name : String) : Option UInt32 :=
  match level.given.lookup name with
  | some (.dword value) => some value
  | _ => none

def size? (level : Level) (name : String) : Option Nat :=
  match level.given.lookup name with
  | some (.size value) => some value
  | _ => none

def profileSource? (level : Level) : Option ProfileSource :=
  match level.text? "file" with
  | some path =>
    if level.hasFlag "dpi" || level.hasFlag "rate" || level.hasFlag "lift-off" then none
    else some (.file path)
  | none => do
    pure (.numbers ⟨← level.dword? "dpi", ← level.dword? "rate", ← level.dword? "lift-off"⟩)

def byteAction? (level : Level) (name : String) : Option ByteAction :=
  if name = "get" then some .get
  else if name = "set" then (level.byte? "value").map .set
  else none

def command? (level : Level) : Option Command :=
  match level.path with
  | ["list-devices"] => some (.listDevices (level.hasFlag "json"))
  | ["validate-profile"] => level.profileSource?.map .validateProfile
  | ["apply-profile"] => level.profileSource?.map .applyProfile
  | ["backlight", name] => (level.byteAction? name).map .backlight
  | ["core-slot", name] => (level.byteAction? name).map .coreSlot
  | ["core-state"] => some (.coreState (level.hasFlag "json"))
  | ["sled-profile", name] => (level.byteAction? name).map .sledProfile
  | ["sled-enabled", "get"] => some (.sledEnabled .get)
  | ["sled-enabled", "on"] => some (.sledEnabled (.turn true))
  | ["sled-enabled", "off"] => some (.sledEnabled (.turn false))
  | ["dpi-step"] => do
    pure (.dpiStep (← level.text? "action") ((level.byte? "opcode").getD Opcode.dpiStep)
      (level.hasFlag "commit"))
  | ["flash-read"] => (level.word? "address").map .flashRead
  | ["flash-read-dwords"] => do
    pure (.flashReadDwords (← level.dword? "address") (← level.byte? "count"))
  | ["flash-write"] => do
    pure (.flashWrite (← level.word? "address") (← level.text? "data") (level.hasFlag "verify"))
  | ["flash-write-dwords"] => do
    pure (.flashWriteDwords (← level.dword? "address") (← level.text? "data"))
  | ["adjust-gun"] => do pure (.adjustGun (← level.word? "base") (← level.text? "file"))
  | ["save"] => (level.text? "strategy").map .save
  | ["exchange"] => do
    pure (.exchange (← level.byte? "opcode") (level.hasFlag "write")
      ((level.size? "offset").getD 0) ((level.text? "payload").getD ""))
  | ["read-report"] => do pure (.readReport (← level.byte? "report-id") (← level.size? "length"))
  | ["write-report"] => do pure (.writeReport (← level.byte? "report-id") (← level.text? "data"))
  | _ => none

end Level

/-- Reads the arguments. Of several serial numbers the innermost counts. -/
def readArguments (arguments : List String) : Except Stop Invocation := do
  let reading ← Reading.start.feedAll arguments
  let (level, outer) ← reading.finish
  match level.command? with
  | some command => .ok ⟨command, (level :: outer).findSome? (·.text? "serial")⟩
  | none => .error (.complaint .usage)

end MouseControl.Cli
