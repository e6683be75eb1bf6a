import MouseControl.Link
import MouseControl.Mouse.Memory
import MouseControl.Packet

/-! A simulated mouse. It keeps a register of 64 bytes an opcode and a flash memory, answers each
packet at once and holds the answer until it is read or the next report is written. Cells can be
stuck, flash reads can be corrupted by a mask, answers can be queued ahead of its own, and writes and
reads can fail by their number. -/
namespace MouseControl

structure Region where
  bytes : List UInt8
  length_eq : bytes.length = regionLength
deriving DecidableEq, Repr

namespace Region

/-- A region from bytes, cut or filled up with zeros. -/
def ofBytes (bytes : List UInt8) : Region where
  bytes := (bytes ++ List.replicate regionLength 0).take regionLength
  length_eq := by simp

def byte (region : Region) (index : Nat) : UInt8 := region.bytes.getD index 0

def zero : Region := ofBytes []

def wordAddress (region : Region) : UInt16 := wordOf (region.byte 0) (region.byte 1)

def dwordAddress (region : Region) : UInt32 :=
  dwordOf (region.byte 0) (region.byte 1) (region.byte 2) (region.byte 3)

def dataWords (region : Region) : List UInt16 := words (region.bytes.drop flashDataOffset)

end Region

structure Mouse where
  registers : Std.HashMap UInt8 Region
  flash : Memory
  stuck : List UInt32
  corrupt : UInt16
  queue : List (List UInt8)
  failWrites : List (Nat × LinkError)
  failReads : List (Nat × LinkError)
  pending : Option (List UInt8)
  writes : Nat
  reads : Nat

namespace Mouse

def fresh : Mouse where
  registers := ∅
  flash := .blank
  stuck := []
  corrupt := 0
  queue := []
  failWrites := []
  failReads := []
  pending := none
  writes := 0
  reads := 0

def shown (mouse : Mouse) (address : UInt32) (count : Nat) : List UInt16 :=
  (mouse.flash.load address count).map (· ^^^ mouse.corrupt)

def storing (mouse : Mouse) (address : UInt32) (values : List UInt16) : Mouse :=
  { mouse with flash := mouse.flash.storeWords mouse.stuck address values }

/-- Carries a request out and gives the region of the answer. A double word is two words at twice its
address, the low one first. -/
def perform (mouse : Mouse) (opcode flag : UInt8) (region : Region) : Region × Mouse :=
  if opcode = Opcode.flashWriteWords then
    let count := min (region.byte 2).toNat wordsPerPacket
    (.ofBytes (region.bytes.take 8),
      mouse.storing region.wordAddress.toUInt32 (region.dataWords.take count))
  else if opcode = Opcode.flashWriteDwords then
    let count := min (region.byte 4).toNat dwordsPerPacket
    (.ofBytes (region.bytes.take 8),
      mouse.storing (region.dwordAddress * 2) (region.dataWords.take (2 * count)))
  else if opcode = Opcode.flashRead8 then
    (.ofBytes (region.bytes.take 2 ++ List.replicate 6 0 ++
      wordsBytes (mouse.shown region.wordAddress.toUInt32 wordsPerRead)), mouse)
  else if opcode = Opcode.flashReadDwords then
    let count := min (region.byte 4).toNat dwordsPerPacket
    (.ofBytes (region.bytes.take 5 ++ List.replicate 3 0 ++
      wordsBytes (mouse.shown (region.dwordAddress * 2) (2 * count))), mouse)
  else if flag = 0 then ((mouse.registers[opcode]?).getD .zero, mouse)
  else (region, { mouse with registers := mouse.registers.insert opcode region })

def respond (mouse : Mouse) (report : List UInt8) : List UInt8 × Mouse :=
  let opcode := report.getD 1 0
  let flag := report.getD 4 0
  let (region, mouse) := mouse.perform opcode flag (.ofBytes (report.drop headerLength))
  ((Request.mk opcode flag 0 []).header ++ region.bytes, mouse)

/-- Takes a report. Any answer that is still waiting is lost, and only a whole packet gets a new
one. -/
def write (mouse : Mouse) (id : UInt8) (data : List UInt8) : Except LinkError Unit × Mouse :=
  let counted := { mouse with writes := mouse.writes + 1 }
  match mouse.failWrites.lookup mouse.writes with
  | some error => (.error error, counted)
  | none =>
    if id = reportId ∧ data.length = packetLength then
      let (answer, left) := counted.respond data
      (.ok (), { left with pending := some answer })
    else (.ok (), { counted with pending := none })

/-- Gives a report: the first of the queue as it is, else the waiting answer up to a length. -/
def read (mouse : Mouse) (length : Nat) : Except LinkError (List UInt8) × Mouse :=
  let counted := { mouse with reads := mouse.reads + 1 }
  match mouse.failReads.lookup mouse.reads with
  | some error => (.error error, counted)
  | none =>
    match mouse.queue with
    | answer :: rest => (.ok answer, { counted with queue := rest })
    | [] =>
      match mouse.pending with
      | some answer => (.ok (answer.take length), { counted with pending := none })
      | none => (.error (.timeout "no pending response"), counted)

def link : Link Mouse where
  write _ id data mouse := mouse.write id data
  read _ _ length mouse := mouse.read length

end Mouse

structure Script where
  registers : List (UInt8 × List UInt8)
  flash : List (UInt32 × UInt16)
  stuck : List UInt32
  corrupt : Option UInt16
  queue : List (List UInt8)
  failWrites : List (Nat × LinkError)
  failReads : List (Nat × LinkError)

/-- The mouse after a script. Registers, cells and failures replace those before them; stuck cells
and queued answers are added. -/
def Mouse.apply (mouse : Mouse) (script : Script) : Mouse :=
  { mouse with
    registers := script.registers.foldl
      (fun registers (opcode, bytes) => registers.insert opcode (.ofBytes bytes)) mouse.registers
    flash := script.flash.foldl (fun flash (address, value) => flash.store address value) mouse.flash
    stuck := mouse.stuck ++ script.stuck
    corrupt := script.corrupt.getD mouse.corrupt
    queue := mouse.queue ++ script.queue
    failWrites := script.failWrites.reverse ++ mouse.failWrites
    failReads := script.failReads.reverse ++ mouse.failReads }

end MouseControl
