import MouseControl.Flash.Read

/-! Writing flash memory. Data goes out packet by packet in address order and stops at the first
failing packet; a verified write then reads the range back and compares it word by word. The count
of words is kept in 32 bits and packet addresses in the width of their space. -/
namespace MouseControl.Flash
variable {σ : Type} (link : Link σ) (device : Device)

def wordsPayload (address : UInt16) (data : List UInt8) : List UInt8 :=
  wordBytes address ++ [UInt8.ofNat (data.length / wordLength)] ++ List.replicate 5 0 ++ data

def dwordsPayload (address : UInt32) (data : List UInt8) : List UInt8 :=
  dwordBytes address ++ [UInt8.ofNat (data.length / dwordLength)] ++ List.replicate 3 0 ++ data

def composeWords (address : UInt16) (index : Nat) (data : List UInt8) :
    Except Crash (List UInt8) := do
  let start ← sum16 address (UInt16.ofNat (index * wordsPerPacket))
  let head ← replace (List.replicate flashDataOffset 0) 0 2 (wordBytes start)
  let head ← replace head 2 1 [UInt8.ofNat (data.length / wordLength)]
  pure (head ++ data)

def composeDwords (address : UInt32) (index : Nat) (data : List UInt8) :
    Except Crash (List UInt8) := do
  let start ← sum32 address (UInt32.ofNat (index * dwordsPerPacket))
  let head ← replace (List.replicate flashDataOffset 0) 0 4 (dwordBytes start)
  let head ← replace head 4 1 [UInt8.ofNat (data.length / dwordLength)]
  pure (head ++ data)

/-- Sends packets of words, the first being the packet with the given index. -/
def sendWords (address : UInt16) : Nat → List (List UInt8) → Session σ Unit
  | _, [] => pure ()
  | index, data :: rest => do
    let payload ← Session.guarded (composeWords address index data)
    let _ ← execute link device (.write Opcode.flashWriteWords payload)
    sendWords address (index + 1) rest

def sendDwords (address : UInt32) : Nat → List (List UInt8) → Session σ Unit
  | _, [] => pure ()
  | index, data :: rest => do
    let payload ← Session.guarded (composeDwords address index data)
    let _ ← execute link device (.write Opcode.flashWriteDwords payload)
    sendDwords address (index + 1) rest

/-- Only the address of a packet of words can leave its width. -/
theorem sendWords_cons (address : UInt16) (index : Nat) (data : List UInt8)
    (rest : List (List UInt8)) :
    sendWords link device address index (data :: rest) = (do
      let start ← Session.guarded (sum16 address (UInt16.ofNat (index * wordsPerPacket)))
      let _ ← execute link device (.write Opcode.flashWriteWords (wordsPayload start data))
      sendWords link device address (index + 1) rest) := by
  rw [sendWords, composeWords]
  cases sum16 address (UInt16.ofNat (index * wordsPerPacket)) <;> rfl

theorem sendDwords_cons (address : UInt32) (index : Nat) (data : List UInt8)
    (rest : List (List UInt8)) :
    sendDwords link device address index (data :: rest) = (do
      let start ← Session.guarded (sum32 address (UInt32.ofNat (index * dwordsPerPacket)))
      let _ ← execute link device (.write Opcode.flashWriteDwords (dwordsPayload start data))
      sendDwords link device address (index + 1) rest) := by
  rw [sendDwords, composeDwords]
  cases sum32 address (UInt32.ofNat (index * dwordsPerPacket)) <;> rfl

def wordAt (bytes : List UInt8) (start : Nat) : Except Crash UInt16 := do
  pure (wordOf (← byteAt bytes start) (← byteAt bytes (start + 1)))

/-- The first difference between the words wanted, from the given index, and the bytes read at an
address. -/
def compareWords (address : UInt16) (actual : List UInt8) :
    Nat → List (List UInt8) → Except Halt Unit
  | _, [] => .ok ()
  | index, wanted :: rest =>
    match wordAt wanted 0, wordAt actual (2 * index) with
    | .ok expected, .ok found =>
      if expected = found then compareWords address actual (index + 1) rest
      else
        match sum16 address (UInt16.ofNat index) with
        | .ok place => .error (.failed (.flashVerifyMismatch place expected found))
        | .error crash => .error (.crashed crash)
    | .error crash, _ | _, .error crash => .error (.crashed crash)

def verifyBlocks (address : UInt16) (total : Nat) : Nat → List (List UInt8) → Session σ Unit
  | _, [] => pure ()
  | index, block :: rest => do
    let start ← Session.guarded (sum16 address (UInt16.ofNat (index * wordsPerRead)))
    Session.within (Error.sequenceFailed .flashVerify (index + 1) total) do
      let actual ← readEight link device start
      ExceptT.mk (pure (compareWords start actual 0 (pieces wordLength block)))
    verifyBlocks address total (index + 1) rest

def verifyWords (address : UInt16) (data : List UInt8) : Session σ Unit :=
  let blocks := pieces (wordsPerRead * wordLength) data
  verifyBlocks link device address blocks.length 0 blocks

def writeWords (address : UInt16) (data : List UInt8) (verify : Bool) : Session σ Unit := do
  let count ← ExceptT.mk (pure (checkPayloadLength data.length wordLength))
  let stop ← Session.guarded (sum32 address.toUInt32 (UInt32.ofNat count))
  if wordSpaceEnd < stop.toNat then
    Session.fail (.invalidFlashPayloadLength data.length wordLength)
  else
    sendWords link device address 0 (pieces (wordsPerPacket * wordLength) data)
    if verify then verifyWords link device address data

def writeDwords (address : UInt32) (data : List UInt8) : Session σ Unit := do
  let count ← ExceptT.mk (pure (checkPayloadLength data.length dwordLength))
  if dwordSpaceEnd < address.toNat + count then
    Session.fail (.invalidFlashPayloadLength data.length dwordLength)
  else
    sendDwords link device address 0 (pieces (dwordsPerPacket * dwordLength) data)

/-- Writes a calibration table and then, over a verified table only, the signature after it. -/
def writeTable (base : UInt16) (table : List UInt8) : Session σ Unit := do
  Session.check (checkTableLength table.length)
  if wordSpaceEnd ≤ base.toNat + tableWords then
    Session.fail (.invalidFlashPayloadLength (table.length + wordLength) wordLength)
  else
    writeWords link device base table true
    writeWords link device (UInt16.ofNat (base.toNat + tableWords)) (wordBytes tableSignature) true

end MouseControl.Flash
