import MouseControl.Flash.Write

/-! Data that is drawn as it is sent. A source gives its bytes by their index, so that a write of words
needs no more of them at a time than a packet or a block has room for, however many there are. -/
namespace MouseControl.Flash

structure Source where
  length : Nat
  byte : Nat → UInt8

namespace Source

def bytes (source : Source) : List UInt8 :=
  (List.range source.length).map source.byte

def piece (source : Source) (size index : Nat) : List UInt8 :=
  (List.range' (index * size) (min size (source.length - index * size))).map source.byte

def pieceCount (source : Source) (size : Nat) : Nat :=
  (source.length + (size - 1)) / size

end Source

variable {σ : Type} (link : Link σ) (device : Device)

def eachPiece (source : Source) (size : Nat) (step : Nat → List UInt8 → Session σ Unit) :
    Nat → Nat → Session σ Unit
  | _, 0 => pure ()
  | index, left + 1 => do
    step index (source.piece size index)
    eachPiece source size step (index + 1) left

def writeWordsFrom (address : UInt16) (source : Source) (verify : Bool) : Session σ Unit := do
  let count ← ExceptT.mk (pure (checkPayloadLength source.length wordLength))
  let stop ← Session.guarded (sum32 address.toUInt32 (UInt32.ofNat count))
  if wordSpaceEnd < stop.toNat then
    Session.fail (.invalidFlashPayloadLength source.length wordLength)
  else
    eachPiece source (wordsPerPacket * wordLength)
      (fun index data => sendWords link device address index [data]) 0
      (source.pieceCount (wordsPerPacket * wordLength))
    if verify then
      let blocks := source.pieceCount (wordsPerRead * wordLength)
      eachPiece source (wordsPerRead * wordLength)
        (fun index block => verifyBlocks link device address blocks index [block]) 0 blocks

end MouseControl.Flash
