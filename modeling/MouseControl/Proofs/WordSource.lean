import MouseControl.Flash.Source
import MouseControl.Proofs.Words

/-! A write of words that draws its bytes piece by piece does what the write of all of them does. -/
namespace MouseControl.Flash
variable {σ : Type}

namespace Source

private theorem length_bytes (source : Source) : source.bytes.length = source.length := by
  simp [bytes]

private theorem bytes_window (source : Source) (size index : Nat) :
    (source.bytes.drop (index * size)).take size = source.piece size index := by
  apply List.ext_getElem
  · simp [bytes, piece]
  · intro i left right
    simp [bytes, piece]

private theorem pieces_bytes (source : Source) {size : Nat} (pos : 0 < size) :
    pieces size source.bytes = (List.range (source.pieceCount size)).map (source.piece size) := by
  apply List.ext_getElem?
  intro i
  have place : i < source.pieceCount size ↔ i * size < source.length := by
    rw [pieceCount, ← Nat.succ_le_iff, Nat.le_div_iff_mul_le pos, Nat.succ_mul]
    omega
  rw [getElem?_pieces size _ i pos, length_bytes, bytes_window, List.getElem?_map]
  by_cases inside : i * size < source.length
  · rw [if_pos inside, List.getElem?_range (place.mpr inside)]
    rfl
  · rw [if_neg inside, List.getElem?_eq_none]
    · rfl
    · rw [List.length_range]
      exact Nat.le_of_not_lt fun below => inside (place.mp below)

end Source

private theorem eachPiece_eq (source : Source) (size : Nat) {step : Nat → List UInt8 → Session σ Unit}
    {loop : Nat → List (List UInt8) → Session σ Unit} (stop : ∀ index, loop index [] = pure ())
    (next : ∀ index piece rest, loop index (piece :: rest) = (do
      step index piece
      loop (index + 1) rest)) (index left : Nat) :
    eachPiece source size step index left =
      loop index ((List.range' index left).map (source.piece size)) := by
  induction left generalizing index with
  | zero => exact (stop index).symm
  | succ left ih => rw [eachPiece, ih, List.range'_succ, List.map_cons, next]

section Writing
variable (link : Link σ) (device : Device)

private theorem sendWords_single (address : UInt16) (index : Nat) (data : List UInt8)
    (rest : List (List UInt8)) :
    sendWords link device address index (data :: rest) = (do
      sendWords link device address index [data]
      sendWords link device address (index + 1) rest) := by
  simp only [sendWords, bind_assoc, pure_bind]

private theorem verifyBlocks_single (address : UInt16) (total index : Nat) (block : List UInt8)
    (rest : List (List UInt8)) :
    verifyBlocks link device address total index (block :: rest) = (do
      verifyBlocks link device address total index [block]
      verifyBlocks link device address total (index + 1) rest) := by
  simp only [verifyBlocks, bind_assoc, pure_bind]

/-- Drawing the bytes as they are sent makes no difference to a write. -/
theorem writeWordsFrom_eq (address : UInt16) (source : Source) (verify : Bool) :
    writeWordsFrom link device address source verify =
      writeWords link device address source.bytes verify := by
  have packets := source.pieces_bytes (by decide : 0 < wordsPerPacket * wordLength)
  have blocks := source.pieces_bytes (by decide : 0 < wordsPerRead * wordLength)
  have count : (pieces (wordsPerRead * wordLength) source.bytes).length =
      source.pieceCount (wordsPerRead * wordLength) := by
    rw [blocks, List.length_map, List.length_range]
  have sending := eachPiece_eq source (wordsPerPacket * wordLength) (fun _ => rfl)
    (sendWords_single link device address) 0 (source.pieceCount (wordsPerPacket * wordLength))
  have checking := eachPiece_eq source (wordsPerRead * wordLength) (fun _ => rfl)
    (verifyBlocks_single link device address (source.pieceCount (wordsPerRead * wordLength))) 0
    (source.pieceCount (wordsPerRead * wordLength))
  rw [← List.range_eq_range', ← packets] at sending
  rw [← List.range_eq_range', ← blocks] at checking
  simp only [writeWordsFrom, writeWords, verifyWords, source.length_bytes, count, sending, checking]

end Writing

end MouseControl.Flash
