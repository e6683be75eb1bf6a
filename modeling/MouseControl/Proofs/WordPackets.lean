import MouseControl.Flash.Write
import MouseControl.Proofs.Transcript

/-! The packets of a write of words. A range that fits the word space is sent as one packet for each
piece of the data, with the address of its first word; no address on the way leaves 16 bits. -/
namespace MouseControl.Flash
variable {σ : Type}

def wordPacket (address : UInt16) (index : Nat) (data : List UInt8) : Request :=
  .write Opcode.flashWriteWords
    (wordsPayload (address + UInt16.ofNat (index * wordsPerPacket)) data)

def wordPackets (address : UInt16) (data : List UInt8) : List Request :=
  (pieces (wordsPerPacket * wordLength) data).mapIdx (wordPacket address)

structure WordRange (address : UInt16) (data : List UInt8) : Prop where
  some : data ≠ []
  whole : data.length % wordLength = 0
  inside : address.toNat + data.length / wordLength ≤ wordSpaceEnd

theorem WordRange.even {address : UInt16} {data : List UInt8} (range : WordRange address data) :
    data.length % 2 = 0 := range.whole

theorem WordRange.fits {address : UInt16} {data : List UInt8} (range : WordRange address data) :
    address.toNat + data.length / 2 ≤ 0x10000 := range.inside

theorem getElem?_wordPackets (address : UInt16) (data : List UInt8) (i : Nat) :
    (wordPackets address data)[i]? =
      if i * 56 < data.length then some (wordPacket address i ((data.drop (i * 56)).take 56))
      else none :=
  getElem?_mapIdx_pieces 56 data (wordPacket address) i (by decide)

theorem length_wordPackets (address : UInt16) (data : List UInt8) :
    (wordPackets address data).length = (data.length + 55) / 56 := by
  rw [wordPackets, List.length_mapIdx, length_pieces _ _ (by decide)]
  rfl

theorem wordsPayload_fits {address : UInt16} {data : List UInt8}
    (short : data.length ≤ flashDataLength) :
    (Request.write Opcode.flashWriteWords (wordsPayload address data)).Fits := by
  simp only [Request.Fits, Request.write, wordsPayload, List.length_append, length_wordBytes,
    List.length_cons, List.length_nil, List.length_replicate, regionLength_eq]
  rw [flashDataLength_eq] at short
  omega

theorem wordPacket_fits {address : UInt16} {index : Nat} {data : List UInt8}
    (short : data.length ≤ flashDataLength) : (wordPacket address index data).Fits :=
  wordsPayload_fits short

theorem wordPackets_fit (address : UInt16) (data : List UInt8) :
    ∀ packet ∈ wordPackets address data, packet.Fits := by
  intro packet member
  obtain ⟨i, below, rfl⟩ := List.mem_mapIdx.mp member
  exact wordPacket_fits (length_of_mem_pieces (by decide) (List.getElem_mem below))

theorem wordPackets_opcode (address : UInt16) (data : List UInt8) :
    ∀ packet ∈ wordPackets address data, packet.opcode = Opcode.flashWriteWords := by
  intro packet member
  obtain ⟨i, _, rfl⟩ := List.mem_mapIdx.mp member
  rfl

section Sending
variable (link : Link σ) (device : Device) {address : UInt16}

private theorem sendWords_eq_exchangeAll (index : Nat) (chunks : List (List UInt8))
    (inside : ∀ i < chunks.length, address.toNat + (index + i) * wordsPerPacket < 0x10000) :
    sendWords link device address index chunks =
      exchangeAll link device (chunks.mapIdx fun i => wordPacket address (index + i)) := by
  refine exchangeAll_of_loop (fun _ => rfl) ?_
  intro i below chunk rest
  rw [sendWords_cons, sum16_ofNat address _ (inside i below)]
  rfl

/-- The count of whole words is cut to 32 bits before it is added to the address, so that the sum can
leave 32 bits, and the count can hide how far the words reach. -/
theorem writeWords_whole {data : List UInt8} (some : data.length ≠ 0)
    (whole : data.length % wordLength = 0) (verify : Bool) :
    writeWords link device address data verify =
      if 0x100000000 ≤ address.toNat + data.length / 2 % 0x100000000 then
        Session.guarded (.error .overflow)
      else if wordSpaceEnd < address.toNat + data.length / 2 % 0x100000000 then
        Session.fail (.invalidFlashPayloadLength data.length wordLength)
      else (do
        sendWords link device address 0 (pieces (wordsPerPacket * wordLength) data)
        if verify then verifyWords link device address data) := by
  have count : checkPayloadLength data.length wordLength = .ok (data.length / 2) := by
    rw [checkPayloadLength, if_neg some, if_neg (by decide), if_neg (fun odd => odd whole)]
    rfl
  have cut : (UInt32.ofNat (data.length / 2)).toNat = data.length / 2 % 0x100000000 :=
    UInt32.toNat_ofNat'
  funext state
  rw [writeWords, count]
  change (Session.guarded (sum32 address.toUInt32 (UInt32.ofNat (data.length / 2))) >>= _) state = _
  rw [sum32, cut, UInt16.toNat_toUInt32]
  by_cases long : 0x100000000 ≤ address.toNat + data.length / 2 % 0x100000000
  · rw [if_neg (Nat.not_lt.mpr long), if_pos long]
    rfl
  · have reached : (address.toUInt32 + UInt32.ofNat (data.length / 2)).toNat =
        address.toNat + data.length / 2 % 0x100000000 := by
      rw [UInt32.toNat_add, cut, UInt16.toNat_toUInt32, Nat.mod_eq_of_lt (Nat.not_le.mp long)]
    rw [if_pos (Nat.not_le.mp long), if_neg long]
    change (if wordSpaceEnd < (address.toUInt32 + UInt32.ofNat (data.length / 2)).toNat then _
      else _ : Session σ Unit) state = _
    rw [reached]

private theorem writeWords_counted {data : List UInt8} (some : data.length ≠ 0)
    (whole : data.length % wordLength = 0) (few : address.toNat + data.length / 2 < 0x100000000)
    (verify : Bool) :
    writeWords link device address data verify =
      if wordSpaceEnd < address.toNat + data.length / 2 then
        Session.fail (.invalidFlashPayloadLength data.length wordLength)
      else (do
        sendWords link device address 0 (pieces (wordsPerPacket * wordLength) data)
        if verify then verifyWords link device address data) := by
  have plain : data.length / 2 % 0x100000000 = data.length / 2 := Nat.mod_eq_of_lt (by omega)
  rw [writeWords_whole link device some whole, plain, if_neg (Nat.not_le.mpr few)]

theorem writeWords_eq {data : List UInt8} (range : WordRange address data) (verify : Bool) :
    writeWords link device address data verify = (do
      exchangeAll link device (wordPackets address data)
      if verify then verifyWords link device address data) := by
  have length : data.length ≠ 0 := fun none => range.some (List.length_eq_zero_iff.mp none)
  have whole := range.even
  have inside := range.fits
  have sending : sendWords link device address 0 (pieces (wordsPerPacket * wordLength) data) =
      exchangeAll link device (wordPackets address data) := by
    rw [sendWords_eq_exchangeAll link device 0, wordPackets]
    · simp only [Nat.zero_add]
    · intro i below
      rw [length_pieces _ _ (by decide), wordLength_eq, wordsPerPacket_eq] at below
      rw [wordsPerPacket_eq]
      omega
  rw [writeWords_counted link device length range.whole (by omega),
    if_neg (by rw [wordSpaceEnd_eq]; omega), sending]

theorem writeWords_refused {data : List UInt8} (outside : ¬ WordRange address data)
    (short : data.length ≤ 0x1FFFE0000) (verify : Bool) :
    writeWords link device address data verify =
      Session.fail (.invalidFlashPayloadLength data.length wordLength) := by
  by_cases none : data.length = 0
  · funext state
    rw [writeWords, checkPayloadLength, if_pos none]
    rfl
  by_cases whole : data.length % wordLength = 0
  · have address_lt := address.toNat_lt
    have far : wordSpaceEnd < address.toNat + data.length / 2 := by
      refine Nat.lt_of_not_le fun near => outside ⟨?_, whole, near⟩
      rintro rfl
      exact none rfl
    rw [writeWords_counted link device none whole (by omega), if_pos far]
  · funext state
    rw [writeWords, checkPayloadLength, if_neg none, if_neg (by decide), if_pos whole]
    rfl

theorem writeWords_unverified {data : List UInt8} (range : WordRange address data) :
    writeWords link device address data false =
      exchangeAll link device (wordPackets address data) := by
  rw [writeWords_eq link device range false]
  exact bind_pure_unit

end Sending

end MouseControl.Flash
