import MouseControl.Flash.Write
import MouseControl.Proofs.Transcript

/-! The packets of a write of double words. A range that fits the space of 32-bit addresses is sent as
one packet for each piece of the data. A full packet has as many bytes as one of words. -/
namespace MouseControl.Flash
variable {σ : Type} {address : UInt32} {data : List UInt8}

def dwordPacket (address : UInt32) (index : Nat) (data : List UInt8) : Request :=
  .write Opcode.flashWriteDwords
    (dwordsPayload (address + UInt32.ofNat (index * dwordsPerPacket)) data)

def dwordPackets (address : UInt32) (data : List UInt8) : List Request :=
  (pieces (dwordsPerPacket * dwordLength) data).mapIdx (dwordPacket address)

structure DwordRange (address : UInt32) (data : List UInt8) : Prop where
  some : data ≠ []
  whole : data.length % dwordLength = 0
  inside : address.toNat + data.length / dwordLength ≤ dwordSpaceEnd

theorem DwordRange.aligned (range : DwordRange address data) : data.length % 4 = 0 := range.whole

theorem DwordRange.fits (range : DwordRange address data) :
    address.toNat + data.length / 4 ≤ 0x100000000 := range.inside

theorem getElem?_dwordPackets (address : UInt32) (data : List UInt8) (i : Nat) :
    (dwordPackets address data)[i]? =
      if i * 56 < data.length then some (dwordPacket address i ((data.drop (i * 56)).take 56))
      else none :=
  getElem?_mapIdx_pieces 56 data (dwordPacket address) i (by decide)

theorem length_dwordPackets (address : UInt32) (data : List UInt8) :
    (dwordPackets address data).length = (data.length + 55) / 56 := by
  rw [dwordPackets, List.length_mapIdx, length_pieces _ _ (by decide)]
  rfl

theorem dwordsPayload_fits (short : data.length ≤ 56) :
    (Request.write Opcode.flashWriteDwords (dwordsPayload address data)).Fits := by
  rw [Request.Fits, regionLength_eq]
  simp only [Request.write, dwordsPayload, length_dwordBytes, List.length_append, List.length_cons,
    List.length_nil, List.length_replicate]
  omega

theorem dwordPackets_fit (address : UInt32) (data : List UInt8) :
    ∀ packet ∈ dwordPackets address data, packet.Fits := by
  intro packet member
  obtain ⟨i, below, rfl⟩ := List.mem_mapIdx.mp member
  exact dwordsPayload_fits (length_of_mem_pieces (by decide) (List.getElem_mem below))

section Sending
variable (link : Link σ) (device : Device)

private theorem sendDwords_eq_exchangeAll (index : Nat) (chunks : List (List UInt8))
    (inside : ∀ i < chunks.length,
      address.toNat + (index + i) * dwordsPerPacket < 0x100000000) :
    sendDwords link device address index chunks =
      exchangeAll link device (chunks.mapIdx fun i => dwordPacket address (index + i)) := by
  refine exchangeAll_of_loop (fun _ => rfl) ?_
  intro i below chunk rest
  rw [sendDwords_cons, sum32_ofNat address _ (inside i below)]
  rfl

theorem writeDwords_eq (range : DwordRange address data) :
    writeDwords link device address data = exchangeAll link device (dwordPackets address data) := by
  have length : data.length ≠ 0 := fun none => range.some (List.length_eq_zero_iff.mp none)
  have whole := range.aligned
  have inside := range.fits
  have count : checkPayloadLength data.length dwordLength = .ok (data.length / 4) := by
    rw [checkPayloadLength, dwordLength_eq, if_neg length, if_neg (by decide),
      if_neg (by simpa using whole)]
  have reached : ¬ dwordSpaceEnd < address.toNat + data.length / 4 := by
    rw [dwordSpaceEnd_eq]
    omega
  have sending : sendDwords link device address 0 (pieces (dwordsPerPacket * dwordLength) data) =
      exchangeAll link device (dwordPackets address data) := by
    rw [sendDwords_eq_exchangeAll link device 0, dwordPackets]
    · simp only [Nat.zero_add]
    · intro i below
      rw [length_pieces _ _ (by decide), dwordLength_eq, dwordsPerPacket_eq] at below
      rw [dwordsPerPacket_eq]
      omega
  funext state
  rw [writeDwords, count]
  change (if dwordSpaceEnd < address.toNat + data.length / 4 then _ else _ : Session σ Unit) state = _
  rw [if_neg reached, sending]

theorem writeDwords_refused (outside : ¬ DwordRange address data) :
    writeDwords link device address data =
      Session.fail (.invalidFlashPayloadLength data.length dwordLength) := by
  funext state
  by_cases none : data.length = 0
  · rw [writeDwords, checkPayloadLength, if_pos none]
    rfl
  by_cases whole : data.length % dwordLength = 0
  · have far : dwordSpaceEnd < address.toNat + data.length / dwordLength := by
      refine Nat.lt_of_not_le fun near => outside ⟨?_, whole, near⟩
      rintro rfl
      exact none rfl
    rw [writeDwords, checkPayloadLength, if_neg none, if_neg (by decide), if_neg (fun odd => odd whole)]
    change (if dwordSpaceEnd < address.toNat + data.length / dwordLength then _
      else _ : Session σ Unit) state = _
    rw [if_pos far]
  · rw [writeDwords, checkPayloadLength, if_neg none, if_neg (by decide), if_pos whole]
    rfl

end Sending

end MouseControl.Flash
