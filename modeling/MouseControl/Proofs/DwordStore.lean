import MouseControl.Proofs.DwordPackets
import MouseControl.Proofs.Mouse

/-! Packets of double words on a mouse. A double word lies in two cells, the first at twice its address,
so that a packet stores the words of its data from there on. Addresses of cells wrap around, those of
double words do not. -/
namespace MouseControl.Flash
open Mouse
variable {data : List UInt8}

private theorem region_dwordPacket {address : UInt32} {index : Nat} (short : data.length ≤ 56) :
    (Region.ofBytes (dwordPacket address index data).region).bytes =
      dwordsPayload (address + UInt32.ofNat (index * dwordsPerPacket)) data ++
        List.replicate (56 - data.length) 0 := by
  have fits : (dwordPacket address index data).Fits := dwordsPayload_fits short
  rw [ofBytes_region fits]
  simp only [Request.region, dwordPacket, Request.write, List.replicate_zero, List.nil_append,
    dwordsPayload, List.length_append, length_dwordBytes, List.length_cons, List.length_nil,
    List.length_replicate, regionLength_eq]
  congr 2
  omega

theorem taking_dwordPacket (mouse : Mouse) (address : UInt32) (index : Nat)
    (whole : data.length % 4 = 0) (short : data.length ≤ 56) :
    mouse.taking (reportId, (dwordPacket address index data).report) =
      mouse.storing ((address + UInt32.ofNat (index * dwordsPerPacket)) * 2) (words data) := by
  have fits : (dwordPacket address index data).Fits := dwordsPayload_fits short
  rw [taking_report mouse fits]
  change (mouse.perform Opcode.flashWriteDwords writeFlag _).2 = _
  generalize start : address + UInt32.ofNat (index * dwordsPerPacket) = place
  generalize packet : Region.ofBytes (dwordPacket address index data).region = region
  have bytes : region.bytes = dwordsPayload place data ++ List.replicate (56 - data.length) 0 := by
    rw [← packet, region_dwordPacket short, start]
  have startAt : region.dwordAddress = place := by
    simp only [Region.dwordAddress, Region.byte, bytes]
    exact dwordOf_bytes place
  have count : (region.byte 4).toNat = data.length / 4 := by
    simp only [Region.byte, bytes]
    change (UInt8.ofNat (data.length / dwordLength)).toNat = _
    rw [UInt8.toNat_ofNat', dwordLength_eq]
    omega
  have carried : region.dataWords.take (2 * (data.length / 4)) = words data := by
    have rest : region.bytes.drop flashDataOffset = data ++ List.replicate (56 - data.length) 0 := by
      rw [bytes]
      rfl
    have all : 2 * (2 * (data.length / 4)) = data.length := by omega
    rw [Region.dataWords, rest, ← words_take, all, List.take_left]
  have other : Opcode.flashWriteDwords ≠ Opcode.flashWriteWords := by decide
  rw [perform, if_neg other, if_pos rfl]
  simp only [startAt, count, dwordsPerPacket_eq]
  rw [Nat.min_eq_left (by omega), carried]

theorem dwordCell_offset (address : UInt32) (offset : Nat) :
    (address + UInt32.ofNat offset) * 2 = address * 2 + UInt32.ofNat (2 * offset) := by
  rw [UInt32.add_mul, UInt32.mul_comm (UInt32.ofNat offset), UInt32.ofNat_mul]
  rfl

theorem taking_dwordPackets (mouse : Mouse) {address : UInt32} (range : DwordRange address data)
    (count : Nat) :
    (((dwordPackets address data).take count).map fun packet => (reportId, packet.report)).foldl
        taking mouse =
      mouse.storing (address * 2) ((words data).take (28 * count)) := by
  have whole := range.aligned
  refine taking_pieces (by omega) (fun mouse index more => ?_) mouse count
  have aligned : ((data.drop (index * 56)).take 56).length % 4 = 0 := by
    simp only [List.length_take, List.length_drop]
    omega
  have place : 2 * (index * dwordsPerPacket) = 28 * index := by
    rw [dwordsPerPacket_eq]
    omega
  rw [taking_dwordPacket mouse address index aligned (List.length_take_le ..), dwordCell_offset,
    place]

end MouseControl.Flash
