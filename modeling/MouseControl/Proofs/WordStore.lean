import MouseControl.Proofs.Mouse
import MouseControl.Proofs.ReadBack

/-! Packets of words on a mouse. A packet stores its words at its address; packets that follow one
another store one range; a block read back shows the cells and changes nothing. -/
namespace MouseControl.Flash
open Mouse

def cell (address : UInt16) (i : Nat) : UInt32 := address.toUInt32 + UInt32.ofNat i

private theorem toUInt32_offset {address : UInt16} {offset : Nat}
    (inside : address.toNat + offset < 0x10000) :
    (address + UInt16.ofNat offset).toUInt32 = cell address offset := by
  apply UInt32.toNat_inj.mp
  simp only [cell, UInt16.toNat_toUInt32, UInt16.toNat_add, UInt16.toNat_ofNat', UInt32.toNat_add,
    UInt32.toNat_ofNat']
  omega

theorem cell_offset {address : UInt16} {offset : Nat} (inside : address.toNat + offset < 0x10000)
    (i : Nat) : cell (address + UInt16.ofNat offset) i = cell address (offset + i) := by
  rw [cell, toUInt32_offset inside, cell, cell, UInt32.add_assoc, ← UInt32.ofNat_add]

theorem cell_injective {address : UInt16} {i j : Nat} (left : i < 0x100000000) (right : j < 0x100000000)
    (same : cell address i = cell address j) : i = j :=
  Memory.offset_injective left right same

private theorem region_wordPacket {address : UInt16} {index : Nat} {data : List UInt8}
    (short : data.length ≤ flashDataLength) :
    (Region.ofBytes (wordPacket address index data).region).bytes =
      wordsPayload (address + UInt16.ofNat (index * wordsPerPacket)) data ++
        List.replicate (flashDataLength - data.length) 0 := by
  rw [ofBytes_region (wordPacket_fits short)]
  simp only [Request.region, wordPacket, Request.write, List.replicate_zero, List.nil_append,
    wordsPayload, List.length_append, length_wordBytes, List.length_cons, List.length_nil,
    List.length_replicate, regionLength_eq, flashDataLength_eq]
  congr 2
  omega

theorem taking_wordPacket (mouse : Mouse) (address : UInt16) (index : Nat) {data : List UInt8}
    (whole : data.length % 2 = 0) (short : data.length ≤ flashDataLength) :
    mouse.taking (reportId, (wordPacket address index data).report) =
      mouse.storing (address + UInt16.ofNat (index * wordsPerPacket)).toUInt32 (words data) := by
  rw [taking_report mouse (wordPacket_fits short)]
  change (mouse.perform Opcode.flashWriteWords writeFlag _).2 = _
  generalize start : address + UInt16.ofNat (index * wordsPerPacket) = place
  generalize packet : Region.ofBytes (wordPacket address index data).region = region
  have bytes : region.bytes = wordsPayload place data ++
      List.replicate (flashDataLength - data.length) 0 := by
    rw [← packet, region_wordPacket short, start]
  have startAt : region.wordAddress = place := by
    simp only [Region.wordAddress, Region.byte, bytes]
    exact wordOf_bytes place
  have count : (region.byte 2).toNat = data.length / 2 := by
    simp only [Region.byte, bytes]
    change (UInt8.ofNat (data.length / wordLength)).toNat = _
    rw [UInt8.toNat_ofNat', wordLength_eq]
    rw [flashDataLength_eq] at short
    omega
  have carried : region.dataWords.take (data.length / 2) = words data := by
    have rest : region.bytes.drop flashDataOffset =
        data ++ List.replicate (flashDataLength - data.length) 0 := by rw [bytes]; rfl
    have even : 2 * (data.length / 2) = data.length := by omega
    rw [Region.dataWords, rest, ← words_take, even, List.take_left]
  rw [perform, if_pos rfl]
  simp only [startAt, count, wordsPerPacket_eq]
  rw [Nat.min_eq_left (by rw [flashDataLength_eq] at short; omega), carried]

theorem taking_wordPackets (mouse : Mouse) {address : UInt16} {data : List UInt8}
    (range : WordRange address data) (count : Nat) :
    (((wordPackets address data).take count).map fun packet => (reportId, packet.report)).foldl
        taking mouse =
      mouse.storing address.toUInt32 ((words data).take (28 * count)) := by
  have whole := range.even
  have inside := range.fits
  refine taking_pieces whole (fun mouse index more => ?_) mouse count
  have even : ((data.drop (index * 56)).take 56).length % 2 = 0 := by
    simp only [List.length_take, List.length_drop]
    omega
  rw [taking_wordPacket mouse address index even (List.length_take_le ..),
    toUInt32_offset (by rw [wordsPerPacket_eq]; omega), wordsPerPacket_eq, Nat.mul_comm index]
  rfl

theorem taking_readBack (mouse : Mouse) (address : UInt16) (block : Nat) :
    mouse.taking (reportId, (readBack address block).report) = mouse := by
  rw [taking_report mouse (readBack_fits address block)]
  rfl

theorem perform_eight (mouse : Mouse) (address : UInt16) :
    ((mouse.perform Opcode.flashRead8 readFlag (.ofBytes (Request.query Opcode.flashRead8
        (wordBytes address)).region)).1.bytes.drop flashDataOffset).take 8 =
      wordsBytes (mouse.shown address.toUInt32 4) := by
  generalize packet : Region.ofBytes (Request.query Opcode.flashRead8 (wordBytes address)).region =
    region
  have startAt : region.wordAddress = address := by
    rw [← packet, Region.wordAddress]
    simp only [Region.byte, ofBytes_region (eightRequest_fits address)]
    exact wordOf_bytes address
  have answer : (mouse.perform Opcode.flashRead8 readFlag region).1 =
      .ofBytes (region.bytes.take 2 ++ List.replicate 6 0 ++
        wordsBytes (mouse.shown address.toUInt32 4)) := by
    rw [← startAt]
    rfl
  have length : (region.bytes.take 2 ++ List.replicate 6 (0 : UInt8)).length = 8 := by
    have long := region.length_eq
    rw [regionLength_eq] at long
    simp [long]
  have size : (wordsBytes (mouse.shown address.toUInt32 4)).length = 8 := by
    rw [length_wordsBytes, Mouse.shown, List.length_map, Memory.length_load]
  rw [answer, ofBytes_data _ length, List.take_take, Nat.min_eq_left (by omega), List.take_left' size]

theorem perform_readBack (mouse : Mouse) {address : UInt16} {block : Nat}
    (inside : address.toNat + 4 * block < 0x10000) {i : Nat} (below : i < 4) :
    (words ((mouse.perform Opcode.flashRead8 readFlag
        (.ofBytes (readBack address block).region)).1.bytes.drop flashDataOffset))[i]? =
      some (mouse.flash.word (cell address (4 * block + i)) ^^^ mouse.corrupt) := by
  have eight := perform_eight mouse (address + UInt16.ofNat (block * wordsPerRead))
  rw [readBack]
  generalize (mouse.perform Opcode.flashRead8 readFlag (.ofBytes (Request.query Opcode.flashRead8
    (wordBytes (address + UInt16.ofNat (block * wordsPerRead)))).region)).1.bytes.drop
      flashDataOffset = body at eight ⊢
  have four : (words body).take 4 =
      mouse.shown (address + UInt16.ofNat (block * wordsPerRead)).toUInt32 4 := by
    rw [← words_take, eight, ← List.append_nil (wordsBytes _), words_wordsBytes_append]
    exact List.append_nil _
  rw [← List.getElem?_take_of_lt below, four, Mouse.shown, List.getElem?_map,
    Memory.getElem?_load mouse.flash _ below, wordsPerRead_eq, Nat.mul_comm block,
    ← cell_offset inside]
  rfl

end MouseControl.Flash
