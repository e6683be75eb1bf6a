import MouseControl.Proofs.Rejection

/-! How a write of double words covers its range. What does not fit the space of 32-bit addresses is
turned down before the first call; anything else is cut into tiles of fourteen double words, which go
out in order up to the end or to the first exchange that fails. The tiles are described in plain
numbers, so that no address among them wraps. -/
namespace MouseControl.Flash
variable {σ : Type} {address : UInt32} {data : List UInt8}

def fourBytes (n : Nat) : List UInt8 :=
  [UInt8.ofNat n, UInt8.ofNat (n / 0x100), UInt8.ofNat (n / 0x10000), UInt8.ofNat (n / 0x1000000)]

def tileCount (data : List UInt8) (j : Nat) : Nat := min 14 (data.length / 4 - 14 * j)

def dwordTile (address : UInt32) (data : List UInt8) (j : Nat) : List UInt8 :=
  [0x07, 0x3B, 0, 0, 0x80, 0, 0, 0] ++ fourBytes (address.toNat + 14 * j) ++
    [UInt8.ofNat (tileCount data j), 0, 0, 0] ++
    (data.drop (56 * j)).take (4 * tileCount data j) ++ List.replicate (56 - 4 * tileCount data j) 0

def dwordTiles (address : UInt32) (data : List UInt8) : List (UInt8 × List UInt8) :=
  (List.range ((data.length / 4 + 13) / 14)).map fun j => (7, dwordTile address data j)

def Unwritable (address : UInt32) (data : List UInt8) : Prop :=
  data = [] ∨ data.length % 4 ≠ 0 ∨ 0x100000000 < address.toNat + data.length / 4

instance : Decidable (Unwritable address data) := inferInstanceAs (Decidable (_ ∨ _ ∨ _))

private theorem dwordRange_iff : DwordRange address data ↔ ¬ Unwritable address data := by
  constructor
  · rintro range (none | broken | far)
    · exact range.some none
    · exact broken range.aligned
    · exact absurd range.fits (Nat.not_le.mpr far)
  · intro writable
    refine ⟨fun none => writable (.inl none), ?_, ?_⟩
    · exact Decidable.byContradiction fun broken => writable (.inr (.inl broken))
    · exact Nat.not_lt.mp fun far => writable (.inr (.inr far))

private theorem dwordBytes_eq (dword : UInt32) : dwordBytes dword = fourBytes dword.toNat := by
  have byte (n : Nat) (small : n < 32) :
      (dword >>> UInt32.ofNat n).toUInt8 = UInt8.ofNat (dword.toNat / 2 ^ n) := by
    apply UInt8.toNat_inj.mp
    have plain : (UInt32.ofNat n).toNat = n := UInt32.toNat_ofNat_of_lt' (by simp [UInt32.size]; omega)
    rw [UInt32.toNat_toUInt8, UInt32.toNat_shiftRight, plain, Nat.mod_eq_of_lt small,
      Nat.shiftRight_eq_div_pow, UInt8.toNat_ofNat']
  have first : dword.toUInt8 = UInt8.ofNat dword.toNat := by
    apply UInt8.toNat_inj.mp
    rw [UInt32.toNat_toUInt8, UInt8.toNat_ofNat']
  have second := byte 8 (by decide)
  have third := byte 16 (by decide)
  have fourth := byte 24 (by decide)
  exact congr (congrArg List.cons first) (congr (congrArg List.cons second)
    (congr (congrArg List.cons third) (congrArg (fun b => [b]) fourth)))

section Range
variable (range : DwordRange address data)
include range

private theorem tile_inside {j : Nat} (below : j < (data.length / 4 + 13) / 14) :
    0 < tileCount data j ∧ address.toNat + 14 * j + tileCount data j ≤ 0x100000000 := by
  have fits := range.fits
  unfold tileCount
  omega

private theorem report_dwordPacket {j : Nat} (below : j < (data.length / 4 + 13) / 14) :
    (dwordPacket address j ((data.drop (j * 56)).take 56)).report = dwordTile address data j := by
  have whole := range.aligned
  obtain ⟨some, inside⟩ := tile_inside range below
  have start : (address + UInt32.ofNat (j * dwordsPerPacket)).toNat = address.toNat + 14 * j := by
    rw [dwordsPerPacket_eq, UInt32.toNat_add, UInt32.toNat_ofNat', Nat.mul_comm j 14]
    omega
  have length : ((data.drop (j * 56)).take 56).length = 4 * tileCount data j := by
    rw [List.length_take, List.length_drop]
    unfold tileCount
    omega
  have bytes : (data.drop (j * 56)).take 56 = (data.drop (56 * j)).take (4 * tileCount data j) := by
    rw [← length, Nat.mul_comm j 56, List.take_eq_take_iff, List.length_take]
    omega
  have count : 4 * tileCount data j / dwordLength = tileCount data j := by
    rw [dwordLength_eq]
    omega
  have payload : dwordsPayload (address + UInt32.ofNat (j * dwordsPerPacket))
      ((data.drop (j * 56)).take 56) = fourBytes (address.toNat + 14 * j) ++
        [UInt8.ofNat (tileCount data j)] ++ [0, 0, 0] ++
        (data.drop (56 * j)).take (4 * tileCount data j) := by
    rw [dwordsPayload, dwordBytes_eq, start, length, count, bytes]
    rfl
  have rest : regionLength - 0 - (dwordsPayload (address + UInt32.ofNat (j * dwordsPerPacket))
      ((data.drop (j * 56)).take 56)).length = 56 - 4 * tileCount data j := by
    rw [dwordsPayload, regionLength_eq]
    simp only [List.length_append, length_dwordBytes, List.length_singleton, List.length_replicate,
      length]
    omega
  change [0x07, 0x3B, 0, 0, 0x80, 0, 0, 0] ++ ([] ++ dwordsPayload _ _ ++
    List.replicate (regionLength - 0 - (dwordsPayload _ _).length) 0) = _
  rw [rest, payload, dwordTile]
  simp only [List.append_assoc, List.cons_append, List.nil_append]

private theorem reports_dwordPackets :
    (dwordPackets address data).map (fun packet => (reportId, packet.report)) =
      dwordTiles address data := by
  have whole := range.aligned
  apply List.ext_getElem?
  intro j
  rw [List.getElem?_map, getElem?_dwordPackets, dwordTiles, List.getElem?_map]
  by_cases below : j < (data.length / 4 + 13) / 14
  · rw [if_pos (by omega), List.getElem?_range below]
    simp only [Option.map_some, report_dwordPacket range below]
    rfl
  · rw [if_neg (by omega), List.getElem?_eq_none (by rw [List.length_range]; omega)]
    rfl

private theorem made_ne_nil {made : List Contact} {result : Except Halt Unit}
    (series : Series (dwordPackets address data) made result) : made ≠ [] := by
  rintro rfl
  have tiles := reports_dwordPackets range
  have some : (dwordTiles address data).length ≠ 0 := by
    have length : data.length ≠ 0 := fun none => range.some (List.length_eq_zero_iff.mp none)
    have whole := range.aligned
    rw [dwordTiles, List.length_map, List.length_range]
    omega
  cases series with
  | whole transcript good =>
    rw [← tiles, ← transcript.sent] at some
    exact some rfl
  | broken index breaks =>
    obtain ⟨request, earlier, outcomes, next, before, _, stopped, empty⟩ := breaks
    obtain ⟨answer, rest, rfl, _⟩ := stopped.begins
    simp at empty

end Range

/-- A write of double words is turned down, and makes no call, exactly if the data is empty or broken or
leaves the space. Otherwise the reports sent are the first of the tiles, none of which passes the end of
the space: all of them if the write ends well, and else those up to the first exchange that fails,
whose error is given back. -/
theorem writeDwords_tiles_range (link : Link σ) (device : Device) (address : UInt32)
    (data : List UInt8) (state : σ) :
    ∃ (result : Except Halt Unit) (left : σ) (made : List Contact),
      writeDwords link device address data state = (result, left) ∧
      writeDwords link.traced device address data ⟨state, []⟩ = (result, ⟨left, made⟩) ∧
      (result = .error (.failed (.invalidFlashPayloadLength data.length 4)) ↔
        Unwritable address data) ∧
      (made = [] ↔ Unwritable address data) ∧
      (¬ Unwritable address data →
        (∀ j < (dwordTiles address data).length,
          address.toNat + 14 * j + tileCount data j ≤ 0x100000000) ∧
        made.filterMap Contact.sent? <+: dwordTiles address data ∧
        ((result = .ok () ∧ made.filterMap Contact.sent? = dwordTiles address data) ∨
          ∃ j error last, result = .error (.failed error) ∧
            made.filterMap Contact.sent? = (dwordTiles address data).take (j + 1) ∧
            BreaksAt (dwordPackets address data) j made last error)) := by
  by_cases range : DwordRange address data
  · have writable := dwordRange_iff.mp range
    obtain ⟨result, left, made, ran, series⟩ := exchangeAll_series link device
      (dwordPackets_fit address data) ⟨state, []⟩
    rw [← writeDwords_eq link.traced device range, List.nil_append] at ran
    have plain : writeDwords link device address data state = (result, left) := by
      obtain ⟨same, kept⟩ := Deed.perform_traced device link (.writeDwords address data) state []
      change (writeDwords link.traced device address data ⟨state, []⟩).1 = _ at same
      change (writeDwords link.traced device address data ⟨state, []⟩).2.state = _ at kept
      rw [ran] at same kept
      exact Prod.ext same.symm kept.symm
    have tiles := reports_dwordPackets range
    have inside : ∀ j < (dwordTiles address data).length,
        address.toNat + 14 * j + tileCount data j ≤ 0x100000000 := by
      intro j below
      rw [dwordTiles, List.length_map, List.length_range] at below
      exact (tile_inside range below).2
    have sent := series.sent
    rw [tiles] at sent
    have touched := made_ne_nil range series
    refine ⟨result, left, made, plain, ran, ?_, by simp only [touched, writable],
      fun _ => ⟨inside, sent, ?_⟩⟩
    · simp only [writable, iff_false]
      rintro rfl
      have fair := (writeDwords_fair link device address data ⟨state, []⟩ rfl).2 _ _ ran
      exact touched (fair.1.mp rfl)
    · cases series with
      | whole transcript good => exact .inl ⟨rfl, transcript.sent.trans tiles⟩
      | broken index breaks =>
        refine .inr ⟨index, _, _, rfl, ?_, breaks⟩
        rw [breaks.sent, List.map_take, tiles]
  · have unwritable : Unwritable address data :=
      Decidable.byContradiction fun writable => range (dwordRange_iff.mpr writable)
    refine ⟨_, state, [], by rw [writeDwords_refused link device range]; rfl,
      by rw [writeDwords_refused link.traced device range]; rfl, ?_, ?_, ?_⟩
    · exact ⟨fun _ => unwritable, fun _ => rfl⟩
    · exact ⟨fun _ => unwritable, fun _ => rfl⟩
    · exact fun writable => absurd unwritable writable

-- Fifteen double words up to the very end of the space go out in two tiles. From one address further
-- on they are turned down.
theorem writeDwords_tiles_to_the_top :
    let link : Link Unit := ⟨fun _ _ _ _ => (.ok (), ()),
      fun _ _ _ _ => (.ok (reportId :: List.replicate 71 0), ())⟩
    let device : Device := ⟨0x09DA, 0x7F1B, "Bloody T50", ""⟩
    let data : List UInt8 := List.replicate 60 7
    let write := fun address => writeDwords link.traced device address data ⟨(), []⟩
    (write 0xFFFFFFF1).1 = .ok () ∧
      (write 0xFFFFFFF1).2.contacts.filterMap Contact.sent? = dwordTiles 0xFFFFFFF1 data ∧
      (dwordTiles 0xFFFFFFF1 data).length = 2 ∧
      (write 0xFFFFFFF2).1 = .error (.failed (.invalidFlashPayloadLength 60 4)) ∧
      (write 0xFFFFFFF2).2.contacts = [] := by
  intro link device data write
  have ok : (writeDwords link device 0xFFFFFFF1 data ()).1.isOk = true := by decide +kernel
  obtain ⟨result, left, made, plain, traced, _, _, tells⟩ :=
    writeDwords_tiles_range link device 0xFFFFFFF1 data ()
  obtain ⟨_, _, _, _, refused, rejected, untouched, _⟩ :=
    writeDwords_tiles_range link device 0xFFFFFFF2 data ()
  have far : Unwritable 0xFFFFFFF2 data := by decide +kernel
  obtain ⟨_, _, ended⟩ := tells (by decide +kernel)
  rw [plain] at ok
  simp only [write, traced, refused]
  rcases ended with ⟨well, all⟩ | ⟨_, _, _, failed, _⟩
  · exact ⟨well, all, by decide +kernel, rejected.mpr far, untouched.mpr far⟩
  · rw [failed] at ok
    cases ok

end MouseControl.Flash
