import MouseControl.Proofs.Deed
import MouseControl.Proofs.DwordStore

/-! Double words read back. The answer to a read carries the cells from twice its address on, so that
data written in double words is read again through any window into it. -/
namespace MouseControl.Flash
open Mouse
variable {address : UInt32} {count : UInt8} {mouse : Mouse}

def windowRequest (address : UInt32) (count : UInt8) : Request :=
  .query Opcode.flashReadDwords (dwordBytes address ++ [count])

private theorem windowRequest_fits (address : UInt32) (count : UInt8) :
    (windowRequest address count).Fits := by
  simp only [Request.Fits, windowRequest, Request.query, List.length_append, length_dwordBytes,
    List.length_cons, List.length_nil, regionLength_eq]
  omega

private theorem readDwords_eq {σ : Type} (link : Link σ) (device : Device) (some : 0 < count.toNat)
    (few : count.toNat ≤ 14) :
    readDwords link device address count = (do
      let region ← execute link device (windowRequest address count)
      Session.guarded (slice region flashDataOffset (count.toNat * dwordLength))) := by
  have allowed : checkDwordCount count = .ok count := by
    have positive : count ≠ 0 := by
      rintro rfl
      cases some
    have within : ¬ dwordCountMax < count := by
      rw [UInt8.lt_iff_toNat_lt]
      exact Nat.not_lt.mpr few
    rw [checkDwordCount, if_neg]
    rintro (zero | many)
    · exact positive zero
    · exact within many
  rw [readDwords, allowed]
  rfl

private theorem perform_window (mouse : Mouse) (address : UInt32) (few : count.toNat ≤ 14) :
    ((mouse.perform Opcode.flashReadDwords readFlag
        (.ofBytes (windowRequest address count).region)).1.bytes.drop flashDataOffset).take
          (count.toNat * dwordLength) =
      wordsBytes (mouse.shown (address * 2) (2 * count.toNat)) := by
  generalize packet : Region.ofBytes (windowRequest address count).region = region
  have bytes : region.bytes = (windowRequest address count).region := by
    rw [← packet, ofBytes_region (windowRequest_fits address count)]
  have startAt : region.dwordAddress = address := by
    simp only [Region.dwordAddress, Region.byte, bytes]
    exact dwordOf_bytes address
  have amount : region.byte 4 = count := by
    simp only [Region.byte, bytes]
    rfl
  have length : (region.bytes.take 5 ++ List.replicate 3 (0 : UInt8)).length = 8 := by
    have long := region.length_eq
    rw [regionLength_eq] at long
    simp [long]
  have answer : (mouse.perform Opcode.flashReadDwords readFlag region).1 =
      .ofBytes (region.bytes.take 5 ++ List.replicate 3 0 ++
        wordsBytes (mouse.shown (address * 2) (2 * count.toNat))) := by
    rw [← startAt, ← amount, ← Nat.min_eq_left (by rw [amount]; exact few :
      (region.byte 4).toNat ≤ dwordsPerPacket)]
    rfl
  have size : (wordsBytes (mouse.shown (address * 2) (2 * count.toNat))).length =
      count.toNat * dwordLength := by
    rw [length_wordsBytes, Mouse.shown, List.length_map, Memory.length_load, dwordLength_eq]
    omega
  rw [answer, ofBytes_data _ length, List.take_take, dwordLength_eq, Nat.min_eq_left (by omega),
    ← dwordLength_eq, ← size, List.take_left]

theorem readDwords_shows (device : Device) (address : UInt32) (some : 0 < count.toNat)
    (few : count.toNat ≤ 14) (empty : mouse.queue = [])
    (written : mouse.failWrites.lookup mouse.writes = none)
    (answered : mouse.failReads.lookup mouse.reads = none) :
    ∃ left, readDwords Mouse.link device address count mouse =
        (.ok (wordsBytes (mouse.shown (address * 2) (2 * count.toNat))), left) ∧
      left.holdings = mouse.holdings := by
  have executed : execute Mouse.link device (windowRequest address count) mouse =
      (.ok (mouse.perform Opcode.flashReadDwords readFlag
          (.ofBytes (windowRequest address count).region)).1.bytes,
        { mouse.answering (windowRequest address count) with
          reads := mouse.reads + 1, pending := none }) := by
    rw [execute_mouse device (windowRequest_fits address count) empty, written, answered]
    rfl
  have room : flashDataOffset + count.toNat * dwordLength ≤ (mouse.perform Opcode.flashReadDwords
      readFlag (.ofBytes (windowRequest address count).region)).1.bytes.length := by
    rw [Region.length_eq, regionLength_eq, flashDataOffset_eq, dwordLength_eq]
    omega
  refine ⟨{ mouse.answering (windowRequest address count) with
    reads := mouse.reads + 1, pending := none }, ?_, ?_⟩
  · rw [readDwords_eq Mouse.link device some few, Session.bind_ok executed, Session.guarded, slice,
      if_pos room, perform_window mouse address few]
    rfl
  · exact answering_holdings mouse (windowRequest address count)

theorem perform_willing (device : Device) (willing : mouse.Willing) (deed : Deed) :
    (deed.perform Mouse.link device mouse).2.Willing := by
  have kept := (Deed.perform_alike device (scripted_alike mouse) deed mouse mouse
    ⟨rfl, willing.queue, rfl, rfl⟩).2.2
  exact ⟨kept.queue, kept.failWrites.trans willing.failWrites,
    kept.failReads.trans willing.failReads⟩

private theorem writeDwords_stores (device : Device) {data : List UInt8} (range : DwordRange address data)
    (willing : mouse.Willing) :
    ∃ left, writeDwords Mouse.link device address data mouse = (.ok (), left) ∧ left.Willing ∧
      left.holdings = (mouse.storing (address * 2) (words data)).holdings := by
  obtain ⟨result, left, taken, sent, _, held, ended⟩ :=
    exchangeAll_mouse device (dwordPackets_fit address data) willing.queue
  rcases ended with ⟨rfl, all, _⟩ | ⟨_, cut⟩
  · have written : writeDwords Mouse.link device address data mouse = (.ok (), left) := by
      rw [writeDwords_eq Mouse.link device range, sent]
    have still := perform_willing device willing (.writeDwords address data)
    simp only [Deed.perform, written] at still
    refine ⟨left, written, still, ?_⟩
    have every : (words data).length ≤ 28 * taken := by
      rw [all, length_dwordPackets, length_words]
      omega
    rw [held, taking_dwordPackets mouse range, List.take_of_length_le every]
  · exact absurd cut (willing.uncut taken)

private theorem wordsBytes_window {data : List UInt8} (whole : data.length % 4 = 0) (k c : Nat) :
    wordsBytes (((words data).drop (2 * k)).take (2 * c)) = (data.drop (4 * k)).take (4 * c) := by
  have even : ((data.drop (4 * k)).take (4 * c)).length % 2 = 0 := by
    rw [List.length_take, List.length_drop]
    omega
  rw [← words_drop, ← words_take, show 2 * (2 * k) = 4 * k by omega,
    show 2 * (2 * c) = 4 * c by omega, wordsBytes_words even]

/-- On a sound mouse, double words that were written are read back through any window into them, and
nothing else has changed. Cells are told apart up to the whole space of addresses. -/
theorem writeDwords_read_through_windows (device : Device) {data : List UInt8}
    (range : DwordRange address data) (bound : data.length / 4 ≤ 0x80000000)
    (willing : mouse.Willing) (free : mouse.stuck = []) (plain : mouse.corrupt = 0) :
    ∃ left, writeDwords Mouse.link device address data mouse = (.ok (), left) ∧
      (∀ (k : Nat) (c : UInt8), 1 ≤ c.toNat → c.toNat ≤ 14 → k + c.toNat ≤ data.length / 4 →
        (readDwords Mouse.link device (address + UInt32.ofNat k) c left).1 =
          .ok ((data.drop (4 * k)).take (4 * c.toNat))) ∧
      (∀ place, (∀ i < data.length / 4, place ≠ (address + UInt32.ofNat i) * 2 ∧
          place ≠ (address + UInt32.ofNat i) * 2 + 1) →
        left.flash.word place = mouse.flash.word place) ∧
      left.registers = mouse.registers := by
  have whole := range.aligned
  have size : (words data).length = 2 * (data.length / 4) := by
    rw [length_words]
    omega
  obtain ⟨left, written, still, held⟩ := writeDwords_stores device range willing
  have flash : left.flash = mouse.flash.storeWords [] (address * 2) (words data) := by
    rw [← free]
    exact congrArg Holdings.flash held
  have clear : left.corrupt = 0 := (congrArg Holdings.corrupt held).trans plain
  refine ⟨left, written, ?_, ?_, congrArg Holdings.registers held⟩
  · intro k c some few inside
    obtain ⟨after, read, _⟩ := readDwords_shows device (address + UInt32.ofNat k) some few still.queue
      (by rw [still.failWrites]; rfl) (by rw [still.failReads]; rfl)
    have shown : left.shown ((address + UInt32.ofNat k) * 2) (2 * c.toNat) =
        ((words data).drop (2 * k)).take (2 * c.toNat) := by
      rw [Mouse.shown, clear, flash, dwordCell_offset, Memory.load_storeWords (by omega) (by omega)]
      simp
    rw [read, shown, wordsBytes_window whole]
  · intro place outside
    rw [flash]
    apply Memory.word_storeWords_outside
    intro j below same
    obtain ⟨low, high⟩ := outside (j / 2) (by omega)
    rw [dwordCell_offset] at low high
    rcases Nat.mod_two_eq_zero_or_one j with even | odd
    · exact absurd same (by rwa [show 2 * (j / 2) = j by omega] at low)
    · refine absurd same ?_
      rw [show j = 2 * (j / 2) + 1 by omega, UInt32.ofNat_add, ← UInt32.add_assoc]
      exact high

-- The last twenty double words of the space, whose cells wrap around to the top of the words.
theorem writeDwords_read_at_the_top :
    let device : Device := ⟨0x09DA, 0x7F1B, "Bloody T50", ""⟩
    let data := List.replicate 80 3
    (DwordRange 0xFFFFFFEC data ∧ data.length / 4 ≤ 0x80000000 ∧ Mouse.fresh.Willing ∧
      Mouse.fresh.stuck = [] ∧ Mouse.fresh.corrupt = 0) ∧
    ∃ left, writeDwords Mouse.link device 0xFFFFFFEC data Mouse.fresh = (.ok (), left) ∧
      (readDwords Mouse.link device (0xFFFFFFEC + 7) 13 left).1 = .ok (List.replicate 52 3) := by
  intro device data
  have range : DwordRange 0xFFFFFFEC data := ⟨by decide, by decide, by decide⟩
  have bound : data.length / 4 ≤ 0x80000000 := by decide
  have willing : Mouse.fresh.Willing := ⟨rfl, rfl, rfl⟩
  obtain ⟨left, written, read, _⟩ :=
    writeDwords_read_through_windows device range bound willing rfl rfl
  exact ⟨⟨range, bound, willing, rfl, rfl⟩, left, written, read 7 13 (by decide) (by decide) (by decide)⟩

end MouseControl.Flash
