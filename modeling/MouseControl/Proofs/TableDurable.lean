import MouseControl.Proofs.Clear
import MouseControl.Proofs.Table

/-! The calibration table after a write that ends well. The write makes a fixed number of exchanges, and
ends well exactly if none of them is scripted to fail and the cells that are stuck hold their words
already. The table and its signature are then stored, and nothing else has changed. -/
namespace MouseControl.Flash
open Mouse
variable {address base : UInt16} {data table : List UInt8} {device : Device} {mouse left : Mouse}
  {result : Except Halt Unit}

private theorem verifyWords_clear (range : WordRange address data) (empty : mouse.queue = [])
    (ran : verifyWords Mouse.link device address data mouse = (result, left)) :
    (result = .ok () ↔ mouse.Clear (((words data).length + 3) / 4) ∧
      ∀ k < (words data).length,
        (words data)[k]? = some (mouse.flash.word (cell address k) ^^^ mouse.corrupt)) ∧
    (result = .ok () → After mouse (((words data).length + 3) / 4) left) := by
  obtain ⟨outcomes, ended, shown, same, run, verdict⟩ :=
    verifyWords_verdict Mouse.link device range mouse
  rw [ran, Prod.mk.injEq] at same
  obtain ⟨rfl, rfl⟩ := same
  have shows (good : AllOk outcomes) {k : Nat} (bound : k / 4 < outcomes.length) :
      returned outcomes k = some (mouse.flash.word (cell address k) ^^^ mouse.corrupt) := by
    obtain ⟨region, ok⟩ := good _ (List.getElem_mem bound)
    exact returned_shown empty (readBacks_inside range verdict) run
      ((List.getElem?_eq_getElem bound).trans (congrArg some ok))
  have exchanged := exchanges_clear (readBacks_fit address _) empty run
  rcases verdict.fault with ⟨rfl, all, right⟩ | ⟨k, below, last, _, wrong, rfl⟩
  · -- Every word was returned, so that every block was read.
    have good : AllOk outcomes := by
      intro outcome member
      obtain ⟨block, bound, rfl⟩ := List.mem_iff_getElem.mp member
      have inside : 4 * block < (words data).length := by omega
      obtain ⟨region, ok⟩ := returned_read ((right _ inside).trans (List.getElem?_eq_getElem inside))
      rw [Nat.mul_div_cancel_left _ (by decide), List.getElem?_eq_getElem bound] at ok
      exact ⟨region, Option.some.inj ok⟩
    rcases exchanged with ⟨_, clear, after⟩ | ⟨unread, _⟩
    · rw [← all]
      refine ⟨⟨fun _ => ⟨clear, fun k below => ?_⟩, fun _ => rfl⟩, fun _ => after⟩
      rw [← right k below, shows good (by omega)]
    · exact absurd good unread
  · refine ⟨⟨fun ok => (by cases ok), ?_⟩, fun ok => (by cases ok)⟩
    rintro ⟨clear, cells⟩
    rcases exchanged with ⟨good, _, _⟩ | ⟨_, failing⟩
    · exact absurd ((shows good (by omega)).trans (cells k below).symm) wrong
    · exact absurd (clear.mono (by omega)) failing

namespace Landed
variable {packets : Nat}

private theorem word_iff (landed : Landed mouse left address data packets) {k : Nat}
    (taken : k < 28 * packets) (inside : k < (words data).length) :
    (words data)[k]? = some (left.flash.word (cell address k)) ↔
      (cell address k ∈ mouse.stuck → (words data)[k]? = some (mouse.flash.word (cell address k))) := by
  by_cases stuck : cell address k ∈ mouse.stuck
  · rw [landed.kept _ fun _ _ _ => stuck, imp_iff_right stuck]
  · have found := List.getElem?_eq_getElem inside
    refine ⟨fun _ held => absurd held stuck, fun _ => ?_⟩
    rw [landed.stored k _ taken found stuck, found]

private theorem outside (landed : Landed mouse left address data packets) {place : UInt32}
    (outside : ∀ i < (words data).length, place ≠ cell address i) :
    left.flash.word place = mouse.flash.word place := by
  apply landed.kept
  intro i inside same
  exact absurd same (outside i (by omega))

end Landed

private theorem writeWords_landed (range : WordRange address data) {verify : Bool}
    (ran : writeWords Mouse.link device address data verify mouse = (result, left)) :
    ∃ packets, Landed mouse left address data packets := by
  obtain ⟨_, _, contacts, _, plain, _, landed⟩ := writeWords_stores device mouse range verify
  rw [ran, Prod.mk.injEq] at plain
  obtain ⟨rfl, rfl⟩ := plain
  exact ⟨_, landed⟩

/-- The exchanges of a verified write: one a packet and one a block of four words. -/
def verifiedExchanges (data : List UInt8) : Nat :=
  (data.length + 55) / 56 + ((words data).length + 3) / 4

private theorem writeWords_clear (range : WordRange address data) (empty : mouse.queue = [])
    (plain : mouse.corrupt = 0)
    (ran : writeWords Mouse.link device address data true mouse = (result, left)) :
    (result = .ok () ↔ mouse.Clear (verifiedExchanges data) ∧
      ∀ k < (words data).length, cell address k ∈ mouse.stuck →
        (words data)[k]? = some (mouse.flash.word (cell address k))) ∧
    (result = .ok () → After mouse (verifiedExchanges data) left) := by
  have whole := range.even
  obtain ⟨sent, middle, taken, sending, _, held, ended⟩ :=
    exchangeAll_mouse device (wordPackets_fit address data) empty
  rw [taking_wordPackets mouse range] at held
  have landed : Landed mouse middle address data taken := landed_of_holdings range held
  rw [writeWords_eq Mouse.link device range true] at ran
  rcases exchangeAll_clear (wordPackets_fit address data) empty sending with
    ⟨rfl, clear, after⟩ | ⟨failed, failing⟩
  · rw [length_wordPackets] at clear after
    rw [Session.bind_ok sending, if_pos rfl] at ran
    have all : taken = (data.length + 55) / 56 := by
      rcases ended with ⟨_, all, _⟩ | ⟨⟨error, failed⟩, _⟩
      · rw [all, length_wordPackets]
      · cases failed
    have cells {k : Nat} (inside : k < (words data).length) :
        (words data)[k]? = some (middle.flash.word (cell address k) ^^^ middle.corrupt) ↔
          (cell address k ∈ mouse.stuck →
            (words data)[k]? = some (mouse.flash.word (cell address k))) := by
      have taken : k < 28 * taken := by
        rw [length_words] at inside
        omega
      rw [after.corrupt, plain, UInt16.xor_zero]
      exact landed.word_iff taken inside
    obtain ⟨ok_iff, later⟩ := verifyWords_clear range after.queue ran
    refine ⟨?_, fun ok => after.trans (later ok)⟩
    rw [ok_iff, verifiedExchanges, after.clear_add, and_iff_right clear]
    exact and_congr_right fun _ => forall₂_congr fun _ inside => cells inside
  · rw [length_wordPackets] at failing
    have stopped : result ≠ .ok () := by
      rcases sent with halt | _
      · rw [Session.bind_error sending, Prod.mk.injEq] at ran
        rw [← ran.1]
        exact fun ok => by cases ok
      · exact absurd rfl failed
    refine ⟨⟨fun ok => absurd ok stopped, ?_⟩, fun ok => absurd ok stopped⟩
    rintro ⟨clear, _⟩
    exact absurd (clear.mono (Nat.le_add_right _ _)) failing

section Signature
variable (room : base.toNat + 64 ≤ 0xFFFF)
  (ran : writeWords Mouse.link device (UInt16.ofNat (base.toNat + tableWords))
    (wordBytes tableSignature) true mouse = (result, left))
include room ran

private theorem signature_frame {place : UInt32} (outside : place ≠ cell base 64) :
    left.flash.word place = mouse.flash.word place := by
  obtain ⟨_, mark⟩ := writeWords_landed (signature_range base) ran
  apply mark.outside
  intro i below
  rw [length_words, length_wordBytes] at below
  obtain rfl : i = 0 := by omega
  rwa [cell_signature room]

private theorem signature_clear (empty : mouse.queue = []) (plain : mouse.corrupt = 0) :
    (result = .ok () ↔ mouse.Clear 2 ∧
      (cell base 64 ∈ mouse.stuck → mouse.flash.word (cell base 64) = tableSignature)) ∧
    (result = .ok () → left.flash.word (cell base 64) = tableSignature) := by
  have place : cell (UInt16.ofNat (base.toNat + tableWords)) 0 = cell base 64 :=
    cell_signature room 0
  have first : (words (wordBytes tableSignature))[0]? = some tableSignature := rfl
  obtain ⟨ok_iff, spent⟩ := writeWords_clear (signature_range base) empty plain ran
  constructor
  · rw [ok_iff]
    refine and_congr_right fun _ => ⟨fun cells stuck => ?_, fun held k below stuck => ?_⟩
    · have held := cells 0 (by decide) (by rwa [place])
      rw [first, place] at held
      exact (Option.some.inj held).symm
    · rw [length_words, length_wordBytes] at below
      obtain rfl : k = 0 := by omega
      rw [place] at stuck ⊢
      rw [first, held stuck]
  · intro ok
    subst ok
    have shown := writeWords_shows (signature_range base) empty ran first
    rwa [(spent rfl).corrupt, plain, UInt16.xor_zero, place] at shown

end Signature

section Table
variable (room : base.toNat + 64 ≤ 0xFFFF) (size : table.length = tableLength)
include room size

private theorem table_clear (empty : mouse.queue = []) (plain : mouse.corrupt = 0)
    (ran : writeWords Mouse.link device base table true mouse = (result, left)) :
    (result = .ok () ↔ mouse.Clear 19 ∧
      ∀ i < 64, cell base i ∈ mouse.stuck →
        (words table)[i]? = some (mouse.flash.word (cell base i))) ∧
    (result = .ok () → After mouse 19 left ∧
      ∀ i < 64, (words table)[i]? = some (left.flash.word (cell base i))) := by
  have range := table_range room size
  have count : verifiedExchanges table = 19 := by
    rw [verifiedExchanges, length_table size, size]
    rfl
  obtain ⟨ok_iff, spent⟩ := writeWords_clear range empty plain ran
  rw [count, length_table size] at ok_iff
  rw [count] at spent
  refine ⟨ok_iff, fun ok => ⟨spent ok, fun i below => ?_⟩⟩
  have inside : i < (words table).length := by rwa [length_table size]
  have found := List.getElem?_eq_getElem inside
  have after := spent ok
  subst ok
  have shown := writeWords_shows range empty ran found
  rw [after.corrupt, plain, UInt16.xor_zero] at shown
  rw [shown, found]

private theorem writeTable_frame (ran : writeTable Mouse.link device base table mouse = (result, left)) :
    (∀ place, (∀ i ≤ 64, place ≠ cell base i) → left.flash.word place = mouse.flash.word place) ∧
      left.registers = mouse.registers := by
  rw [writeTable_eq Mouse.link room size] at ran
  rcases written : writeWords Mouse.link device base table true mouse with ⟨ended, middle⟩
  obtain ⟨_, stored⟩ := writeWords_landed (table_range room size) written
  have before {place : UInt32} (outside : ∀ i ≤ 64, place ≠ cell base i) :
      middle.flash.word place = mouse.flash.word place := by
    apply stored.outside
    intro i below
    rw [length_table size] at below
    exact outside i (by omega)
  cases ended with
  | error halt =>
    rw [Session.bind_error written, Prod.mk.injEq] at ran
    rw [← ran.2]
    exact ⟨fun place => before, stored.registers⟩
  | ok _ =>
    rw [Session.bind_ok written] at ran
    obtain ⟨_, mark⟩ := writeWords_landed (signature_range base) ran
    refine ⟨fun place outside => ?_, mark.registers.trans stored.registers⟩
    exact (signature_frame room ran (outside 64 (Nat.le_refl 64))).trans (before outside)

/-- Both writes together: the second finds the cell of the signature as it was, and leaves the
table. -/
private theorem writeTable_clear (empty : mouse.queue = []) (plain : mouse.corrupt = 0)
    (ran : writeTable Mouse.link device base table mouse = (result, left)) :
    (result = .ok () → (∀ i < 64, (words table)[i]? = some (left.flash.word (cell base i))) ∧
      left.flash.word (cell base 64) = tableSignature) ∧
    (result = .ok () ↔ mouse.Clear 21 ∧
      (∀ i < 64, cell base i ∈ mouse.stuck →
        (words table)[i]? = some (mouse.flash.word (cell base i))) ∧
      (cell base 64 ∈ mouse.stuck → mouse.flash.word (cell base 64) = tableSignature)) := by
  rw [writeTable_eq Mouse.link room size] at ran
  rcases written : writeWords Mouse.link device base table true mouse with ⟨ended, middle⟩
  obtain ⟨table_iff, stores⟩ := table_clear room size empty plain written
  cases ended with
  | error halt =>
    rw [Session.bind_error written, Prod.mk.injEq] at ran
    rw [← ran.1]
    refine ⟨fun ok => (by cases ok), fun ok => (by cases ok), ?_⟩
    rintro ⟨clear, held, _⟩
    cases table_iff.mpr ⟨clear.mono (by omega), held⟩
  | ok _ =>
    rw [Session.bind_ok written] at ran
    obtain ⟨after, new⟩ := stores rfl
    obtain ⟨clear, held⟩ := table_iff.mp rfl
    obtain ⟨_, stored⟩ := writeWords_landed (table_range room size) written
    have old : middle.flash.word (cell base 64) = mouse.flash.word (cell base 64) :=
      stored.table_old size (Nat.le_refl 64) (Nat.min_le_right _ _)
    obtain ⟨mark_iff, marks⟩ := signature_clear room ran after.queue (after.corrupt.trans plain)
    refine ⟨fun ok => ⟨fun i below => ?_, marks ok⟩, ?_⟩
    · have apart : cell base i ≠ cell base 64 := by
        intro same
        have equal := cell_injective (by omega) (by omega) same
        omega
      rw [signature_frame room ran apart, new i below]
    · rw [mark_iff, after.stuck, old, after.clear_add 2, and_iff_right clear, and_iff_right held]

end Table

/-- A write of a table that ends well is durable: the table and its signature are in their cells. It
ends well exactly if none of its twenty-one exchanges is scripted to fail and every stuck cell holds its
word already. However it ends, no other cell has changed, and no register. -/
theorem writeTable_durable (device : Device) (mouse : Mouse) (base : UInt16) (table : List UInt8)
    (empty : mouse.queue = []) (plain : mouse.corrupt = 0) (room : base.toNat + 64 ≤ 0xFFFF)
    (size : table.length = tableLength) :
    ∃ (result : Except Halt Unit) (left : Mouse),
      writeTable Mouse.link device base table mouse = (result, left) ∧
      (result = .ok () → (∀ i < 64, (words table)[i]? = some (left.flash.word (cell base i))) ∧
        left.flash.word (cell base 64) = tableSignature) ∧
      (result = .ok () ↔ mouse.Clear 21 ∧
        (∀ i < 64, cell base i ∈ mouse.stuck →
          (words table)[i]? = some (mouse.flash.word (cell base i))) ∧
        (cell base 64 ∈ mouse.stuck → mouse.flash.word (cell base 64) = tableSignature)) ∧
      (∀ place, (∀ i ≤ 64, place ≠ cell base i) →
        left.flash.word place = mouse.flash.word place) ∧
      left.registers = mouse.registers := by
  rcases ran : writeTable Mouse.link device base table mouse with ⟨result, left⟩
  obtain ⟨stores, ok_iff⟩ := writeTable_clear room size empty plain ran
  exact ⟨result, left, rfl, stores, ok_iff, writeTable_frame room size ran⟩

-- The last base there is room for. A stuck cell holds its word, and the exchange after the last is to
-- fail.
theorem writeTable_durable_at_the_end :
    let table : List UInt8 := List.replicate 128 7
    let mouse := { Mouse.fresh with
      flash := Memory.blank.store 0xFFC0 0x0707
      stuck := [0xFFC0]
      failWrites := [(21, .timeout "late")]
      failReads := [(21, .timeout "late")] }
    mouse.queue = [] ∧ mouse.corrupt = 0 ∧ (0xFFBF : UInt16).toNat + 64 ≤ 0xFFFF ∧
      table.length = tableLength ∧
      ∃ left, writeTable Mouse.link ⟨0x09DA, 0x7F1B, "Bloody T50", ""⟩ 0xFFBF table mouse =
          (.ok (), left) ∧
        (∀ i < 64, (words table)[i]? = some (left.flash.word (cell 0xFFBF i))) ∧
        left.flash.word 0xFFFF = tableSignature ∧ left.flash.word 0xFFBE = Memory.erased := by
  intro table mouse
  have room : (0xFFBF : UInt16).toNat + 64 ≤ 0xFFFF := by decide
  have size : table.length = tableLength := List.length_replicate
  refine ⟨rfl, rfl, room, size, ?_⟩
  obtain ⟨result, left, ran, stores, ok_iff, kept, _⟩ := writeTable_durable
    ⟨0x09DA, 0x7F1B, "Bloody T50", ""⟩ mouse 0xFFBF table rfl rfl room size
  have stored (place : UInt32) : mouse.flash.word place =
      if 0xFFC0 = place then 0x0707 else Memory.erased := by
    rw [← Memory.word_blank place]
    exact Memory.word_store Memory.blank 0xFFC0 place 0x0707
  have clear : mouse.Clear 21 := by
    intro j below
    have early : List.lookup (0 + j) [(21, LinkError.timeout "late")] = none := by
      rw [List.lookup_eq_none_iff]
      intro entry member
      rw [List.mem_singleton.mp member, bne_iff_ne]
      omega
    exact ⟨early, early⟩
  have only {i : Nat} (below : i ≤ 64) (stuck : cell 0xFFBF i ∈ mouse.stuck) : i = 1 := by
    apply @cell_injective 0xFFBF i 1 (by omega) (by omega)
    exact List.mem_singleton.mp stuck
  have ok : result = .ok () := by
    refine ok_iff.mpr ⟨clear, fun i below stuck => ?_, fun stuck => ?_⟩
    · cases only (Nat.le_of_lt below) stuck
      rw [stored]
      rfl
    · cases only (Nat.le_refl 64) stuck
  subst ok
  obtain ⟨new, signed⟩ := stores rfl
  refine ⟨left, ran, new, signed, ?_⟩
  rw [kept 0xFFBE, stored]
  · rfl
  · intro i below same
    have place := congrArg UInt32.toNat same
    rw [cell, UInt32.toNat_add, UInt32.toNat_ofNat'] at place
    change 65470 = (65471 + i % 4294967296) % 4294967296 at place
    omega

end MouseControl.Flash
