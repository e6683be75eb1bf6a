import MouseControl.Proofs.WordVerify

/-! The calibration table and the signature after it, when the write is interrupted. The signature goes
out last, over a verified table. One that is there already is not taken back first, so that a write
over an older table can be cut with a mixed table under a signature that stands. -/
namespace MouseControl.Flash
open Mouse
variable {σ : Type} {base : UInt16} {table : List UInt8} {device : Device} {mouse left : Mouse}

private theorem tableWords_eq : tableWords = 64 := rfl
theorem tableLength_eq : tableLength = 128 := rfl

theorem table_range (room : base.toNat + 64 ≤ 0xFFFF) (size : table.length = tableLength) :
    WordRange base table := by
  rw [tableLength_eq] at size
  refine ⟨?_, ?_, ?_⟩
  · rintro rfl
    cases size
  · rw [size]
    rfl
  · rw [size, wordLength_eq, wordSpaceEnd_eq]
    omega

theorem length_table (size : table.length = tableLength) : (words table).length = 64 := by
  rw [length_words, size]
  rfl

theorem signature_range (base : UInt16) :
    WordRange (UInt16.ofNat (base.toNat + tableWords)) (wordBytes tableSignature) := by
  refine ⟨by decide, by decide, ?_⟩
  rw [length_wordBytes, wordLength_eq, wordSpaceEnd_eq, tableWords_eq, UInt16.toNat_ofNat']
  omega

theorem signature_address (base : UInt16) : UInt16.ofNat (base.toNat + tableWords) = base + 64 := by
  rw [tableWords_eq, UInt16.ofNat_add, UInt16.ofNat_toNat]
  rfl

theorem cell_signature (room : base.toNat + 64 ≤ 0xFFFF) (i : Nat) :
    cell (UInt16.ofNat (base.toNat + tableWords)) i = cell base (64 + i) := by
  have start : UInt16.ofNat (base.toNat + tableWords) = base + UInt16.ofNat 64 :=
    signature_address base
  rw [start, cell_offset (by omega)]

theorem writeTable_eq (link : Link σ) (room : base.toNat + 64 ≤ 0xFFFF)
    (size : table.length = tableLength) :
    writeTable link device base table = (do
      writeWords link device base table true
      writeWords link device (UInt16.ofNat (base.toNat + tableWords)) (wordBytes tableSignature)
        true) := by
  funext state
  rw [writeTable, checkTableLength, if_pos size]
  change (if wordSpaceEnd ≤ base.toNat + tableWords then _ else _ : Session σ Unit) state = _
  rw [if_neg (by rw [wordSpaceEnd_eq, tableWords_eq]; omega)]

theorem writeTable_wrong_size (link : Link σ) (wrong : table.length ≠ tableLength) :
    writeTable link device base table = Session.fail (.invalidTableLength table.length) := by
  funext state
  rw [writeTable, checkTableLength, if_neg wrong]
  rfl

theorem writeTable_no_room (link : Link σ) (size : table.length = tableLength)
    (full : 0xFFFF < base.toNat + 64) :
    writeTable link device base table =
      Session.fail (.invalidFlashPayloadLength (table.length + wordLength) wordLength) := by
  funext state
  rw [writeTable, checkTableLength, if_pos size]
  change (if wordSpaceEnd ≤ base.toNat + tableWords then _ else _ : Session σ Unit) state = _
  rw [if_pos (by rw [wordSpaceEnd_eq, tableWords_eq]; omega)]

namespace Landed
variable {packets i : Nat}

private theorem table_new (landed : Landed mouse left base table packets) (free : mouse.stuck = [])
    (size : table.length = tableLength) (below : i < 64) (taken : i < 28 * packets) :
    (words table)[i]? = some (left.flash.word (cell base i)) := by
  have bound : i < (words table).length := by rw [length_table size]; exact below
  rw [List.getElem?_eq_getElem bound, landed.stored i _ taken (List.getElem?_eq_getElem bound)]
  rw [free]
  exact List.not_mem_nil

theorem table_old (landed : Landed mouse left base table packets) (size : table.length = tableLength)
    (below : i ≤ 64) (untaken : min (28 * packets) 64 ≤ i) :
    left.flash.word (cell base i) = mouse.flash.word (cell base i) := by
  apply landed.kept
  intro j inside same
  rw [length_table size] at inside
  have equal := cell_injective (by omega) (by omega) same
  omega

end Landed

/-- Either the packets of the table are cut by the script, and so is the write, or the table ends up
whole. -/
private theorem writeTable_cases (device : Device) (empty : mouse.queue = []) (free : mouse.stuck = [])
    (room : base.toNat + 64 ≤ 0xFFFF) (size : table.length = tableLength) :
    (∃ error left taken, writeTable Mouse.link device base table mouse =
        (.error (.failed error), left) ∧ mouse.CutAfter taken ∧ Landed mouse left base table taken) ∨
      (∀ taken < 3, ¬ mouse.CutAfter taken) ∧
        ∀ i < 64, (words table)[i]? =
          some ((writeTable Mouse.link device base table mouse).2.flash.word (cell base i)) := by
  have range := table_range room size
  have packets : (wordPackets base table).length = 3 := by
    rw [length_wordPackets, size]
    rfl
  obtain ⟨result, sent, taken, ran, queue, held, ended⟩ :=
    exchangeAll_mouse device (wordPackets_fit base table) empty
  rw [taking_wordPackets mouse range] at held
  have landed : Landed mouse sent base table taken := landed_of_holdings range held
  rw [writeTable_eq Mouse.link room size, writeWords_eq Mouse.link device range true]
  rcases ended with ⟨rfl, all, uncut⟩ | ⟨⟨error, rfl⟩, cut⟩
  · refine .inr ⟨by rwa [packets] at uncut, ?_⟩
    -- All three packets were taken; what follows leaves the cells of the table alone.
    have new (i : Nat) (below : i < 64) : (words table)[i]? = some (sent.flash.word (cell base i)) :=
      landed.table_new free size below (by omega)
    rcases checked : verifyWords Mouse.link device base table sent with ⟨result, verified⟩
    have flash := congrArg Holdings.flash (verifyWords_holdings range queue checked)
    simp only [holdings] at flash
    have written : (exchangeAll Mouse.link device (wordPackets base table) >>= fun _ =>
        if true = true then verifyWords Mouse.link device base table else pure ()) mouse =
          (result, verified) := (Session.bind_ok ran).trans checked
    cases result with
    | error halt =>
      rw [Session.bind_error written]
      intro i below
      rw [new i below, ← flash]
    | ok _ =>
      rw [Session.bind_ok written]
      obtain ⟨result, signed, contacts, _, signing, _, mark⟩ :=
        writeWords_stores device verified (signature_range base) true
      rw [signing]
      intro i below
      rw [new i below, ← flash, mark.kept]
      intro j inside same
      rw [length_words, length_wordBytes] at inside
      rw [cell_signature room] at same
      have equal := cell_injective (by omega) (by omega) same
      omega
  · have stopped : (exchangeAll Mouse.link device (wordPackets base table) >>= fun _ =>
        if true = true then verifyWords Mouse.link device base table else pure ()) mouse =
          (.error (.failed error), sent) := Session.bind_error ran
    exact .inl ⟨error, sent, taken, Session.bind_error stopped, cut, landed⟩

/-- A write of a table is going to be cut between its packets, over a table that is signed and that
the packets change only in part. -/
def StaleCut (mouse : Mouse) (base : UInt16) (table : List UInt8) : Prop :=
  mouse.flash.word (cell base 64) = tableSignature ∧
    ∃ taken, (taken = 1 ∨ taken = 2) ∧ mouse.CutAfter taken ∧
      (∃ i < 28 * taken, (words table)[i]? ≠ some (mouse.flash.word (cell base i))) ∧
      ∃ i < 64, 28 * taken ≤ i ∧ (words table)[i]? ≠ some (mouse.flash.word (cell base i))

/-- What an interrupted write of a table is to leave: no signature, the table as it was, or the new
table. -/
def Unmixed (before after : Mouse) (base : UInt16) (table : List UInt8) : Prop :=
  after.flash.word (cell base 64) ≠ tableSignature ∨
    (∀ i < 64, after.flash.word (cell base i) = before.flash.word (cell base i)) ∨
    ∀ i < 64, (words table)[i]? = some (after.flash.word (cell base i))

private theorem Landed.unmixed_iff {taken : Nat} (landed : Landed mouse left base table taken)
    (free : mouse.stuck = []) (size : table.length = tableLength) :
    Unmixed mouse left base table ↔
      ¬ (mouse.flash.word (cell base 64) = tableSignature ∧
        (∃ i < 64, i < 28 * taken ∧ (words table)[i]? ≠ some (mouse.flash.word (cell base i))) ∧
        ∃ i < 64, 28 * taken ≤ i ∧ (words table)[i]? ≠ some (mouse.flash.word (cell base i))) := by
  have marker := landed.table_old size (Nat.le_refl 64) (Nat.min_le_right _ _)
  have new {i : Nat} (below : i < 64) := landed.table_new free size below
  have old {i : Nat} (below : i < 64) (untaken : 28 * taken ≤ i) :=
    landed.table_old size (Nat.le_of_lt below) (Nat.le_trans (Nat.min_le_left _ _) untaken)
  constructor
  · rintro unmixed ⟨signed, ⟨i, below, stored, differs⟩, j, inside, untaken, lacks⟩
    rcases unmixed with unsigned | same | whole
    · exact unsigned (marker.trans signed)
    · rw [new below stored, same i below] at differs
      exact differs rfl
    · rw [whole j inside, old inside untaken] at lacks
      exact lacks rfl
  · intro fine
    by_cases signed : mouse.flash.word (cell base 64) = tableSignature
    · by_cases differs : ∃ i < 64, i < 28 * taken ∧
          (words table)[i]? ≠ some (mouse.flash.word (cell base i))
      · -- The packets stored make a difference, so that those missing make none.
        refine .inr (.inr fun i below => ?_)
        by_cases stored : i < 28 * taken
        · exact new below stored
        · rw [old below (by omega)]
          exact Decidable.byContradiction fun lacks =>
            fine ⟨signed, differs, i, below, by omega, lacks⟩
      · refine .inr (.inl fun i below => ?_)
        by_cases stored : i < 28 * taken
        · apply Option.some.inj
          rw [← new below stored]
          exact Decidable.byContradiction fun other => differs ⟨i, below, stored, other⟩
        · exact old below (by omega)
    · exact .inl (by rwa [marker])

/-- An interrupted write of a table leaves no mixed table under a signature, unless there was a
signature already and the write is cut between packets that all make a difference. -/
theorem writeTable_interrupted (device : Device) (empty : mouse.queue = []) (free : mouse.stuck = [])
    (room : base.toNat + 64 ≤ 0xFFFF) (size : table.length = tableLength) :
    ((∃ halt, (writeTable Mouse.link device base table mouse).1 = .error halt) →
      Unmixed mouse (writeTable Mouse.link device base table mouse).2 base table) ↔
    ¬ StaleCut mouse base table := by
  rcases writeTable_cases device empty free room size with
    ⟨error, left, taken, ran, cut, landed⟩ | ⟨uncut, whole⟩
  · rw [ran]
    rw [imp_iff_right ⟨.failed error, rfl⟩, landed.unmixed_iff free size]
    apply not_congr
    constructor
    · rintro ⟨signed, ⟨i, below, stored, differs⟩, j, inside, untaken, lacks⟩
      exact ⟨signed, taken, by omega, cut, ⟨i, stored, differs⟩, j, inside, untaken, lacks⟩
    · rintro ⟨signed, count, between, other, ⟨i, stored, differs⟩, j, inside, untaken, lacks⟩
      cases cut.unique other
      exact ⟨signed, ⟨i, by omega, stored, differs⟩, j, inside, untaken, lacks⟩
  · constructor
    · rintro - ⟨_, taken, between, cut, _⟩
      exact uncut taken (by omega) cut
    · exact fun _ _ => .inr (.inr whole)

-- The second packet of a table over erased cells is not taken: there is no signature to mislead.
theorem writeTable_interrupted_unsigned :
    let mouse := { Mouse.fresh with failWrites := [(1, .timeout "x")] }
    let run := writeTable Mouse.link ⟨0x09DA, 0x7F1B, "Bloody T50", ""⟩ 2048 (List.replicate 128 0)
      mouse
    (∃ halt, run.1 = .error halt) → Unmixed mouse run.2 2048 (List.replicate 128 0) := by
  intro mouse run
  have unsigned : ¬ StaleCut mouse 2048 (List.replicate 128 0) := by
    rintro ⟨signed, _⟩
    rw [show mouse.flash.word (cell 2048 64) = Memory.erased from Memory.word_blank _] at signed
    exact absurd signed (by decide)
  exact (writeTable_interrupted ⟨0x09DA, 0x7F1B, "Bloody T50", ""⟩ rfl rfl (by decide)
    List.length_replicate).mpr unsigned

-- The same over a signed table: its first words are new, the others old, and the signature stands.
theorem writeTable_leaves_mixed_table :
    let mouse := { Mouse.fresh with
      flash := Memory.blank.store 2112 tableSignature, failWrites := [(1, .timeout "x")] }
    let run := writeTable Mouse.link ⟨0x09DA, 0x7F1B, "Bloody T50", ""⟩ 2048 (List.replicate 128 0)
      mouse
    (∃ halt, run.1 = .error halt) ∧ ¬ Unmixed mouse run.2 2048 (List.replicate 128 0) := by
  intro mouse run
  have cut : mouse.CutAfter 1 := by
    refine ⟨?_, by omega, .inr ?_⟩
    · intro j below
      rw [Nat.lt_one_iff.mp below]
      rfl
    · exact Option.some_ne_none _
  have stored (place : UInt32) : mouse.flash.word place =
      if 2112 = place then tableSignature else Memory.erased := by
    rw [← Memory.word_blank place]
    exact Memory.word_store Memory.blank 2112 place tableSignature
  have size : (List.replicate 128 (0 : UInt8)).length = tableLength := List.length_replicate
  rcases @writeTable_cases 2048 _ mouse ⟨0x09DA, 0x7F1B, "Bloody T50", ""⟩ rfl rfl (by decide)
    size with ⟨error, left, taken, ran, other, landed⟩ | ⟨uncut, _⟩
  · cases cut.unique other
    change (∃ halt, (writeTable _ _ _ _ mouse).1 = _) ∧ ¬ Unmixed mouse (writeTable _ _ _ _ mouse).2 _ _
    rw [ran, landed.unmixed_iff rfl size]
    refine ⟨⟨_, rfl⟩, not_not_intro ⟨?_, ⟨0, by decide, by decide, ?_⟩, 28, by decide, by decide, ?_⟩⟩
    all_goals rw [stored]
    all_goals decide
  · exact absurd cut (uncut 1 (by decide))

end MouseControl.Flash
