import MouseControl.Proofs.WordPackets

/-! Reading a written range back. The blocks are requested in order until one cannot be read or differs,
and how this ends depends only on the words returned inside the range. -/
namespace MouseControl.Flash
variable {σ : Type}

def readBack (address : UInt16) (block : Nat) : Request :=
  .query Opcode.flashRead8 (wordBytes (address + UInt16.ofNat (block * wordsPerRead)))

/-- The word with an index among those that the blocks read so far returned. -/
def returned (outcomes : List Outcome) (k : Nat) : Option UInt16 :=
  match outcomes[k / wordsPerRead]? with
  | some (.ok region) => (words (region.drop flashDataOffset))[k % wordsPerRead]?
  | _ => none

/-- How the comparison of blocks read back with the words wanted ends. -/
inductive Verdict (address : UInt16) (wanted : List UInt16) : List Outcome → Except Halt Unit → Prop where
  | agreed {outcomes : List Outcome} (all : outcomes.length = (wanted.length + 3) / 4)
      (same : ∀ k < wanted.length, returned outcomes k = wanted[k]?) :
      Verdict address wanted outcomes (.ok ())
  | unread {earlier : List Outcome} (error : Error) (inside : 4 * earlier.length < wanted.length)
      (same : ∀ k < 4 * earlier.length, returned earlier k = wanted[k]?) :
      Verdict address wanted (earlier ++ [.error error])
        (.error (.failed (.sequenceFailed .flashVerify (earlier.length + 1)
          ((wanted.length + 3) / 4) error)))
  | differed {outcomes : List Outcome} (k : Nat) (expected found : UInt16)
      (last : outcomes.length = k / 4 + 1) (same : ∀ i < k, returned outcomes i = wanted[i]?)
      (wants : wanted[k]? = some expected) (finds : returned outcomes k = some found)
      (differ : expected ≠ found) :
      Verdict address wanted outcomes
        (.error (.failed (.sequenceFailed .flashVerify (k / 4 + 1) ((wanted.length + 3) / 4)
          (.flashVerifyMismatch (address + UInt16.ofNat k) expected found))))

theorem Verdict.ends {address : UInt16} {wanted : List UInt16} {outcomes : List Outcome}
    {result : Except Halt Unit} (verdict : Verdict address wanted outcomes result) :
    result = .ok () ∨ ∃ error, result = .error (.failed error) ∧ error.isSequenceFailure = true := by
  cases verdict with
  | agreed all same => exact .inl rfl
  | unread error inside same => exact .inr ⟨_, rfl, rfl⟩
  | differed k expected found last same wants finds differ => exact .inr ⟨_, rfl, rfl⟩

theorem eightRequest_fits (address : UInt16) :
    (Request.query Opcode.flashRead8 (wordBytes address)).Fits := by
  simp only [Request.Fits, Request.query, length_wordBytes, regionLength_eq]
  omega

theorem readBack_fits (address : UInt16) (block : Nat) : (readBack address block).Fits :=
  eightRequest_fits _

theorem returned_append {outcomes : List Outcome} {k : Nat} (read : k / 4 < outcomes.length)
    (more : List Outcome) : returned (outcomes ++ more) k = returned outcomes k := by
  simp only [returned, wordsPerRead_eq]
  rw [List.getElem?_append_left read]

private theorem returned_last (outcomes : List Outcome) (region : List UInt8) {i : Nat} (below : i < 4) :
    returned (outcomes ++ [.ok region]) (4 * outcomes.length + i) =
      (words (region.drop flashDataOffset))[i]? := by
  have block : (4 * outcomes.length + i) / 4 = outcomes.length := by omega
  have place : (4 * outcomes.length + i) % 4 = i := by omega
  simp [returned, wordsPerRead_eq, block, place]

theorem readEight_of_execute {link : Link σ} {device : Device} {address : UInt16} {state left : σ}
    {outcome : Outcome} (executed : execute link device
      (.query Opcode.flashRead8 (wordBytes address)) state = (outcome.mapError .failed, left)) :
    readEight link device address state =
      ((outcome.map fun region => (region.drop flashDataOffset).take 8).mapError .failed, left) := by
  cases outcome with
  | error error => exact Session.bind_error executed
  | ok region =>
    have long : region.length = 64 := execute_length executed
    rw [readEight, Session.bind_ok executed, Session.guarded, eightBytes_ok (by omega)]
    rfl

private theorem wordAt_of_words {bytes : List UInt8} {i : Nat} {word : UInt16}
    (found : (words bytes)[i]? = some word) : wordAt bytes (2 * i) = .ok word := by
  rw [getElem?_words] at found
  obtain ⟨low, atLow, rest⟩ := Option.bind_eq_some_iff.mp found
  obtain ⟨high, atHigh, rfl⟩ := Option.map_eq_some_iff.mp rest
  simp only [wordAt, byteAt, atLow, atHigh]
  rfl

private theorem pieces_two (low high : UInt8) (rest : List UInt8) :
    pieces wordLength (low :: high :: rest) = [low, high] :: pieces wordLength rest :=
  pieces_of_ne_nil 2 (low :: high :: rest) (by decide) (by simp)

theorem compareWords_first (start : UInt16) (actual block : List UInt8) (index : Nat)
    (whole : block.length % 2 = 0) (room : 2 * index + block.length ≤ actual.length)
    (inside : start.toNat + index + block.length / 2 ≤ 0x10000) :
    (compareWords start actual index (pieces wordLength block) = .ok () ∧
      ∀ i < block.length / 2, (words actual)[index + i]? = (words block)[i]?) ∨
    ∃ i expected found, i < block.length / 2 ∧
      (∀ j < i, (words actual)[index + j]? = (words block)[j]?) ∧
      (words block)[i]? = some expected ∧ (words actual)[index + i]? = some found ∧
      expected ≠ found ∧ compareWords start actual index (pieces wordLength block) =
        .error (.failed (.flashVerifyMismatch (start + UInt16.ofNat (index + i)) expected found)) := by
  induction block using words.induct generalizing index with
  | case1 low high rest ih =>
    simp only [List.length_cons] at whole room inside
    have bound : index < (words actual).length := by rw [length_words]; omega
    have atIndex : (words actual)[index]? = some (words actual)[index] :=
      List.getElem?_eq_getElem bound
    have wanted : wordAt [low, high] 0 = .ok (wordOf low high) := rfl
    have half : (low :: high :: rest).length / 2 = rest.length / 2 + 1 := by
      simp only [List.length_cons]
      omega
    simp only [pieces_two, compareWords, wanted, wordAt_of_words atIndex, half]
    by_cases same : wordOf low high = (words actual)[index]
    · rw [if_pos same]
      -- The word at the index agrees, so that the indices of the rest move by one.
      have here : (words actual)[index]? = (words (low :: high :: rest))[0]? := by
        rw [atIndex, ← same]
        rfl
      have shifted (i : Nat) : (words actual)[index + 1 + i]? = (words rest)[i]? ↔
          (words actual)[index + (i + 1)]? = (words (low :: high :: rest))[i + 1]? := by
        rw [words_cons, List.getElem?_cons_succ, Nat.add_assoc, Nat.add_comm 1]
      rcases ih (index + 1) (by omega) (by omega) (by omega) with
        ⟨ended, agree⟩ | ⟨i, expected, found, below, agree, wants, finds, differ, ended⟩
      · refine .inl ⟨ended, ?_⟩
        rintro (_ | i) below
        · exact here
        · exact (shifted i).mp (agree i (by omega))
      · refine .inr ⟨i + 1, expected, found, by omega, ?_, ?_, ?_, differ, ?_⟩
        · rintro (_ | j) earlier
          · exact here
          · exact (shifted j).mp (agree j (by omega))
        · rw [words_cons, List.getElem?_cons_succ, wants]
        · rw [← finds, Nat.add_assoc, Nat.add_comm 1]
        · rw [ended, Nat.add_assoc, Nat.add_comm 1]
    · rw [if_neg same, sum16_ofNat start index (by omega)]
      refine .inr ⟨0, wordOf low high, (words actual)[index], by omega, by simp, rfl, atIndex, same, rfl⟩
  | case2 block short =>
    rcases block with _ | ⟨low, _ | ⟨high, rest⟩⟩
    · exact .inl ⟨rfl, by simp⟩
    · simp at whole
    · exact absurd rfl (short low high rest)

private theorem words_block (bytes : List UInt8) (index : Nat) {i : Nat} (below : i < 4) :
    (words ((bytes.drop (8 * index)).take 8))[i]? = (words bytes)[4 * index + i]? := by
  have eight : 8 * index = 2 * (4 * index) := by omega
  rw [show (8 : Nat) = 2 * 4 from rfl, words_take, List.getElem?_take_of_lt below, eight,
    words_drop, List.getElem?_drop]

private theorem ofNat_add_offset (address : UInt16) (first second : Nat) :
    address + UInt16.ofNat first + UInt16.ofNat second = address + UInt16.ofNat (first + second) := by
  rw [UInt16.add_assoc, UInt16.ofNat_add]

section Blocks
variable (link : Link σ) (device : Device) {address : UInt16} {data : List UInt8}

def checkBlock (start : UInt16) (block : List UInt8) : Session σ Unit := do
  let actual ← readEight link device start
  ExceptT.mk (pure (compareWords start actual 0 (pieces wordLength block)))

theorem verifyBlocks_cons (total index : Nat) (block : List UInt8) (rest : List (List UInt8))
    (inside : address.toNat + 4 * index < 0x10000) :
    verifyBlocks link device address total index (block :: rest) = (do
      Session.within (.sequenceFailed .flashVerify (index + 1) total)
        (checkBlock link device (address + UInt16.ofNat (index * wordsPerRead)) block)
      verifyBlocks link device address total (index + 1) rest) := by
  rw [verifyBlocks, sum16_ofNat address (index * wordsPerRead) (by rw [wordsPerRead_eq]; omega)]
  rfl

private theorem checkBlock_ends (range : WordRange address data) {index : Nat}
    (inside : 8 * index < data.length) {state next : σ} {outcome : Outcome}
    (executed : execute link device (readBack address index) state =
      (outcome.mapError .failed, next)) :
    let check := checkBlock link device (address + UInt16.ofNat (index * wordsPerRead))
      ((data.drop (8 * index)).take 8)
    (∃ error, outcome = .error error ∧ check state = (.error (.failed error), next)) ∨
    ∃ region, outcome = .ok region ∧
      ((check state = (.ok (), next) ∧ ∀ i < 4, 4 * index + i < data.length / 2 →
          (words (region.drop flashDataOffset))[i]? = (words data)[4 * index + i]?) ∨
        ∃ i expected found, i < 4 ∧
          (∀ j < i, (words (region.drop flashDataOffset))[j]? = (words data)[4 * index + j]?) ∧
          (words data)[4 * index + i]? = some expected ∧
          (words (region.drop flashDataOffset))[i]? = some found ∧ expected ≠ found ∧
          check state = (.error (.failed (.flashVerifyMismatch
            (address + UInt16.ofNat (4 * index + i)) expected found)), next)) := by
  intro check
  have whole := range.even
  have fits := range.fits
  have reading := readEight_of_execute executed
  cases outcome with
  | error error => exact .inl ⟨error, rfl, Session.bind_error reading⟩
  | ok region =>
    refine .inr ⟨region, rfl, ?_⟩
    have long : region.length = 64 := execute_length executed
    have first : check state = (compareWords (address + UInt16.ofNat (index * wordsPerRead))
        ((region.drop flashDataOffset).take 8) 0
        (pieces wordLength ((data.drop (8 * index)).take 8)), next) := Session.bind_ok reading
    have startNat : (address + UInt16.ofNat (index * wordsPerRead)).toNat =
        address.toNat + 4 * index := by
      simp only [wordsPerRead_eq, UInt16.toNat_add, UInt16.toNat_ofNat']
      omega
    have blockLength : ((data.drop (8 * index)).take 8).length =
        min 8 (data.length - 8 * index) := by
      simp only [List.length_take, List.length_drop]
    have actualLength : ((region.drop flashDataOffset).take 8).length = 8 := by
      simp [long, flashDataOffset_eq]
    have actualWord {i : Nat} (below : i < 4) :
        (words ((region.drop flashDataOffset).take 8))[0 + i]? =
          (words (region.drop flashDataOffset))[i]? := by
      rw [Nat.zero_add, show (8 : Nat) = 2 * 4 from rfl, words_take,
        List.getElem?_take_of_lt below]
    rw [first]
    rcases compareWords_first (address + UInt16.ofNat (index * wordsPerRead))
        ((region.drop flashDataOffset).take 8) ((data.drop (8 * index)).take 8) 0
        (by omega) (by omega) (by omega) with
      ⟨ended, agree⟩ | ⟨i, expected, found, below, agree, wants, finds, differ, ended⟩
    · refine .inl ⟨by rw [ended], ?_⟩
      intro i below within
      rw [← actualWord below, agree i (by omega), words_block data index below]
    · have four : i < 4 := by omega
      refine .inr ⟨i, expected, found, four, ?_, ?_, ?_, differ, ?_⟩
      · intro j earlier
        rw [← actualWord (by omega), agree j earlier, words_block data index (by omega)]
      · rw [← words_block data index four, wants]
      · rw [← actualWord four, finds]
      · rw [ended, Nat.zero_add, ofNat_add_offset, wordsPerRead_eq, Nat.mul_comm index]

def AgreeSoFar (data : List UInt8) (done : List Outcome) : Prop :=
  ∀ k < (words data).length, k < 4 * done.length → returned done k = (words data)[k]?

private theorem agreeSoFar_snoc {done : List Outcome} {region : List UInt8} {bound : Nat}
    (before : AgreeSoFar data done)
    (agree : ∀ i < 4, 4 * done.length + i < bound →
      (words (region.drop flashDataOffset))[i]? = (words data)[4 * done.length + i]?)
    {k : Nat} (below : k < bound) (inside : k < (words data).length)
    (within : k < 4 * (done.length + 1)) :
    returned (done ++ [.ok region]) k = (words data)[k]? := by
  by_cases old : k < 4 * done.length
  · rw [returned_append (by omega), before k inside old]
  · have place : k = 4 * done.length + (k - 4 * done.length) := by omega
    rw [place, returned_last done region (by omega), agree _ (by omega) (by omega)]

private theorem verifyBlocks_verdict (range : WordRange address data) {rest : List (List UInt8)}
    {done : List Outcome} (remaining : pieces 8 (data.drop (8 * done.length)) = rest)
    (bound : 4 * done.length < (words data).length + 4) (same : AgreeSoFar data done) (state : σ) :
    ∃ (further : List Outcome) (result : Except Halt Unit) (left : σ),
      verifyBlocks link device address (((words data).length + 3) / 4) done.length rest state =
        (result, left) ∧
      Exchanges link device state
        ((List.range' done.length further.length).map (readBack address)) further left ∧
      Verdict address (words data) (done ++ further) result := by
  have whole := range.even
  have fits := range.fits
  have size : (words data).length = data.length / 2 := length_words data
  induction rest generalizing done state with
  | nil =>
    have through : data.length ≤ 8 * done.length := by
      have none := congrArg List.length remaining
      rw [length_pieces 8 _ (by decide), List.length_drop, List.length_nil] at none
      omega
    refine ⟨[], .ok (), state, rfl, .nil state, ?_⟩
    rw [List.append_nil]
    refine .agreed (by omega) ?_
    intro k below
    exact same k below (by omega)
  | cons block rest ih =>
    have inside : 8 * done.length < data.length := by
      apply Nat.lt_of_not_le
      intro through
      rw [List.drop_eq_nil_of_le through] at remaining
      cases remaining
    rw [pieces_of_ne_nil 8 _ (by decide) (by simpa using inside), List.cons.injEq,
      List.drop_drop] at remaining
    obtain ⟨rfl, others⟩ := remaining
    obtain ⟨outcome, next, executed⟩ :=
      execute_outcome link device (readBack address done.length) state
    rw [verifyBlocks_cons link device _ _ _ _ (by omega)]
    rcases checkBlock_ends link device range inside executed with
      ⟨error, rfl, stopped⟩ | ⟨region, rfl, ⟨passed, agree⟩ |
        ⟨i, expected, found, below, agree, wants, finds, differ, stopped⟩⟩
    · refine ⟨[.error error], _, next, Session.bind_error (Session.within_failed _ stopped),
        .cons executed (.nil next), .unread error (by omega) ?_⟩
      intro k below
      exact same k (by omega) below
    · have longer : (done ++ [Except.ok region]).length = done.length + 1 := by simp
      have extended : AgreeSoFar data (done ++ [.ok region]) := by
        intro k below within
        rw [longer] at within
        exact agreeSoFar_snoc same (by simpa [size] using agree) below below within
      obtain ⟨further, result, left, ran, run, verdict⟩ :=
        ih (by rw [longer]; exact others) (by omega) extended next
      rw [longer] at ran run
      refine ⟨.ok region :: further, result, left, ?_, .cons executed run, by simpa using verdict⟩
      exact (Session.bind_ok (Session.within_ok _ passed)).trans ran
    · have block : (4 * done.length + i) / 4 = done.length := by omega
      have wordInside : 4 * done.length + i < (words data).length :=
        (List.getElem?_eq_some_iff.mp wants).1
      have shape := @Verdict.differed address (words data) (done ++ [.ok region])
        (4 * done.length + i) expected found (by simp [block]) ?_ wants
        (by rw [returned_last done region below, finds]) differ
      · rw [block] at shape
        exact ⟨[.ok region], _, next, Session.bind_error (Session.within_failed _ stopped),
          .cons executed (.nil next), shape⟩
      · intro k earlier
        exact agreeSoFar_snoc same (fun j _ before => agree j (by omega)) earlier (by omega)
          (by omega)

theorem verifyWords_verdict (range : WordRange address data) (state : σ) :
    ∃ (outcomes : List Outcome) (result : Except Halt Unit) (left : σ),
      verifyWords link device address data state = (result, left) ∧
      Exchanges link device state ((List.range outcomes.length).map (readBack address)) outcomes left ∧
      Verdict address (words data) outcomes result := by
  have whole := range.even
  have total : (pieces (wordsPerRead * wordLength) data).length = ((words data).length + 3) / 4 := by
    rw [length_pieces _ _ (by decide), length_words, wordsPerRead_eq, wordLength_eq]
    omega
  have fresh : AgreeSoFar data [] := by simp [AgreeSoFar]
  obtain ⟨outcomes, result, left, ran, run, verdict⟩ :=
    verifyBlocks_verdict link device range rfl (by simp) fresh state
  rw [List.length_nil, ← List.range_eq_range'] at run
  exact ⟨outcomes, result, left, by rw [verifyWords, total]; exact ran, run, verdict⟩

end Blocks

end MouseControl.Flash
