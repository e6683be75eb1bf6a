import MouseControl.Proofs.WordWrite

/-! Writes of words that are verified. The words inside the range decide how the verification ends:
it goes by the first word that is not the one wanted, or that could not be read. On a mouse, a
verified write shows the words that it was to write. -/
namespace MouseControl.Flash
open Mouse
variable {σ : Type} {address : UInt16} {data : List UInt8} {wanted : List UInt16}
  {outcomes others : List Outcome} {result ended : Except Halt Unit}

/-- What is wrong about the word with an index: its block could not be read, or it differs. -/
def blame (address : UInt16) (wanted : List UInt16) (outcomes : List Outcome) (k : Nat) : Error :=
  match outcomes[k / 4]? with
  | some (.error error) => error
  | _ => .flashVerifyMismatch (address + UInt16.ofNat k) (wanted[k]?.getD 0)
      ((returned outcomes k).getD 0)

/-- Blocks read back that are alike as far as both go, words past a count aside. -/
structure AgreeInside (count : Nat) (first second : List Outcome) : Prop where
  words : ∀ k < count, k / 4 < first.length → k / 4 < second.length →
    returned first k = returned second k
  errors : ∀ i error, i < first.length → i < second.length →
    (first[i]? = some (.error error) ↔ second[i]? = some (.error error))

theorem returned_error {k : Nat} {error : Error} (failed : outcomes[k / 4]? = some (.error error)) :
    returned outcomes k = none := by
  rw [returned, wordsPerRead_eq, failed]

theorem Verdict.fault (verdict : Verdict address wanted outcomes result) :
    (result = .ok () ∧ outcomes.length = (wanted.length + 3) / 4 ∧
      ∀ k < wanted.length, returned outcomes k = wanted[k]?) ∨
    ∃ k < wanted.length, outcomes.length = k / 4 + 1 ∧
      (∀ i < k, returned outcomes i = wanted[i]?) ∧ returned outcomes k ≠ wanted[k]? ∧
      result = .error (.failed (.sequenceFailed .flashVerify (k / 4 + 1)
        ((wanted.length + 3) / 4) (blame address wanted outcomes k))) := by
  cases verdict with
  | agreed all same => exact .inl ⟨rfl, all, same⟩
  | @unread earlier error inside same =>
    have block : 4 * earlier.length / 4 = earlier.length := by omega
    have failed : (earlier ++ [Except.error error])[4 * earlier.length / 4]? =
        some (.error error) := by
      rw [block, List.getElem?_concat_length]
    refine .inr ⟨4 * earlier.length, inside, by simp [block], ?_, ?_, ?_⟩
    · intro i below
      rw [returned_append (by omega), same i below]
    · rw [returned_error failed, List.getElem?_eq_getElem inside]
      exact Option.some_ne_none _ |>.symm
    · rw [blame, failed, block]
  | differed k expected found last same wants finds differ =>
    refine .inr ⟨k, (List.getElem?_eq_some_iff.mp wants).1, last, same, ?_, ?_⟩
    · rw [finds, wants]
      exact fun equal => differ (Option.some.inj equal).symm
    · have read (error : Error) : outcomes[k / 4]? ≠ some (.error error) := by
        intro failed
        rw [returned_error failed] at finds
        cases finds
      rw [blame]
      split
      · rename_i error failed
        exact absurd failed (read error)
      · rw [wants, finds]
        rfl

theorem Verdict.ok_iff (verdict : Verdict address wanted outcomes result) :
    result = .ok () ↔ outcomes.length = (wanted.length + 3) / 4 ∧
      ∀ k < wanted.length, returned outcomes k = wanted[k]? := by
  rcases verdict.fault with ⟨rfl, right⟩ | ⟨k, below, _, _, wrong, rfl⟩
  · exact ⟨fun _ => right, fun _ => rfl⟩
  · exact ⟨fun ok => (by cases ok), fun right => absurd (right.2 k below) wrong⟩

private theorem Verdict.length_le (verdict : Verdict address wanted outcomes result) :
    outcomes.length ≤ (wanted.length + 3) / 4 := by
  rcases verdict.fault with ⟨_, all, _⟩ | ⟨k, below, last, _⟩ <;> omega

private theorem blame_eq {k : Nat} (alike : AgreeInside wanted.length outcomes others)
    (below : k < wanted.length) (first : outcomes.length = k / 4 + 1)
    (second : others.length = k / 4 + 1) :
    blame address wanted outcomes k = blame address wanted others k := by
  have errors (error : Error) := alike.errors (k / 4) error (by omega) (by omega)
  have same := alike.words k below (by omega) (by omega)
  by_cases failed : ∃ error, outcomes[k / 4]? = some (.error error)
  · obtain ⟨error, failed⟩ := failed
    rw [blame, blame, failed, (errors error).mp failed]
  · have clear : ¬ ∃ error, others[k / 4]? = some (.error error) := by
      rintro ⟨error, other⟩
      exact failed ⟨error, (errors error).mpr other⟩
    rw [blame, blame, same]
    split
    · rename_i error found
      exact absurd ⟨error, found⟩ failed
    · split
      · rename_i error found
        exact absurd ⟨error, found⟩ clear
      · rfl

private theorem Verdict.inside (first : Verdict address wanted outcomes result)
    (second : Verdict address wanted others ended)
    (alike : AgreeInside wanted.length outcomes others) :
    ended = result ∧ others.length = outcomes.length := by
  rcases first.fault with ⟨rfl, all, right⟩ | ⟨k, below, last, right, wrong, rfl⟩ <;>
    rcases second.fault with ⟨rfl, all', right'⟩ | ⟨k', below', last', right', wrong', rfl⟩
  · exact ⟨rfl, by omega⟩
  · exact absurd ((alike.words k' below' (by omega) (by omega)).symm.trans (right k' below')) wrong'
  · exact absurd ((alike.words k below (by omega) (by omega)).trans (right' k below)) wrong
  · -- The earlier of two first faults would be a fault of both.
    have same : k = k' := by
      rcases Nat.lt_trichotomy k k' with less | same | more
      · exact absurd ((alike.words k below (by omega) (by omega)).trans (right' k less)) wrong
      · exact same
      · exact absurd ((alike.words k' below' (by omega) (by omega)).symm.trans (right k' more)) wrong'
    subst same
    exact ⟨by rw [blame_eq alike below last last'], by omega⟩

private theorem writeWords_verify (link : Link σ) (device : Device) (range : WordRange address data) :
    writeWords link device address data true =
      (writeWords link device address data false >>= fun _ =>
        verifyWords link device address data) := by
  rw [writeWords_eq link device range, writeWords_eq link device range]
  funext state
  rcases sent : exchangeAll link device (wordPackets address data) state with ⟨halt | _, left⟩
  · rw [Session.bind_error sent, Session.bind_error (Session.bind_error sent)]
  · have plain : (exchangeAll link device (wordPackets address data) >>= fun _ =>
        if false = true then verifyWords link device address data else pure ()) state =
          (.ok (), left) := Session.bind_ok sent
    rw [Session.bind_ok sent, Session.bind_ok plain, if_pos rfl]

section Shown
variable {device : Device} {mouse next left : Mouse}

private theorem execute_readBack {block : Nat} {outcome : Outcome} (empty : mouse.queue = [])
    (executed : execute Mouse.link device (readBack address block) mouse =
      (outcome.mapError .failed, next)) :
    next.holdings = mouse.holdings ∧ next.queue = [] ∧
      ∀ region, outcome = .ok region → region = (mouse.perform Opcode.flashRead8 readFlag
        (.ofBytes (readBack address block).region)).1.bytes := by
  have waiting : (mouse.answering (readBack address block)).holdings = mouse.holdings :=
    answering_holdings mouse (readBack address block)
  obtain ⟨registers, flash, frame⟩ := answering_frame mouse (readBack address block)
  have queue : (mouse.answering (readBack address block)).queue = [] := by
    rw [frame]
    exact empty
  rw [execute_mouse device (readBack_fits address block) empty] at executed
  cases writes : mouse.failWrites.lookup mouse.writes with
  | some cause =>
    rw [writes, Prod.mk.injEq] at executed
    obtain ⟨failed, rfl⟩ := executed
    exact ⟨rfl, empty, by rintro region rfl; cases failed⟩
  | none =>
    cases reads : mouse.failReads.lookup mouse.reads with
    | some cause =>
      rw [writes, reads, Prod.mk.injEq] at executed
      obtain ⟨failed, rfl⟩ := executed
      exact ⟨waiting, queue, by rintro region rfl; cases failed⟩
    | none =>
      rw [writes, reads, Prod.mk.injEq] at executed
      obtain ⟨ok, rfl⟩ := executed
      refine ⟨waiting, queue, ?_⟩
      rintro region rfl
      exact (Except.ok.inj ok).symm

private theorem exchanges_readBack {blocks : List Nat} (empty : mouse.queue = [])
    (inside : ∀ block ∈ blocks, address.toNat + 4 * block < 0x10000)
    (run : Exchanges Mouse.link device mouse (blocks.map (readBack address)) outcomes left) :
    left.holdings = mouse.holdings ∧
      ∀ (i : Nat) (region : List UInt8), outcomes[i]? = some (.ok region) →
      ∃ block, blocks[i]? = some block ∧ ∀ j < 4, (words (region.drop flashDataOffset))[j]? =
        some (mouse.flash.word (cell address (4 * block + j)) ^^^ mouse.corrupt) := by
  induction blocks generalizing mouse outcomes with
  | nil =>
    cases run
    exact ⟨rfl, by simp⟩
  | cons block rest ih =>
    rw [List.map_cons] at run
    obtain _ | ⟨executed, later⟩ := run
    obtain ⟨held, queue, brings⟩ := execute_readBack empty executed
    obtain ⟨kept, shows⟩ := ih queue (fun other member => inside other (by simp [member])) later
    have flash := congrArg Holdings.flash held
    have corrupt := congrArg Holdings.corrupt held
    simp only [holdings] at flash corrupt
    refine ⟨kept.trans held, ?_⟩
    rintro (_ | i) region found
    · rw [List.getElem?_cons_zero, Option.some.injEq] at found
      refine ⟨block, rfl, fun j below => ?_⟩
      rw [brings region found]
      exact perform_readBack mouse (inside block (by simp)) below
    · rw [← flash, ← corrupt]
      exact shows i region found

theorem readBacks_inside (range : WordRange address data)
    (verdict : Verdict address (words data) outcomes result) :
    ∀ block ∈ List.range outcomes.length, address.toNat + 4 * block < 0x10000 := by
  have inside := range.fits
  have bound := verdict.length_le
  rw [length_words] at bound
  intro block member
  rw [List.mem_range] at member
  omega

theorem verifyWords_holdings (range : WordRange address data) (empty : mouse.queue = [])
    (ran : verifyWords Mouse.link device address data mouse = (result, left)) :
    left.holdings = mouse.holdings := by
  obtain ⟨outcomes, ended, shown, same, run, verdict⟩ :=
    verifyWords_verdict Mouse.link device range mouse
  rw [ran, Prod.mk.injEq] at same
  obtain ⟨rfl, rfl⟩ := same
  exact (exchanges_readBack empty (readBacks_inside range verdict) run).1

theorem returned_shown {k : Nat} {region : List UInt8} (empty : mouse.queue = [])
    (inside : ∀ block ∈ List.range outcomes.length, address.toNat + 4 * block < 0x10000)
    (run : Exchanges Mouse.link device mouse ((List.range outcomes.length).map (readBack address))
      outcomes left) (read : outcomes[k / 4]? = some (.ok region)) :
    returned outcomes k = some (mouse.flash.word (cell address k) ^^^ mouse.corrupt) := by
  obtain ⟨block, at_block, cells⟩ := (exchanges_readBack empty inside run).2 (k / 4) region read
  rw [List.getElem?_range (List.getElem?_eq_some_iff.mp read).1, Option.some.injEq] at at_block
  subst at_block
  simp only [returned, wordsPerRead_eq, read]
  rw [cells (k % 4) (by omega), Nat.div_add_mod]

theorem returned_read {k : Nat} {word : UInt16} (found : returned outcomes k = some word) :
    ∃ region, outcomes[k / 4]? = some (.ok region) := by
  simp only [returned, wordsPerRead_eq] at found
  split at found
  · rename_i region read
    exact ⟨region, read⟩
  · cases found

theorem writeWords_shows (range : WordRange address data) (empty : mouse.queue = [])
    (ok : writeWords Mouse.link device address data true mouse = (.ok (), left)) {k : Nat}
    {word : UInt16} (wants : (words data)[k]? = some word) :
    left.flash.word (cell address k) ^^^ left.corrupt = word := by
  rw [writeWords_verify Mouse.link device range] at ok
  rcases sent : writeWords Mouse.link device address data false mouse with ⟨halt | _, written⟩
  · rw [Session.bind_error sent] at ok
    cases ok
  have queue : written.queue = [] := by
    have kept := (writeWords_alike device (scripted_alike mouse) address data false mouse mouse
      ⟨rfl, empty, rfl, rfl⟩).2.2
    rw [sent] at kept
    exact kept.queue
  rw [Session.bind_ok sent] at ok
  obtain ⟨outcomes, result, shown, ran, run, verdict⟩ :=
    verifyWords_verdict Mouse.link device range written
  rw [ok, Prod.mk.injEq] at ran
  obtain ⟨rfl, rfl⟩ := ran
  obtain ⟨all, same⟩ := verdict.ok_iff.mp rfl
  have inside := readBacks_inside range verdict
  have held := (exchanges_readBack queue inside run).1
  have found := (same k (List.getElem?_eq_some_iff.mp wants).1).trans wants
  obtain ⟨region, read⟩ := returned_read found
  rw [returned_shown queue inside run read, Option.some.injEq] at found
  have flash := congrArg Holdings.flash held
  have corrupt := congrArg Holdings.corrupt held
  simp only [holdings] at flash corrupt
  rw [flash, corrupt, found]

end Shown

/-- Once its packets are all taken, a verified write reads its range back block by block. It ends well
exactly when every block is read and every word is the one wanted, and with the first fault else;
after that it makes no call. Words past the range have no part in it. On a mouse, ending well means
that the range shows what was written. -/
theorem writeWords_verified (link : Link σ) (device : Device) (range : WordRange address data)
    {start written : Traced σ}
    (sent : writeWords link.traced device address data false start = (.ok (), written)) :
    (∃ (result : Except Halt Unit) (left : σ) (made : List Contact) (outcomes : List Outcome),
      writeWords link.traced device address data true start =
        (result, ⟨left, written.contacts ++ made⟩) ∧
      Transcript ((List.range outcomes.length).map (readBack address)) made outcomes ∧
      (result = .ok () ↔ outcomes.length = ((words data).length + 3) / 4 ∧
        ∀ k < (words data).length, returned outcomes k = (words data)[k]?) ∧
      Verdict address (words data) outcomes result ∧
      ∀ others ended, Verdict address (words data) others ended →
        AgreeInside (words data).length outcomes others →
        ended = result ∧ others.length = outcomes.length) ∧
    ∀ mouse left, mouse.queue = [] →
      writeWords Mouse.link device address data true mouse = (.ok (), left) →
      ∀ k word, (words data)[k]? = some word →
        left.flash.word (cell address k) ^^^ left.corrupt = word := by
  refine ⟨?_, fun mouse left empty ok k word wants => writeWords_shows range empty ok wants⟩
  obtain ⟨result, left, made, outcomes, ran, blocks, verdict⟩ :=
    verifyWords_traced link device range written
  refine ⟨result, left, made, outcomes, ?_, blocks, verdict.ok_iff, verdict, ?_⟩
  · rw [writeWords_verify link.traced device range, Session.bind_ok sent, ran]
  · intro others ended other alike
    exact verdict.inside other alike

-- Five words up to the last address on a link that answers with zeros: the fifth word is not one.
theorem writeWords_verified_last_word :
    let link : Link Unit := ⟨fun _ _ _ _ => (.ok (), ()),
      fun _ _ _ _ => (.ok (reportId :: List.replicate 71 0), ())⟩
    let device : Device := ⟨0x09DA, 0x7F1B, "Bloody T50", ""⟩
    let data : List UInt8 := [0, 0, 0, 0, 0, 0, 0, 0, 5, 0]
    let plain := writeWords link.traced device 0xFFFB data false ⟨(), []⟩
    WordRange 0xFFFB data ∧ plain.1 = .ok () ∧
      ∃ (made : List Contact) (outcomes : List Outcome),
        writeWords link.traced device 0xFFFB data true ⟨(), []⟩ =
          (.error (.failed (.sequenceFailed .flashVerify 2 2 (.flashVerifyMismatch 0xFFFF 5 0))),
            ⟨(), plain.2.contacts ++ made⟩) ∧
        Transcript ((List.range outcomes.length).map (readBack 0xFFFB)) made outcomes := by
  intro link device data plain
  have range : WordRange 0xFFFB data := ⟨by decide, by decide, by decide⟩
  have taken : plain.1 = .ok () := by with_unfolding_all rfl
  have sent : writeWords link.traced device 0xFFFB data false ⟨(), []⟩ = (.ok (), plain.2) :=
    Prod.ext taken rfl
  obtain ⟨result, left, made, outcomes, ran, blocks, _⟩ :=
    (writeWords_verified link device range sent).1
  have differs : (writeWords link.traced device 0xFFFB data true ⟨(), []⟩).1 =
      .error (.failed (.sequenceFailed .flashVerify 2 2 (.flashVerifyMismatch 0xFFFF 5 0))) := by
    with_unfolding_all rfl
  rw [ran] at differs
  subst differs
  exact ⟨range, taken, made, outcomes, ran, blocks⟩

end MouseControl.Flash
