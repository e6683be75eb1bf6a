import Mathlib.Data.List.Basic
import MouseControl.Proofs.Rejection

/-! The order of a table write. The packets of the table go out first; the signature follows only after
every byte of the table has been read back, and the write ends well exactly if the signature is read
back too. None of this depends on what the link answers. -/
namespace MouseControl.Flash
variable {σ : Type} {base address : UInt16} {table data : List UInt8} {made later : List Contact}
  {contacts : List Contact} {result : Except Halt Unit}

def packetAt (address : UInt16) (data : List UInt8) : Request :=
  .write Opcode.flashWriteWords (wordsPayload address data)

/-- The packets of a table: twice 28 words, then the last 8. -/
def tablePackets (base : UInt16) (table : List UInt8) : List Request :=
  [packetAt base (table.take 56), packetAt (base + 28) ((table.drop 56).take 56),
    packetAt (base + 56) (table.drop 112)]

def signaturePacket (base : UInt16) : Request := packetAt (base + 64) (wordBytes tableSignature)

def signatureQuery (base : UInt16) : Request := .query Opcode.flashRead8 (wordBytes (base + 64))

def blockBytes (region : List UInt8) : List UInt8 := (region.drop flashDataOffset).take 8

/-- The calls of a table that was written and read back: each packet was answered, and the blocks from
the base on brought the bytes of the table. -/
def TableVerified (base : UInt16) (table : List UInt8) (contacts : List Contact) : Prop :=
  ∃ (sent read : List Contact) (outcomes : List Outcome) (regions : List (List UInt8)),
    contacts = sent ++ read ∧ Transcript (tablePackets base table) sent outcomes ∧ AllOk outcomes ∧
    Transcript ((List.range 16).map (readBack base)) read (regions.map .ok) ∧
    regions.flatMap blockBytes = table

def TableSigned (base : UInt16) (table : List UInt8) (contacts : List Contact) : Prop :=
  ∃ (verified sent read : List Contact) (answer region : List UInt8),
    contacts = verified ++ (sent ++ read) ∧ TableVerified base table verified ∧
    Exchanged (signaturePacket base) sent (.ok answer) ∧
    Exchanged (signatureQuery base) read (.ok region) ∧
    (words (region.drop flashDataOffset))[0]? = some tableSignature

/-- The reports with words to write among the calls, taken or not. -/
def wordReports (contacts : List Contact) : List (UInt8 × List UInt8) :=
  (contacts.filterMap Contact.sent?).filter fun sent => sent.2[1]? = some Opcode.flashWriteWords

section Packets

private theorem wordPackets_table (size : table.length = tableLength) :
    wordPackets base table = tablePackets base table := by
  rw [tableLength_eq] at size
  have second : (table.drop 56).length = 72 := by rw [List.length_drop, size]
  have third : (table.drop 112).length = 16 := by rw [List.length_drop, size]
  have last : pieces 56 (table.drop 112) = [table.drop 112] :=
    pieces_of_length_le 56 (List.ne_nil_of_length_pos (by omega)) (by omega)
  have cut : pieces 56 table = [table.take 56, (table.drop 56).take 56, table.drop 112] := by
    rw [pieces_of_ne_nil 56 table (by decide) (List.ne_nil_of_length_pos (by omega)),
      pieces_of_ne_nil 56 _ (by decide) (List.ne_nil_of_length_pos (by omega)), List.drop_drop, last]
  have start : base + UInt16.ofNat (0 * wordsPerPacket) = base := UInt16.add_zero base
  change (pieces 56 table).mapIdx (wordPacket base) = _
  rw [cut]
  simp only [List.mapIdx_cons, List.mapIdx_nil, wordPacket, start]
  rfl

private theorem wordPackets_signature (base : UInt16) :
    wordPackets (base + 64) (wordBytes tableSignature) = [signaturePacket base] := by
  have start : base + 64 + UInt16.ofNat (0 * wordsPerPacket) = base + 64 := UInt16.add_zero _
  change [wordPacket (base + 64) 0 (wordBytes tableSignature)] = _
  rw [wordPacket, start]
  rfl

private theorem report_packetAt_ne {other : UInt16} (apart : address ≠ other) (one more : List UInt8) :
    (packetAt address one).report ≠ (packetAt other more).report := by
  intro same
  -- A packet begins with its address.
  have first (address : UInt16) (data : List UInt8) :
      (words (packetAt address data).region)[0]? = some address := by
    change some (wordOf address.toUInt8 (address >>> 8).toUInt8) = _
    rw [wordOf_bytes]
  have regions := ((Request.report_inj _ _).mp same).2.2
  have addresses := first address one
  rw [regions, first other more] at addresses
  exact apart (Option.some.inj addresses).symm

private theorem signature_apart (base : UInt16) (table : List UInt8) :
    (reportId, (signaturePacket base).report) ∉
      (tablePackets base table).map fun packet => (reportId, packet.report) := by
  have far {offset : UInt16} (other : offset ≠ 64) : base + 64 ≠ base + offset := by
    intro same
    exact other ((UInt16.add_right_inj base).mp same).symm
  have start : base + 64 ≠ base := by
    intro same
    rw [← UInt16.add_zero base, UInt16.add_assoc] at same
    exact far (by decide) same
  simp only [tablePackets, List.map_cons, List.map_nil, List.mem_cons, List.not_mem_nil, or_false,
    Prod.mk.injEq, true_and, not_or]
  exact ⟨report_packetAt_ne start _ _, report_packetAt_ne (far (by decide)) _ _,
    report_packetAt_ne (far (by decide)) _ _⟩

end Packets

section Reports

private theorem wordReports_append (made later : List Contact) :
    wordReports (made ++ later) = wordReports made ++ wordReports later := by
  rw [wordReports, List.filterMap_append, List.filter_append]
  rfl

private theorem wordReports_of_sent {requests : List Request}
    (sent : made.filterMap Contact.sent? = requests.map fun request => (reportId, request.report)) :
    wordReports made = (requests.filter fun request => request.opcode = Opcode.flashWriteWords).map
      fun request => (reportId, request.report) := by
  rw [wordReports, sent, List.filter_map]
  simp [Function.comp_def]

private theorem wordReports_readBacks {blocks : List Nat} {outcomes : List Outcome}
    (transcript : Transcript (blocks.map (readBack address)) made outcomes) :
    wordReports made = [] := by
  have none : (blocks.map (readBack address)).filter
      (fun request => request.opcode = Opcode.flashWriteWords) = [] := by
    rw [List.filter_eq_nil_iff]
    intro request member
    obtain ⟨block, _, rfl⟩ := List.mem_map.mp member
    change ¬ decide (Opcode.flashRead8 = Opcode.flashWriteWords) = true
    decide
  rw [wordReports_of_sent transcript.sent, none, List.map_nil]

private theorem wordReports_series (series : Series (wordPackets address data) made result) :
    wordReports made <+: (wordPackets address data).map fun packet => (reportId, packet.report) := by
  have own : ((wordPackets address data).map fun packet => (reportId, packet.report)).filter
      (fun sent => sent.2[1]? = some Opcode.flashWriteWords) =
        (wordPackets address data).map fun packet => (reportId, packet.report) := by
    rw [List.filter_eq_self]
    intro sent member
    obtain ⟨packet, within, rfl⟩ := List.mem_map.mp member
    simp [wordPackets_opcode address data packet within]
  rw [← own]
  exact series.sent.filter _

private theorem WriteEnds.reports {verify : Bool} (ends : WriteEnds address data verify made result) :
    wordReports made <+: (wordPackets address data).map fun packet => (reportId, packet.report) := by
  cases ends with
  | broken series => exact wordReports_series series
  | written series => exact wordReports_series series
  | compared series blocks verdict =>
    rw [wordReports_append, wordReports_readBacks blocks, List.append_nil]
    exact wordReports_series series

private theorem WriteEnds.failed {verify : Bool} {halt : Halt}
    (ends : WriteEnds address data verify made (.error halt)) : ∃ error, halt = .failed error := by
  generalize ended : (Except.error halt : Except Halt Unit) = result at ends
  cases ends with
  | broken series =>
    cases ended
    exact ⟨_, rfl⟩
  | written series => cases ended
  | compared series blocks verdict =>
    rcases verdict.ends with rfl | ⟨error, rfl, _⟩
    · cases ended
    · cases ended
      exact ⟨error, rfl⟩

private theorem mem_wordReports {answer : Except LinkError Unit}
    (member : .write reportId (signaturePacket base).report answer ∈ contacts) :
    (reportId, (signaturePacket base).report) ∈ wordReports contacts := by
  have sent : (reportId, (signaturePacket base).report) ∈ contacts.filterMap Contact.sent? :=
    List.mem_filterMap.mpr ⟨_, member, rfl⟩
  exact List.mem_filter.mpr ⟨sent, rfl⟩

end Reports

section Verified
variable {outcomes : List Outcome}

private theorem returned_cons (outcome : Outcome) (outcomes : List Outcome) (k : Nat) :
    returned (outcome :: outcomes) (k + 4) = returned outcomes k := by
  have block : (k + 4) / 4 = k / 4 + 1 := by omega
  have place : (k + 4) % 4 = k % 4 := by omega
  simp only [returned, wordsPerRead_eq, block, place, List.getElem?_cons_succ]

private theorem returned_first (outcomes : List Outcome) (region : List UInt8) {i : Nat} (below : i < 4) :
    returned (.ok region :: outcomes) i = (words (region.drop flashDataOffset))[i]? := by
  simp [returned, wordsPerRead_eq, Nat.div_eq_of_lt below, Nat.mod_eq_of_lt below]

private theorem blockBytes_of_words {region : List UInt8} (long : region.length = regionLength)
    (same : ∀ i < 4, (words (region.drop flashDataOffset))[i]? = (words data)[i]?)
    (enough : 8 ≤ data.length) : blockBytes region = data.take 8 := by
  have four : words (blockBytes region) = words (data.take 8) := by
    rw [blockBytes, show (8 : Nat) = 2 * 4 from rfl, words_take, words_take]
    apply List.ext_getElem?
    intro i
    by_cases below : i < 4
    · rw [List.getElem?_take_of_lt below, List.getElem?_take_of_lt below, same i below]
    · rw [List.getElem?_take_eq_none (by omega), List.getElem?_take_eq_none (by omega)]
  have size : (blockBytes region).length = 8 := by
    rw [blockBytes, List.length_take, List.length_drop, long, regionLength_eq, flashDataOffset_eq]
    rfl
  rw [← wordsBytes_words (by rw [size] : (blockBytes region).length % 2 = 0), four,
    wordsBytes_words (by rw [List.length_take]; omega)]

private theorem bytes_of_returned (long : ∀ region, .ok region ∈ outcomes → region.length = regionLength)
    (size : data.length = 8 * outcomes.length)
    (same : ∀ k < 4 * outcomes.length, returned outcomes k = (words data)[k]?) :
    ∃ regions : List (List UInt8), outcomes = regions.map .ok ∧ regions.flatMap blockBytes = data := by
  induction outcomes generalizing data with
  | nil => exact ⟨[], rfl, (List.length_eq_zero_iff.mp size).symm⟩
  | cons outcome outcomes ih =>
    rw [List.length_cons] at size same
    have count : (words data).length = 4 * (outcomes.length + 1) := by
      rw [length_words]
      omega
    cases outcome with
    | error error =>
      have first := same 0 (by omega)
      rw [returned_error rfl, List.getElem?_eq_getElem (by omega)] at first
      cases first
    | ok region =>
      have block : blockBytes region = data.take 8 := by
        refine blockBytes_of_words (long region List.mem_cons_self) ?_ (by omega)
        intro i below
        rw [← same i (by omega), returned_first outcomes region below]
      have later (k : Nat) (below : k < 4 * outcomes.length) :
          returned outcomes k = (words (data.drop 8))[k]? := by
        rw [← returned_cons, same (k + 4) (by omega), show (8 : Nat) = 2 * 4 from rfl, words_drop,
          List.getElem?_drop, Nat.add_comm]
      obtain ⟨regions, rfl, bytes⟩ := ih
        (fun region member => long region (List.mem_cons_of_mem _ member))
        (by rw [List.length_drop]; omega) later
      refine ⟨region :: regions, rfl, ?_⟩
      rw [List.flatMap_cons, block, bytes, List.take_append_drop]

private theorem table_verified (size : table.length = tableLength)
    (ends : WriteEnds base table true made (.ok ())) : TableVerified base table made := by
  generalize ended : (Except.ok () : Except Halt Unit) = result at ends
  cases ends with
  | broken series => cases ended
  | @compared sent read outcomes _ series blocks verdict =>
    obtain ⟨all, same⟩ := verdict.ok_iff.mp ended.symm
    rw [length_table size] at all same
    rw [all] at blocks
    obtain ⟨regions, rfl, bytes⟩ := bytes_of_returned (fun _ => blocks.length_of_ok)
      (by rw [all, size]; rfl) (by rw [all]; exact same)
    rw [wordPackets_table size] at series
    cases series with
    | whole transcript good => exact ⟨sent, read, _, regions, rfl, transcript, good, blocks, bytes⟩

private theorem TableVerified.reports (verified : TableVerified base table contacts) :
    wordReports contacts = (tablePackets base table).map fun packet => (reportId, packet.report) := by
  obtain ⟨sent, read, outcomes, regions, rfl, packets, _, blocks, _⟩ := verified
  rw [wordReports_append, wordReports_of_sent packets.sent, wordReports_readBacks blocks,
    List.append_nil]
  rfl

private theorem TableVerified.unsigned (verified : TableVerified base table contacts)
    (answer : Except LinkError Unit) :
    .write reportId (signaturePacket base).report answer ∉ contacts := by
  intro member
  have sent := mem_wordReports member
  rw [verified.reports] at sent
  exact signature_apart base table sent

end Verified

inductive SignatureEnds (base : UInt16) : List Contact → Except Halt Unit → Prop where
  | unanswered {sent : List Contact} {error : Error}
      (exchange : Exchanged (signaturePacket base) sent (.error error)) :
      SignatureEnds base sent (.error (.failed error))
  | compared {sent read : List Contact} {answer : List UInt8} {outcome : Outcome}
      {result : Except Halt Unit} (exchange : Exchanged (signaturePacket base) sent (.ok answer))
      (block : Exchanged (signatureQuery base) read outcome)
      (shown : result = .ok () ↔ ∃ region, outcome = .ok region ∧
        (words (region.drop flashDataOffset))[0]? = some tableSignature) :
      SignatureEnds base (sent ++ read) result

inductive TableEnds (base : UInt16) (table : List UInt8) : List Contact → Except Halt Unit → Prop where
  | unverified {made : List Contact} {error : Error}
      (ends : WriteEnds base table true made (.error (.failed error))) :
      TableEnds base table made (.error (.failed error))
  | verified {made later : List Contact} {result : Except Halt Unit}
      (verified : TableVerified base table made) (signature : SignatureEnds base later result) :
      TableEnds base table (made ++ later) result

private theorem readBack_signature (base : UInt16) : readBack (base + 64) 0 = signatureQuery base := by
  have start : base + 64 + UInt16.ofNat (0 * wordsPerRead) = base + 64 := UInt16.add_zero _
  rw [readBack, start]
  rfl

private theorem signature_shown {outcome : Outcome}
    (verdict : Verdict address (words (wordBytes tableSignature)) [outcome] result) :
    result = .ok () ↔ ∃ region, outcome = .ok region ∧
      (words (region.drop flashDataOffset))[0]? = some tableSignature := by
  have wanted : words (wordBytes tableSignature) = [tableSignature] := words_wordBytes_append _ []
  rw [verdict.ok_iff, wanted]
  cases outcome with
  | error error =>
    constructor
    · rintro ⟨_, same⟩
      cases same 0 (by decide)
    · rintro ⟨region, wrong, _⟩
      cases wrong
  | ok region =>
    constructor
    · rintro ⟨_, same⟩
      exact ⟨region, rfl, (returned_first [] region (by decide)).symm.trans (same 0 (by decide))⟩
    · rintro ⟨_, same, shows⟩
      cases same
      refine ⟨rfl, ?_⟩
      intro k below
      rw [Nat.lt_one_iff.mp below, returned_first [] _ (by decide), shows]
      rfl

private theorem signature_ends
    (ends : WriteEnds (base + 64) (wordBytes tableSignature) true made result) :
    SignatureEnds base made result := by
  cases ends with
  | broken series =>
    rw [wordPackets_signature] at series
    obtain ⟨outcome, exchange, same⟩ := series.single
    cases outcome <;> cases same
    exact .unanswered exchange
  | @compared sent read outcomes _ series blocks verdict =>
    rw [wordPackets_signature] at series
    obtain ⟨sending, exchange, same⟩ := series.single
    have one : outcomes.length = 1 := by
      rcases verdict.fault with ⟨_, all, _⟩ | ⟨k, below, last, _⟩
      · exact all
      · change k < 1 at below
        omega
    obtain ⟨outcome, rfl⟩ := List.length_eq_one_iff.mp one
    change Transcript [readBack (base + 64) 0] read [outcome] at blocks
    rw [readBack_signature] at blocks
    cases sending with
    | error error => cases same
    | ok answer => exact .compared exchange blocks.single (signature_shown verdict)

private theorem writeTable_ends (link : Link σ) (device : Device) (room : base.toNat + 64 ≤ 0xFFFF)
    (size : table.length = tableLength) (start : Traced σ) :
    ∃ (result : Except Halt Unit) (left : σ) (made : List Contact),
      writeTable link.traced device base table start = (result, ⟨left, start.contacts ++ made⟩) ∧
      TableEnds base table made result := by
  obtain ⟨result, middle, made, wrote, ends⟩ :=
    writeWords_ends link device (table_range room size) true start
  rw [writeTable_eq link.traced room size]
  cases result with
  | error halt =>
    refine ⟨.error halt, middle, made, Session.bind_error wrote, ?_⟩
    obtain ⟨error, rfl⟩ := ends.failed
    exact .unverified ends
  | ok _ =>
    obtain ⟨result, left, later, signed, signing⟩ :=
      writeWords_ends link device (signature_range base) true ⟨middle, start.contacts ++ made⟩
    refine ⟨result, left, made ++ later, ?_, .verified (table_verified size ends) (signature_ends ?_)⟩
    · rw [← List.append_assoc]
      exact (Session.bind_ok wrote).trans signed
    · rwa [signature_address] at signing

namespace SignatureEnds

private theorem begins (ends : SignatureEnds base later result) :
    ∃ answer rest, later = .write reportId (signaturePacket base).report answer :: rest ∧
      wordReports rest = [] := by
  cases ends with
  | unanswered exchange =>
    obtain ⟨answer, rest, same, silent⟩ := exchange.begins
    exact ⟨answer, rest, same, by rw [wordReports, silent]; rfl⟩
  | @compared sent read _ _ _ exchange block shown =>
    obtain ⟨answer, rest, rfl, silent⟩ := exchange.begins
    refine ⟨answer, rest ++ read, rfl, ?_⟩
    have query : wordReports read = [] := @wordReports_of_sent _ [signatureQuery base] block.sent
    rw [wordReports_append, query, List.append_nil, wordReports, silent]
    rfl

private theorem reports (ends : SignatureEnds base later result) :
    wordReports later = [(reportId, (signaturePacket base).report)] := by
  obtain ⟨answer, rest, rfl, silent⟩ := ends.begins
  rw [← List.singleton_append, wordReports_append, silent]
  rfl

private theorem ok_of_shown {sent read : List Contact} {answer region : List UInt8}
    (ends : SignatureEnds base (sent ++ read) result)
    (exchange : Exchanged (signaturePacket base) sent (.ok answer))
    (block : Exchanged (signatureQuery base) read (.ok region))
    (shows : (words (region.drop flashDataOffset))[0]? = some tableSignature) : result = .ok () := by
  obtain ⟨reply, _, sending⟩ := exchange.answered_of_ok
  generalize calls : sent ++ read = made at ends
  cases ends with
  | unanswered other =>
    -- A failed exchange leaves too few calls for both.
    obtain ⟨found, _, reading⟩ := block.answered_of_ok
    have size := congrArg List.length calls
    rcases other.failed_cases.2 with ⟨cause, rfl⟩ | ⟨last, rfl⟩
    · simp [sending, reading] at size
    · simp [sending, reading] at size
  | compared other last shown =>
    obtain ⟨again, _, resending⟩ := other.answered_of_ok
    obtain ⟨rfl, rfl⟩ := List.append_inj calls (by rw [sending, resending]; rfl)
    exact shown.mpr ⟨region, last.outcome_eq block, shows⟩

end SignatureEnds

namespace TableEnds

private theorem reports (size : table.length = tableLength)
    (ends : TableEnds base table contacts result) :
    wordReports contacts <+: (tablePackets base table ++ [signaturePacket base]).map
      fun packet => (reportId, packet.report) := by
  rw [List.map_append]
  cases ends with
  | unverified ends =>
    rw [← wordPackets_table size]
    exact ends.reports.trans (List.prefix_append _ _)
  | verified verified signature =>
    refine ⟨[], ?_⟩
    rw [List.append_nil, wordReports_append, verified.reports, signature.reports]
    rfl

/-- Wherever the signature is sent, the table was verified before, and the write ends as that of the
signature does. -/
private theorem at_signature (size : table.length = tableLength)
    (ends : TableEnds base table contacts result) {before after : List Contact}
    {answer : Except LinkError Unit}
    (split : contacts = before ++ .write reportId (signaturePacket base).report answer :: after) :
    TableVerified base table before ∧
      SignatureEnds base (.write reportId (signaturePacket base).report answer :: after) result := by
  cases ends with
  | unverified ends =>
    have sent : (reportId, (signaturePacket base).report) ∈ wordReports contacts :=
      mem_wordReports (by rw [split]; exact List.mem_append_right _ List.mem_cons_self)
    have reports := ends.reports
    rw [wordPackets_table size] at reports
    exact absurd (reports.subset sent) (signature_apart base table)
  | verified verified signature =>
    obtain ⟨own, rest, rfl, silent⟩ := signature.begins
    have absent : .write reportId (signaturePacket base).report answer ∉ rest := by
      intro member
      have sent := mem_wordReports member
      rw [silent] at sent
      cases sent
    -- The signature is sent only once, so that both splits of the calls are the same.
    obtain ⟨rfl, same, rfl⟩ :=
      (List.append_cons_inj_of_notMem (verified.unsigned answer) absent).mp split
    rw [← same]
    exact ⟨verified, signature⟩

private theorem ok_iff (size : table.length = tableLength) (ends : TableEnds base table contacts result) :
    result = .ok () ↔ TableSigned base table contacts := by
  constructor
  · rintro rfl
    generalize ended : (Except.ok () : Except Halt Unit) = result at ends
    cases ends with
    | unverified ends => cases ended
    | verified verified signature =>
      cases signature with
      | unanswered exchange => cases ended
      | compared exchange block shown =>
        obtain ⟨region, rfl, shows⟩ := shown.mp ended.symm
        exact ⟨_, _, _, _, region, rfl, verified, exchange, block, shows⟩
  · rintro ⟨verified, sent, read, answer, region, split, _, exchange, block, shows⟩
    obtain ⟨own, rest, rfl, _⟩ := exchange.begins
    exact (ends.at_signature size split).2.ok_of_shown exchange block shows

end TableEnds

private theorem writeTable_refused (device : Device)
    (unfit : table.length ≠ 128 ∨ 0xFFFF < base.toNat + 64) :
    ∃ error : Error, error.isRejection = true ∧
      ∀ {τ : Type} (link : Link τ), writeTable link device base table = Session.fail error := by
  by_cases size : table.length = tableLength
  · have full := unfit.resolve_left (not_not_intro size)
    exact ⟨_, rfl, fun link => writeTable_no_room link size full⟩
  · exact ⟨_, rfl, fun link => writeTable_wrong_size link size⟩

private theorem not_tableSigned_nil : ¬ TableSigned base table [] := by
  rintro ⟨verified, sent, read, answer, region, split, _, exchange, _⟩
  obtain ⟨own, rest, rfl, _⟩ := exchange.begins
  simp at split

/-- The write of a table makes no call, and is rejected, exactly if the table has the wrong size or
leaves no room for the signature. Otherwise, whatever the link answers, the packets of words sent are
the first of those of the table and of the signature; the signature is sent only after the table was
verified, and the write ends well exactly if the signature was then read back. -/
theorem writeTable_signs_last (link : Link σ) (device : Device) (base : UInt16) (table : List UInt8)
    (state : σ) :
    ∃ (result : Except Halt Unit) (left : σ) (contacts : List Contact),
      writeTable link device base table state = (result, left) ∧
      writeTable link.traced device base table ⟨state, []⟩ = (result, ⟨left, contacts⟩) ∧
      (contacts = [] ↔ table.length ≠ 128 ∨ 0xFFFF < base.toNat + 64) ∧
      ((∃ error, result = .error (.failed error) ∧ error.isRejection = true) ↔
        table.length ≠ 128 ∨ 0xFFFF < base.toNat + 64) ∧
      wordReports contacts <+: (tablePackets base table ++ [signaturePacket base]).map
        (fun packet => (reportId, packet.report)) ∧
      (∀ before answer after,
        contacts = before ++ .write reportId (signaturePacket base).report answer :: after →
          TableVerified base table before) ∧
      (result = .ok () ↔ TableSigned base table contacts) := by
  by_cases unfit : table.length ≠ 128 ∨ 0xFFFF < base.toNat + 64
  · obtain ⟨error, rejected, refused⟩ := @writeTable_refused base table device unfit
    refine ⟨.error (.failed error), state, [], by rw [refused]; rfl, by rw [refused]; rfl, ?_, ?_,
      List.nil_prefix, ?_, ?_⟩
    · simp only [unfit]
    · simp [unfit, rejected]
    · intro before answer after split
      simp at split
    · simp [not_tableSigned_nil]
  · have size : table.length = tableLength := Decidable.byContradiction fun wrong => unfit (.inl wrong)
    have room : base.toNat + 64 ≤ 0xFFFF := Nat.not_lt.mp fun full => unfit (.inr full)
    obtain ⟨result, left, contacts, ran, ends⟩ := writeTable_ends link device room size ⟨state, []⟩
    have late (error : Error) (failed : result = .error (.failed error)) :
        FailsLate contacts error := by
      have triple := @writeTable_triple _ link device (fun _ => True) _ _ room size
      subst failed
      exact (triple ⟨state, []⟩ trivial).2 error _ ran
    have touched : contacts ≠ [] := by
      cases ends with
      | unverified ends => exact (late _ rfl).1
      | verified verified signature =>
        obtain ⟨answer, rest, rfl, _⟩ := signature.begins
        simp
    have plain : writeTable link device base table state = (result, left) := by
      obtain ⟨same, kept⟩ := Deed.perform_traced device link (.writeTable base table) state []
      change (writeTable link.traced device base table ⟨state, []⟩).1 = _ at same
      change (writeTable link.traced device base table ⟨state, []⟩).2.state = _ at kept
      rw [ran] at same kept
      exact Prod.ext same.symm kept.symm
    refine ⟨result, left, contacts, plain, ran, by simp only [touched, unfit], ?_, ends.reports size,
      ?_, ends.ok_iff size⟩
    · simp only [unfit, iff_false]
      rintro ⟨error, failed, rejected⟩
      rw [(late error failed).2.1] at rejected
      cases rejected
    · intro before answer after split
      exact (ends.at_signature size split).1

-- A link that answers everything alike happens to show this table and the signature. At the last base
-- with room the write ends well, and one address further nothing is sent.
theorem writeTable_signs_last_base :
    let link : Link Unit := ⟨fun _ _ _ _ => (.ok (), ()),
      fun _ _ _ _ => (.ok (reportId :: List.replicate 71 0xA4), ())⟩
    let device : Device := ⟨0x09DA, 0x7F1B, "Bloody T50", ""⟩
    let table : List UInt8 := List.replicate 128 0xA4
    let write := fun base => writeTable link.traced device base table ⟨(), []⟩
    (write 0xFFBF).1 = .ok () ∧ TableSigned 0xFFBF table (write 0xFFBF).2.contacts ∧
      (write 0xFFC0).2.contacts = [] := by
  intro link device table write
  have ended : (writeTable link device 0xFFBF table ()).1.isOk = true := by decide +kernel
  obtain ⟨result, left, contacts, plain, traced, _, _, _, _, signed⟩ :=
    writeTable_signs_last link device 0xFFBF table ()
  obtain ⟨_, _, none, _, refused, untouched, _⟩ :=
    writeTable_signs_last link device 0xFFC0 table ()
  have ok : result = .ok () := by
    rw [plain] at ended
    cases result with
    | error halt => cases ended
    | ok _ => rfl
  simp only [write, traced, refused]
  exact ⟨ok, signed.mp ok, untouched.mpr (.inr (by decide))⟩

end MouseControl.Flash
