import MouseControl.Proofs.WordStore

/-! A write of words as a whole. On any link its calls are those of its packets up to the first that
fails, followed, if it is to be verified and none failed, by the blocks read back; on a mouse it
stores the words of the packets taken and nothing else. -/
namespace MouseControl.Flash
open Mouse
variable {σ : Type} {address : UInt16} {data : List UInt8}

inductive WriteEnds (address : UInt16) (data : List UInt8) :
    Bool → List Contact → Except Halt Unit → Prop where
  | broken {verify : Bool} {made : List Contact} {error : Error}
      (series : Series (wordPackets address data) made (.error (.failed error))) :
      WriteEnds address data verify made (.error (.failed error))
  | written {made : List Contact} (series : Series (wordPackets address data) made (.ok ())) :
      WriteEnds address data false made (.ok ())
  | compared {made later : List Contact} {outcomes : List Outcome} {result : Except Halt Unit}
      (series : Series (wordPackets address data) made (.ok ()))
      (blocks : Transcript ((List.range outcomes.length).map (readBack address)) later outcomes)
      (verdict : Verdict address (words data) outcomes result) :
      WriteEnds address data true (made ++ later) result

theorem readBacks_fit (address : UInt16) (blocks : List Nat) :
    ∀ request ∈ blocks.map (readBack address), request.Fits := by
  intro request member
  obtain ⟨block, _, rfl⟩ := List.mem_map.mp member
  exact readBack_fits address block

theorem verifyWords_traced (link : Link σ) (device : Device) (range : WordRange address data)
    (start : Traced σ) :
    ∃ (result : Except Halt Unit) (left : σ) (later : List Contact) (outcomes : List Outcome),
      verifyWords link.traced device address data start =
        (result, ⟨left, start.contacts ++ later⟩) ∧
      Transcript ((List.range outcomes.length).map (readBack address)) later outcomes ∧
      Verdict address (words data) outcomes result := by
  obtain ⟨outcomes, result, left, ran, run, verdict⟩ :=
    verifyWords_verdict link.traced device range start
  obtain ⟨later, contacts, blocks⟩ := run.transcript (readBacks_fit address _)
  exact ⟨result, left.state, later, outcomes, by rw [ran, ← contacts], blocks, verdict⟩

theorem writeWords_ends (link : Link σ) (device : Device) (range : WordRange address data)
    (verify : Bool) (start : Traced σ) :
    ∃ (result : Except Halt Unit) (left : σ) (made : List Contact),
      writeWords link.traced device address data verify start =
        (result, ⟨left, start.contacts ++ made⟩) ∧
      WriteEnds address data verify made result := by
  obtain ⟨result, left, made, sent, series⟩ :=
    exchangeAll_series link device (wordPackets_fit address data) start
  rw [writeWords_eq link.traced device range verify]
  cases series with
  | broken index breaks =>
    exact ⟨_, left, made, Session.bind_error sent, .broken (.broken index breaks)⟩
  | whole transcript good =>
    cases verify with
    | false => exact ⟨.ok (), left, made, Session.bind_ok sent, .written (.whole transcript good)⟩
    | true =>
      obtain ⟨result, ended, later, outcomes, ran, blocks, verdict⟩ :=
        verifyWords_traced link device range ⟨left, start.contacts ++ made⟩
      refine ⟨result, ended, made ++ later, ?_, .compared (.whole transcript good) blocks verdict⟩
      rw [← List.append_assoc]
      exact (Session.bind_ok sent).trans ran

def packetsTaken (contacts : List Contact) : Nat :=
  (contacts.filterMap Contact.delivered?).countP fun delivery =>
    delivery.2[1]? = some Opcode.flashWriteWords

/-- The first packets of a write have landed on a mouse: their words are stored, stuck cells apart,
and all else is as before. -/
structure Landed (before after : Mouse) (address : UInt16) (data : List UInt8) (packets : Nat) : Prop where
  stored : ∀ i word, i < 28 * packets → (words data)[i]? = some word →
    cell address i ∉ before.stuck → after.flash.word (cell address i) = word
  kept : ∀ place, (∀ i < min (28 * packets) (words data).length,
    place = cell address i → place ∈ before.stuck) → after.flash.word place = before.flash.word place
  registers : after.registers = before.registers

theorem landed_of_holdings {mouse left : Mouse} (range : WordRange address data) {packets : Nat}
    (held : left.holdings =
      (mouse.storing address.toUInt32 ((words data).take (28 * packets))).holdings) :
    Landed mouse left address data packets := by
  have inside := range.fits
  have flash : left.flash = mouse.flash.storeWords mouse.stuck address.toUInt32
      ((words data).take (28 * packets)) := congrArg Holdings.flash held
  refine ⟨?_, ?_, congrArg Holdings.registers held⟩
  · intro i word below found free
    rw [flash]
    refine Memory.word_storeWords_inside ?_ (by rw [List.getElem?_take_of_lt below, found]) free
    rw [List.length_take, length_words]
    omega
  · intro place outside
    rw [flash]
    refine Memory.word_storeWords_outside ?_
    intro i below same
    exact outside i (by rwa [List.length_take] at below) same

private theorem taking_readBacks (mouse : Mouse) {blocks : List Nat} {made : List Contact}
    {outcomes : List Outcome} (transcript : Transcript (blocks.map (readBack address)) made outcomes) :
    (made.filterMap Contact.delivered?).foldl taking mouse = mouse := by
  have reads {delivery : UInt8 × List UInt8}
      (member : delivery ∈ made.filterMap Contact.delivered?) := transcript.delivered_mem member
  generalize made.filterMap Contact.delivered? = deliveries at reads ⊢
  induction deliveries with
  | nil => rfl
  | cons delivery rest ih =>
    obtain ⟨request, member, rfl⟩ := reads List.mem_cons_self
    obtain ⟨block, _, rfl⟩ := List.mem_map.mp member
    rw [List.foldl_cons, taking_readBack]
    exact ih fun later => reads (List.mem_cons_of_mem _ later)

private theorem packetsTaken_readBacks {blocks : List Nat} {made : List Contact} {outcomes : List Outcome}
    (transcript : Transcript (blocks.map (readBack address)) made outcomes) :
    packetsTaken made = 0 := by
  rw [packetsTaken, List.countP_eq_zero]
  intro delivery member
  obtain ⟨request, within, rfl⟩ := transcript.delivered_mem member
  obtain ⟨block, _, rfl⟩ := List.mem_map.mp within
  simp [readBack, Request.query, Opcode.flashRead8, Opcode.flashWriteWords]

private theorem packetsTaken_append (made later : List Contact) :
    packetsTaken (made ++ later) = packetsTaken made + packetsTaken later := by
  rw [packetsTaken, List.filterMap_append, List.countP_append]
  rfl

private theorem taken_of_delivered (mouse : Mouse) (range : WordRange address data) {made : List Contact}
    {count : Nat} (bound : count ≤ (wordPackets address data).length)
    (delivered : made.filterMap Contact.delivered? =
      ((wordPackets address data).take count).map fun packet => (reportId, packet.report)) :
    packetsTaken made = count ∧ (made.filterMap Contact.delivered?).foldl taking mouse =
      mouse.storing address.toUInt32 ((words data).take (28 * count)) := by
  refine ⟨?_, by rw [delivered, taking_wordPackets mouse range]⟩
  have all : ∀ delivery ∈ ((wordPackets address data).take count).map
      (fun packet => (reportId, packet.report)),
      decide (delivery.2[1]? = some Opcode.flashWriteWords) = true := by
    intro delivery member
    obtain ⟨packet, within, rfl⟩ := List.mem_map.mp member
    simp [wordPackets_opcode address data packet (List.mem_of_mem_take within)]
  rw [packetsTaken, delivered, List.countP_eq_length.mpr all, List.length_map, List.length_take,
    Nat.min_eq_left bound]

private theorem length_wordPackets_words (range : WordRange address data) :
    (wordPackets address data).length = ((words data).length + 27) / 28 := by
  have whole := range.even
  rw [length_wordPackets, length_words]
  omega

/-- A series of packets that is broken off delivered the packets before the failing one, and that one
too if its write did not fail. -/
private theorem breaksAt_taken (mouse : Mouse) (range : WordRange address data) {index : Nat}
    {made last : List Contact} {error : Error}
    (breaks : BreaksAt (wordPackets address data) index made last error) :
    ((packetsTaken made = index ∧ ∃ report cause, last = [.write reportId report (.error cause)]) ∨
      (packetsTaken made = index + 1 ∧ ∃ report answer, last =
        [.write reportId report (.ok ()), .read reportId packetLength answer])) ∧
    (made.filterMap Contact.delivered?).foldl taking mouse =
      mouse.storing address.toUInt32 ((words data).take (28 * packetsTaken made)) := by
  obtain ⟨packet, earlier, outcomes, next, before, good, stopped, rfl⟩ := breaks
  have bound : index < (wordPackets address data).length := (List.getElem?_eq_some_iff.mp next).1
  have delivered := before.delivered_of_ok good
  rcases stopped.failed_cases.2 with ⟨cause, rfl⟩ | ⟨answer, rfl⟩
  · have first : (earlier ++ [Contact.write reportId packet.report (.error cause)]).filterMap
        Contact.delivered? = ((wordPackets address data).take index).map
          fun packet => (reportId, packet.report) := by
      rw [List.filterMap_append, delivered]
      exact List.append_nil _
    obtain ⟨count, stored⟩ := taken_of_delivered mouse range (Nat.le_of_lt bound) first
    exact ⟨.inl ⟨count, _, cause, rfl⟩, by rw [count]; exact stored⟩
  · have first : (earlier ++ [Contact.write reportId packet.report (.ok ()),
        Contact.read reportId packetLength answer]).filterMap Contact.delivered? =
          ((wordPackets address data).take (index + 1)).map
            fun packet => (reportId, packet.report) := by
      rw [List.filterMap_append, delivered, List.take_add_one, next, List.map_append]
      rfl
    obtain ⟨count, stored⟩ := taken_of_delivered mouse range bound first
    exact ⟨.inr ⟨count, _, answer, rfl⟩, by rw [count]; exact stored⟩

private theorem whole_taken (mouse : Mouse) (range : WordRange address data) {made : List Contact}
    (series : Series (wordPackets address data) made (.ok ())) :
    packetsTaken made = ((words data).length + 27) / 28 ∧
    (made.filterMap Contact.delivered?).foldl taking mouse =
      mouse.storing address.toUInt32 ((words data).take (28 * packetsTaken made)) := by
  cases series with
  | whole transcript good =>
    have delivered := transcript.delivered_of_ok good
    rw [← List.take_length (l := wordPackets address data)] at delivered
    obtain ⟨count, stored⟩ := taken_of_delivered mouse range (Nat.le_refl _) delivered
    exact ⟨by rw [count, length_wordPackets_words range], by rw [count]; exact stored⟩

theorem writeWords_stores (device : Device) (mouse : Mouse) (range : WordRange address data)
    (verify : Bool) :
    ∃ (result : Except Halt Unit) (left : Mouse) (contacts : List Contact),
      writeWords Mouse.link.traced device address data verify ⟨mouse, []⟩ =
        (result, ⟨left, contacts⟩) ∧
      writeWords Mouse.link device address data verify mouse = (result, left) ∧
      WriteEnds address data verify contacts result ∧
      Landed mouse left address data (packetsTaken contacts) := by
  obtain ⟨result, left, contacts, traced, plain, held⟩ :=
    replayed_run mouse (writeWords_alike device (replayed_alike mouse) address data verify)
  obtain ⟨same, state, made, ran, ends⟩ := writeWords_ends Mouse.link device range verify ⟨mouse, []⟩
  rw [traced, Prod.mk.injEq, Traced.mk.injEq, List.nil_append] at ran
  obtain ⟨rfl, rfl, rfl⟩ := ran
  refine ⟨result, left, contacts, traced, plain, ends, landed_of_holdings range ?_⟩
  cases ends with
  | broken series =>
    cases series with
    | broken index breaks => rw [held, (breaksAt_taken mouse range breaks).2]
  | written series => rw [held, (whole_taken mouse range series).2]
  | compared series blocks verdict =>
    rw [held, List.filterMap_append, List.foldl_append, taking_readBacks _ blocks,
      (whole_taken mouse range series).2, packetsTaken_append, packetsTaken_readBacks blocks,
      Nat.add_zero]

/-- A write of words lands as a first part of its packets, each of them whole. All of them land
unless an exchange of a packet fails, and then the error is that of the exchange and no call follows
it. -/
theorem writeWords_lands_as_packets (device : Device) (mouse : Mouse) (range : WordRange address data)
    (verify : Bool) :
    ∃ (result : Except Halt Unit) (left : Mouse) (contacts : List Contact),
      writeWords Mouse.link.traced device address data verify ⟨mouse, []⟩ =
        (result, ⟨left, contacts⟩) ∧
      writeWords Mouse.link device address data verify mouse = (result, left) ∧
      Landed mouse left address data (packetsTaken contacts) ∧
      (((result = .ok () ∨
          ∃ error, result = .error (.failed error) ∧ error.isSequenceFailure = true) ∧
        packetsTaken contacts = ((words data).length + 27) / 28) ∨
      ∃ index last error, result = .error (.failed error) ∧ error.isSequenceFailure = false ∧
        BreaksAt (wordPackets address data) index contacts last error ∧
        ((packetsTaken contacts = index ∧
            ∃ report cause, last = [.write reportId report (.error cause)]) ∨
          (packetsTaken contacts = index + 1 ∧ ∃ report answer, last =
            [.write reportId report (.ok ()), .read reportId packetLength answer]))) := by
  obtain ⟨result, left, contacts, traced, plain, ends, landed⟩ :=
    writeWords_stores device mouse range verify
  refine ⟨result, left, contacts, traced, plain, landed, ?_⟩
  cases ends with
  | @broken _ _ error series =>
    cases series with
    | @broken last _ index breaks =>
      have own : error.isSequenceFailure = false := by
        obtain ⟨_, _, _, _, _, _, stopped, _⟩ := breaks
        exact stopped.failed_cases.1
      exact .inr ⟨index, last, error, rfl, own, breaks, (breaksAt_taken mouse range breaks).1⟩
  | written series => exact .inl ⟨.inl rfl, (whole_taken mouse range series).1⟩
  | compared series blocks verdict =>
    rw [packetsTaken_append, packetsTaken_readBacks blocks, Nat.add_zero]
    exact .inl ⟨verdict.ends, (whole_taken mouse range series).1⟩

-- Thirty words up to the last address, a stuck cell among them, and the first answer lost.
theorem writeWords_lands_at_the_end :
    WordRange 0xFFE2 (List.replicate 60 7) ∧
      let mouse := { Mouse.fresh with stuck := [0xFFE3], failReads := [(0, .timeout "lost")] }
      ∃ (result : Except Halt Unit) (left : Mouse) (contacts : List Contact),
        writeWords Mouse.link ⟨0x09DA, 0x7F1B, "Bloody T50", ""⟩ 0xFFE2 (List.replicate 60 7) true
          mouse = (result, left) ∧
        Landed mouse left 0xFFE2 (List.replicate 60 7) (packetsTaken contacts) := by
  have range : WordRange 0xFFE2 (List.replicate 60 7) := ⟨by decide, by decide, by decide⟩
  obtain ⟨result, left, contacts, _, plain, landed, _⟩ := writeWords_lands_as_packets
    ⟨0x09DA, 0x7F1B, "Bloody T50", ""⟩
    { Mouse.fresh with stuck := [0xFFE3], failReads := [(0, .timeout "lost")] } range true
  exact ⟨range, result, left, contacts, plain, landed⟩

end MouseControl.Flash
