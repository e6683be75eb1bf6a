import MouseControl.Mouse.Basic
import MouseControl.Proofs.Alike
import MouseControl.Proofs.Memory

/-! The simulated mouse behind a link. What it holds changes only by the reports that reach it, so that
it can be replayed from the calls of any operation; and from an empty queue an exchange ends by the
failures scripted for its write and its read alone. -/
namespace MouseControl.Mouse
variable {α : Type}

/-- What a report can change and an answer can depend on. -/
structure Holdings where
  registers : Std.HashMap UInt8 Region
  flash : Memory
  stuck : List UInt32
  corrupt : UInt16

def holdings (mouse : Mouse) : Holdings :=
  ⟨mouse.registers, mouse.flash, mouse.stuck, mouse.corrupt⟩

def taking (mouse : Mouse) (delivery : UInt8 × List UInt8) : Mouse :=
  if delivery.1 = reportId ∧ delivery.2.length = packetLength then (mouse.respond delivery.2).2
  else mouse

private theorem perform_holdings {mouse other : Mouse} (same : mouse.holdings = other.holdings)
    (opcode flag : UInt8) (region : Region) :
    (mouse.perform opcode flag region).2.holdings = (other.perform opcode flag region).2.holdings := by
  simp only [holdings, Holdings.mk.injEq] at same
  obtain ⟨registers, flash, stuck, corrupt⟩ := same
  unfold perform
  split
  · simp only [holdings, storing, registers, flash, stuck, corrupt]
  · split
    · simp only [holdings, storing, registers, flash, stuck, corrupt]
    · repeat' split
      all_goals simp only [holdings, registers, flash, stuck, corrupt]

theorem taking_holdings {mouse other : Mouse} (same : mouse.holdings = other.holdings)
    (delivery : UInt8 × List UInt8) :
    (mouse.taking delivery).holdings = (other.taking delivery).holdings := by
  unfold taking
  split
  · exact perform_holdings same _ _ _
  · exact same

/-- A traced mouse that holds what the reports delivered so far make of the mouse at the start. -/
def Replayed (start : Mouse) (traced : Traced Mouse) (mouse : Mouse) : Prop :=
  traced.state = mouse ∧ mouse.holdings =
    ((traced.contacts.filterMap Contact.delivered?).foldl taking start).holdings

private theorem write_holdings (mouse : Mouse) (id : UInt8) (report : List UInt8) :
    (mouse.write id report).2.holdings =
      match (mouse.write id report).1 with
      | .ok _ => (mouse.taking (id, report)).holdings
      | .error _ => mouse.holdings := by
  unfold write
  split
  · rfl
  · unfold taking
    by_cases packet : id = reportId ∧ report.length = packetLength
    · simp only [if_pos packet]
      exact @perform_holdings { mouse with writes := mouse.writes + 1 } mouse rfl _ _ _
    · simp only [if_neg packet]
      rfl

private theorem read_holdings (mouse : Mouse) (length : Nat) :
    (mouse.read length).2.holdings = mouse.holdings := by
  unfold read
  repeat' split
  all_goals rfl

theorem replayed_alike {device : Device} (start : Mouse) :
    Link.Alike device (Replayed start) Mouse.link.traced Mouse.link where
  write := by
    rintro ⟨state, contacts⟩ mouse id report ⟨rfl, held⟩
    rcases called : state.write id report with ⟨answer, left⟩
    have changed := write_holdings state id report
    rw [called] at changed
    rw [Link.traced_write contacts (show Mouse.link.write device id report state = _ from called)]
    change answer = (state.write id report).1 ∧ Replayed start _ (state.write id report).2
    rw [called]
    refine ⟨rfl, rfl, ?_⟩
    rw [List.filterMap_append, List.foldl_append, changed]
    cases answer with
    | error cause => exact held
    | ok _ => exact taking_holdings held _
  read := by
    rintro ⟨state, contacts⟩ mouse id length ⟨rfl, held⟩
    rcases called : state.read length with ⟨answer, left⟩
    have changed := read_holdings state length
    rw [called] at changed
    rw [Link.traced_read contacts (show Mouse.link.read device id length state = _ from called)]
    change answer = (state.read length).1 ∧ Replayed start _ (state.read length).2
    rw [called]
    refine ⟨rfl, rfl, ?_⟩
    rw [List.filterMap_append, List.foldl_append]
    exact changed.trans held

/-- A traced run on a mouse ends as the plain one, and its calls tell what the mouse then holds. -/
theorem replayed_run {first : Session (Traced Mouse) α} {second : Session Mouse α} (mouse : Mouse)
    (alike : Session.Alike (Replayed mouse) first second) :
    ∃ (result : Except Halt α) (left : Mouse) (contacts : List Contact),
      first ⟨mouse, []⟩ = (result, ⟨left, contacts⟩) ∧ second mouse = (result, left) ∧
      left.holdings = ((contacts.filterMap Contact.delivered?).foldl taking mouse).holdings := by
  obtain ⟨same, state, held⟩ := alike ⟨mouse, []⟩ mouse ⟨rfl, rfl⟩
  refine ⟨(second mouse).1, (second mouse).2, (first ⟨mouse, []⟩).2.contacts, ?_, rfl, held⟩
  rw [← same, ← state]
  rfl

theorem ofBytes_region {request : Request} (fits : request.Fits) :
    (Region.ofBytes request.region).bytes = request.region := by
  change (request.region ++ List.replicate regionLength 0).take regionLength = request.region
  rw [← Request.length_region fits, List.take_left]

theorem ofBytes_data {head : List UInt8} (body : List UInt8) (size : head.length = 8) :
    (Region.ofBytes (head ++ body)).bytes.drop flashDataOffset =
      (body ++ List.replicate regionLength 0).take 56 := by
  change ((head ++ body ++ List.replicate regionLength 0).take regionLength).drop flashDataOffset = _
  rw [List.drop_take, List.append_assoc, flashDataOffset_eq, ← size, List.drop_left, size]
  rfl

theorem taking_report (mouse : Mouse) {request : Request} (fits : request.Fits) :
    mouse.taking (reportId, request.report) =
      (mouse.perform request.opcode request.flag (.ofBytes request.region)).2 := by
  rw [taking, if_pos ⟨rfl, Request.length_report fits⟩]
  rfl

theorem perform_answer {mouse other : Mouse} (same : mouse.holdings = other.holdings)
    (opcode flag : UInt8) (region : Region) :
    (mouse.perform opcode flag region).1 = (other.perform opcode flag region).1 := by
  simp only [holdings, Holdings.mk.injEq] at same
  obtain ⟨registers, flash, stuck, corrupt⟩ := same
  simp only [perform, shown, registers, flash, corrupt]
  repeat' split
  all_goals rfl

theorem perform_frame (mouse : Mouse) (opcode flag : UInt8) (region : Region) :
    ∃ registers flash, (mouse.perform opcode flag region).2 =
      { mouse with registers := registers, flash := flash } := by
  unfold perform
  repeat' split
  all_goals exact ⟨_, _, rfl⟩

private theorem perform_register (mouse : Mouse) (opcode flag : UInt8) (region : Region)
    (register : UInt8) :
    (mouse.perform opcode flag region).2.registers[register]? = mouse.registers[register]? ∨
      opcode = register ∧ flag ≠ 0 ∧
        (mouse.perform opcode flag region).2.registers[register]? = some region := by
  unfold perform
  repeat' split
  · exact .inl rfl
  · exact .inl rfl
  · exact .inl rfl
  · exact .inl rfl
  · exact .inl rfl
  · rename_i writes
    simp only [Std.HashMap.getElem?_insert, beq_iff_eq]
    by_cases same : opcode = register
    · exact .inr ⟨same, writes, if_pos same⟩
    · exact .inl (if_neg same)

theorem write_register (mouse : Mouse) {request : Request} (fits : request.Fits) (register : UInt8) :
    (mouse.write reportId request.report).2.registers[register]? = mouse.registers[register]? ∨
      request.opcode = register ∧ request.flag ≠ 0 ∧
        (mouse.write reportId request.report).2.registers[register]? =
          some (.ofBytes request.region) := by
  have held := write_holdings mouse reportId request.report
  rcases written : mouse.write reportId request.report with ⟨cause | _, left⟩
  · rw [written] at held
    exact .inl (congrArg (fun holdings => holdings.registers[register]?) held)
  · rw [written] at held
    have same : left.registers[register]? = _ :=
      congrArg (fun holdings => holdings.registers[register]?) held
    simp only [taking_report mouse fits] at same
    rw [same]
    exact perform_register mouse request.opcode request.flag (.ofBytes request.region) register

theorem read_register (mouse : Mouse) (length : Nat) (register : UInt8) :
    (mouse.read length).2.registers[register]? = mouse.registers[register]? :=
  congrArg (fun holdings => holdings.registers[register]?) (read_holdings mouse length)

theorem ofBytes_first (opcode first : UInt8) (rest : List UInt8) :
    (Region.ofBytes (Request.write opcode (first :: rest)).region).byte 0 = first := rfl

section Exchange
variable (device : Device) {mouse : Mouse} {request : Request}

def answering (mouse : Mouse) (request : Request) : Mouse :=
  let (region, left) := { mouse with writes := mouse.writes + 1 }.perform request.opcode request.flag
    (.ofBytes request.region)
  { left with pending := some ((Request.mk request.opcode request.flag 0 []).header ++ region.bytes) }

theorem answering_holdings (mouse : Mouse) (request : Request) : (mouse.answering request).holdings =
    (mouse.perform request.opcode request.flag (.ofBytes request.region)).2.holdings :=
  @perform_holdings { mouse with writes := mouse.writes + 1 } mouse rfl _ _ _

theorem answering_frame (mouse : Mouse) (request : Request) :
    ∃ registers flash, mouse.answering request =
      { mouse with
        registers := registers
        flash := flash
        writes := mouse.writes + 1
        pending := some ((Request.mk request.opcode request.flag 0 []).header ++
          (mouse.perform request.opcode request.flag (.ofBytes request.region)).1.bytes) } := by
  obtain ⟨registers, flash, left⟩ := perform_frame { mouse with writes := mouse.writes + 1 }
    request.opcode request.flag (.ofBytes request.region)
  refine ⟨registers, flash, ?_⟩
  simp only [answering, left]
  rw [@perform_answer { mouse with writes := mouse.writes + 1 } mouse rfl]

theorem write_report (fits : request.Fits) :
    Mouse.link.write device reportId request.report mouse =
      match mouse.failWrites.lookup mouse.writes with
      | some cause => (.error cause, { mouse with writes := mouse.writes + 1 })
      | none => (.ok (), mouse.answering request) := by
  change mouse.write reportId request.report = _
  unfold write
  cases mouse.failWrites.lookup mouse.writes with
  | some cause => rfl
  | none =>
    simp only [Request.length_report fits, and_self, if_true]
    rfl

theorem decode_answer (opcode flag : UInt8) (region : Region) :
    decode (((Request.mk opcode flag 0 []).header ++ region.bytes).take packetLength) =
      .ok region.bytes := by
  have long : ((Request.mk opcode flag 0 []).header ++ region.bytes).length = packetLength := by
    rw [List.length_append, region.length_eq]
    rfl
  rw [List.take_of_length_le (Nat.le_of_eq long), decode, if_neg (by rw [long]; decide)]
  change (if reportId = reportId then Except.ok (region.bytes.take regionLength) else _) = _
  rw [if_pos rfl, ← region.length_eq, List.take_length]

theorem read_answering (request : Request) (empty : mouse.queue = []) :
    Mouse.link.read device reportId packetLength (mouse.answering request) =
      match mouse.failReads.lookup mouse.reads with
      | some cause => (.error cause, { mouse.answering request with reads := mouse.reads + 1 })
      | none => (.ok (((Request.mk request.opcode request.flag 0 []).header ++
          (mouse.perform request.opcode request.flag (.ofBytes request.region)).1.bytes).take
            packetLength),
          { mouse.answering request with reads := mouse.reads + 1, pending := none }) := by
  obtain ⟨registers, flash, waiting⟩ := answering_frame mouse request
  change (mouse.answering request).read packetLength = _
  rw [waiting, read]
  cases mouse.failReads.lookup mouse.reads with
  | some cause => rfl
  | none => simp only [empty]

/-- From an empty queue an exchange fails where its write or its read is scripted to, and else brings
back what the mouse performs. -/
theorem execute_mouse (fits : request.Fits) (empty : mouse.queue = []) :
    execute Mouse.link device request mouse =
      match mouse.failWrites.lookup mouse.writes with
      | some cause => (.error (.failed (.transportFailed request.opcode cause)),
          { mouse with writes := mouse.writes + 1 })
      | none =>
        match mouse.failReads.lookup mouse.reads with
        | some cause => (.error (.failed (.transportFailed request.opcode cause)),
            { mouse.answering request with reads := mouse.reads + 1 })
        | none =>
          (.ok (mouse.perform request.opcode request.flag (.ofBytes request.region)).1.bytes,
            { mouse.answering request with reads := mouse.reads + 1, pending := none }) := by
  rw [execute_apply, Request.encode_of_fits fits]
  simp only
  rw [write_report device fits]
  cases mouse.failWrites.lookup mouse.writes with
  | some cause => rfl
  | none =>
    simp only [read_answering device request empty]
    cases mouse.failReads.lookup mouse.reads with
    | some cause => rfl
    | none => simp only [decode_answer, Session.mapError_ok]

end Exchange

private theorem foldl_taking_holdings {mouse other : Mouse} (same : mouse.holdings = other.holdings)
    (deliveries : List (UInt8 × List UInt8)) :
    (deliveries.foldl taking mouse).holdings = (deliveries.foldl taking other).holdings := by
  induction deliveries generalizing mouse other with
  | nil => exact same
  | cons delivery rest ih => exact ih (taking_holdings same delivery)

/-- The script of a mouse cuts a series of requests when so many of them have been taken: the last of
those gets no answer, or the next one is not taken. -/
structure CutAfter (mouse : Mouse) (taken : Nat) : Prop where
  writes : ∀ j < taken, mouse.failWrites.lookup (mouse.writes + j) = none
  reads : ∀ j, j + 1 < taken → mouse.failReads.lookup (mouse.reads + j) = none
  cut : (∃ j, j + 1 = taken ∧ mouse.failReads.lookup (mouse.reads + j) ≠ none) ∨
    mouse.failWrites.lookup (mouse.writes + taken) ≠ none

private theorem CutAfter.not_lt {mouse : Mouse} {first second : Nat} (early : mouse.CutAfter first)
    (late : mouse.CutAfter second) : ¬ first < second := by
  intro less
  rcases early.cut with ⟨j, last, unanswered⟩ | untaken
  · exact unanswered (late.reads j (by omega))
  · exact untaken (late.writes first less)

theorem CutAfter.unique {mouse : Mouse} {first second : Nat} (one : mouse.CutAfter first)
    (other : mouse.CutAfter second) : first = second := by
  have up := one.not_lt other
  have down := other.not_lt one
  omega

private theorem cutAfter_succ {mouse next : Mouse} {taken : Nat}
    (written : mouse.failWrites.lookup mouse.writes = none)
    (answered : mouse.failReads.lookup mouse.reads = none)
    (scripts : next.failWrites = mouse.failWrites ∧ next.failReads = mouse.failReads)
    (counts : next.writes = mouse.writes + 1 ∧ next.reads = mouse.reads + 1) :
    mouse.CutAfter (taken + 1) ↔ next.CutAfter taken := by
  have place (start j : Nat) : start + 1 + j = start + (j + 1) := by omega
  constructor
  · rintro ⟨writes, reads, cut⟩
    refine ⟨?_, ?_, ?_⟩
    · intro j below
      rw [scripts.1, counts.1, place]
      exact writes (j + 1) (by omega)
    · intro j below
      rw [scripts.2, counts.2, place]
      exact reads (j + 1) (by omega)
    · rw [scripts.1, scripts.2, counts.1, counts.2, place]
      rcases cut with ⟨_ | j, last, unanswered⟩ | untaken
      · exact absurd answered unanswered
      · exact .inl ⟨j, by omega, by rwa [place]⟩
      · exact .inr untaken
  · rintro ⟨writes, reads, cut⟩
    rw [scripts.1, counts.1] at writes
    rw [scripts.2, counts.2] at reads
    rw [scripts.1, scripts.2, counts.1, counts.2, place] at cut
    refine ⟨?_, ?_, ?_⟩
    · rintro (_ | j) below
      · exact written
      · rw [← place]
        exact writes j (by omega)
    · rintro (_ | j) below
      · exact answered
      · rw [← place]
        exact reads j (by omega)
    · rcases cut with ⟨j, last, unanswered⟩ | untaken
      · exact .inl ⟨j + 1, by omega, by rwa [← place]⟩
      · exact .inr untaken

/-- From an empty queue, a series of requests is cut where the script says so and reaches its end
else. The mouse then holds what the requests taken make of it. -/
theorem exchangeAll_mouse (device : Device) {mouse : Mouse} {requests : List Request}
    (fits : ∀ request ∈ requests, request.Fits) (empty : mouse.queue = []) :
    ∃ (result : Except Halt Unit) (left : Mouse) (taken : Nat),
      exchangeAll Mouse.link device requests mouse = (result, left) ∧ left.queue = [] ∧
      left.holdings = (((requests.take taken).map fun request =>
        (reportId, request.report)).foldl taking mouse).holdings ∧
      ((result = .ok () ∧ taken = requests.length ∧
          ∀ count < requests.length, ¬ mouse.CutAfter count) ∨
        (∃ error, result = .error (.failed error)) ∧ mouse.CutAfter taken) := by
  induction requests generalizing mouse with
  | nil => exact ⟨.ok (), mouse, 0, rfl, empty, rfl, .inl ⟨rfl, rfl, by simp⟩⟩
  | cons request rest ih =>
    have executed := execute_mouse device (fits request (by simp)) empty
    have reached : (mouse.answering request).holdings =
        (mouse.taking (reportId, request.report)).holdings := by
      rw [answering_holdings, taking_report mouse (fits request (by simp))]
    obtain ⟨registers, flash, frame⟩ := answering_frame mouse request
    cases written : mouse.failWrites.lookup mouse.writes with
    | some cause =>
      rw [written] at executed
      exact ⟨_, _, 0, Session.bind_error executed, empty, rfl,
        .inr ⟨⟨_, rfl⟩, by simp, by simp, .inr (by simp [written])⟩⟩
    | none =>
      cases answered : mouse.failReads.lookup mouse.reads with
      | some cause =>
        rw [written, answered] at executed
        refine ⟨_, _, 1, Session.bind_error executed, by rw [frame]; exact empty, reached,
          .inr ⟨⟨_, rfl⟩, ?_, by omega, .inl ⟨0, rfl, by simp [answered]⟩⟩⟩
        intro j below
        rwa [Nat.lt_one_iff.mp below]
      | none =>
        rw [written, answered] at executed
        generalize after : ({ mouse.answering request with
          reads := mouse.reads + 1, pending := none } : Mouse) = next at executed
        have clear : next.queue = [] := by
          rw [← after, frame]
          exact empty
        have holds : next.holdings = (mouse.taking (reportId, request.report)).holdings := by
          rw [← after]
          exact reached
        have nearer (count : Nat) : mouse.CutAfter (count + 1) ↔ next.CutAfter count := by
          apply cutAfter_succ written answered <;> rw [← after, frame] <;> exact ⟨rfl, rfl⟩
        obtain ⟨result, left, taken, sent, queue, held, ended⟩ :=
          ih (fun other member => fits other (by simp [member])) clear
        refine ⟨result, left, taken + 1, (Session.bind_ok executed).trans sent, queue, ?_, ?_⟩
        · rw [held]
          exact foldl_taking_holdings holds _
        · rcases ended with ⟨ok, all, uncut⟩ | ⟨failed, cut⟩
          · refine .inl ⟨ok, by simp [all], ?_⟩
            rintro (_ | count) below cut
            · rcases cut.cut with ⟨j, last, _⟩ | untaken
              · omega
              · exact untaken written
            · exact uncut count (by simpa using below) ((nearer count).mp cut)
          · exact .inr ⟨failed, (nearer taken).mpr cut⟩

structure Willing (mouse : Mouse) : Prop where
  queue : mouse.queue = []
  failWrites : mouse.failWrites = []
  failReads : mouse.failReads = []

theorem Willing.uncut {mouse : Mouse} (willing : mouse.Willing) (taken : Nat) : ¬ mouse.CutAfter taken := by
  rintro ⟨_, _, ⟨j, _, unanswered⟩ | untaken⟩
  · exact unanswered (by rw [willing.failReads]; rfl)
  · exact untaken (by rw [willing.failWrites]; rfl)

theorem taking_pieces {data : List UInt8} {start : UInt32} {packet : Nat → List UInt8 → Request}
    (whole : data.length % 2 = 0)
    (stores : ∀ (mouse : Mouse) (index : Nat), index * 56 < data.length →
      mouse.taking (reportId, (packet index ((data.drop (index * 56)).take 56)).report) =
        mouse.storing (start + UInt32.ofNat (28 * index))
          (words ((data.drop (index * 56)).take 56)))
    (mouse : Mouse) (count : Nat) :
    ((((pieces 56 data).mapIdx packet).take count).map fun request =>
        (reportId, request.report)).foldl taking mouse =
      mouse.storing start ((words data).take (28 * count)) := by
  induction count with
  | zero => rfl
  | succ count ih =>
    rw [List.take_add_one, List.map_append, List.foldl_append, ih,
      getElem?_mapIdx_pieces _ _ _ _ (by decide)]
    by_cases more : count * 56 < data.length
    · have carried : words ((data.drop (count * 56)).take 56) =
          ((words data).drop (28 * count)).take 28 := by
        rw [show count * 56 = 2 * (28 * count) by omega, show (56 : Nat) = 2 * 28 from rfl,
          words_take, words_drop]
      have length : ((words data).take (28 * count)).length = 28 * count := by
        rw [List.length_take, length_words]
        omega
      rw [if_pos more]
      simp only [Option.toList_some, List.map_cons, List.map_nil, List.foldl_cons, List.foldl_nil]
      rw [stores _ count more, carried, Nat.mul_add, Nat.mul_one, List.take_add]
      simp only [storing]
      rw [Memory.storeWords_append, length]
    · have ended : (words data).length ≤ 28 * count := by
        rw [length_words]
        omega
      rw [if_neg more, List.take_of_length_le ended, List.take_of_length_le (by omega)]
      rfl

structure Scripted (start mouse : Mouse) : Prop where
  queue : mouse.queue = []
  failWrites : mouse.failWrites = start.failWrites
  failReads : mouse.failReads = start.failReads

theorem scripted_alike {device : Device} (start : Mouse) :
    Link.Alike device (fun first second => first = second ∧ Scripted start second) Mouse.link
      Mouse.link where
  write := by
    rintro mouse _ id report ⟨rfl, scripted⟩
    refine ⟨rfl, rfl, ?_⟩
    change Scripted start (mouse.write id report).2
    unfold write
    repeat' split
    · exact ⟨scripted.queue, scripted.failWrites, scripted.failReads⟩
    · obtain ⟨registers, flash, left⟩ := perform_frame { mouse with writes := mouse.writes + 1 }
        (report.getD 1 0) (report.getD 4 0) (.ofBytes (report.drop headerLength))
      exact ⟨(congrArg Mouse.queue left).trans scripted.queue,
        (congrArg Mouse.failWrites left).trans scripted.failWrites,
        (congrArg Mouse.failReads left).trans scripted.failReads⟩
    · exact ⟨scripted.queue, scripted.failWrites, scripted.failReads⟩
  read := by
    rintro mouse _ id length ⟨rfl, scripted⟩
    refine ⟨rfl, rfl, ?_⟩
    change Scripted start (mouse.read length).2
    simp only [read, scripted.queue]
    repeat' split
    all_goals exact ⟨rfl, scripted.failWrites, scripted.failReads⟩

end MouseControl.Mouse
