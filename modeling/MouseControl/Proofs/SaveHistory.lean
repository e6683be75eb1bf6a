import MouseControl.Proofs.Transcript
import MouseControl.Save.Sequence

/-! Saves over any history of steps and runs. Whatever the link answers and however often a failed save
is called again, each phase is sent at most once and in order, and the progress tells which were sent
and how their exchanges ended. -/
namespace MouseControl.Save
variable {σ : Type}

def requests (strategy : Strategy) : List Request :=
  strategy.phases.mapIdx fun i phase => .write Opcode.save
    [strategy.code, UInt8.ofNat i, phase.code, UInt8.ofNat strategy.stepCount]

/-- What the progress of a save says about its exchanges so far. -/
inductive Told (total : Nat) : List Outcome → Progress → Prop where
  | idle : Told total [] .idle
  | stepping {outcomes : List Outcome} (some : outcomes ≠ []) (more : outcomes.length < total)
      (good : AllOk outcomes) : Told total outcomes (.stepping outcomes.length)
  | committed {outcomes : List Outcome} (all : outcomes.length = total) (good : AllOk outcomes) :
      Told total outcomes .committed
  | failed {earlier : List Outcome} (error : Error) (bound : earlier.length < total)
      (good : AllOk earlier) : Told total (earlier ++ [.error error]) (.failed earlier.length)

structure Kept (strategy : Strategy) (sequence : Sequence) (contacts : List Contact)
    (outcomes : List Outcome) : Prop where
  same : sequence.strategy = strategy
  transcript : Transcript ((requests strategy).take outcomes.length) contacts outcomes
  told : Told strategy.stepCount outcomes sequence.progress

private theorem Kept.still {strategy : Strategy} {sequence : Sequence} {contacts : List Contact}
    {outcomes : List Outcome} (kept : Kept strategy sequence contacts outcomes) :
    Kept strategy sequence (contacts ++ []) (outcomes ++ []) := by
  rwa [List.append_nil, List.append_nil]

theorem stepCount_pos (strategy : Strategy) : 0 < strategy.stepCount := by
  cases strategy <;> decide

private theorem getElem?_requests (strategy : Strategy) (i : Nat) :
    (requests strategy)[i]? = strategy.phases[i]?.map fun phase => .write Opcode.save
      [strategy.code, UInt8.ofNat i, phase.code, UInt8.ofNat strategy.stepCount] :=
  List.getElem?_mapIdx

theorem Told.open_next {strategy : Strategy} {outcomes : List Outcome} {progress : Progress}
    (told : Told strategy.stepCount outcomes progress) (unfinished : progress.isTerminal = false) :
    AllOk outcomes ∧ ∃ phase, strategy.phases[outcomes.length]? = some phase ∧
      Sequence.next? ⟨strategy, progress⟩ = some (outcomes.length, phase) := by
  cases told with
  | idle =>
    have first : strategy.phases[0]? = some (strategy.phases.get ⟨0, stepCount_pos strategy⟩) :=
      List.getElem?_eq_getElem _
    exact ⟨allOk_nil, _, first, by simp [Sequence.next?, first]⟩
  | stepping some more good =>
    have next : strategy.phases[outcomes.length]? = .some (strategy.phases.get ⟨_, more⟩) :=
      List.getElem?_eq_getElem more
    exact ⟨good, _, next, by simp [Sequence.next?, next]⟩
  | committed all good => cases unfinished
  | failed error bound good => cases unfinished

section Told
variable {total : Nat} {outcomes : List Outcome} {progress : Progress}

private theorem Told.idle_iff (told : Told total outcomes progress) (pos : 0 < total) :
    progress = .idle ↔ outcomes.length = 0 := by
  cases told with
  | idle => simp
  | stepping some more good => simp [some]
  | committed all good => simp only [reduceCtorEq, false_iff]; omega
  | failed error bound good => simp

private theorem Told.stepping_iff (told : Told total outcomes progress) (i : Nat) :
    progress = .stepping i ↔ 0 < i ∧ i < total ∧ outcomes.length = i ∧ AllOk outcomes := by
  cases told with
  | idle => simp only [reduceCtorEq, false_iff, List.length_nil]; omega
  | stepping some more good =>
    have pos := List.length_pos_iff.mpr some
    simp only [Progress.stepping.injEq, good, and_true]
    omega
  | committed all good => simp only [reduceCtorEq, false_iff]; omega
  | failed error bound good =>
    simp only [reduceCtorEq, false_iff]
    rintro ⟨_, _, _, every⟩
    exact not_allOk_error error (allOk_append.mp every).2

theorem Told.committed_iff (told : Told total outcomes progress) (pos : 0 < total) :
    progress = .committed ↔ outcomes.length = total ∧ AllOk outcomes := by
  cases told with
  | idle => simp only [reduceCtorEq, false_iff, List.length_nil]; omega
  | stepping some more good => simp only [reduceCtorEq, false_iff]; omega
  | committed all good => exact ⟨fun _ => ⟨all, good⟩, fun _ => rfl⟩
  | failed error bound good =>
    simp only [reduceCtorEq, false_iff]
    exact fun every => not_allOk_error error (allOk_append.mp every.2).2

private theorem Told.failed_iff (told : Told total outcomes progress) (i : Nat) :
    progress = .failed i ↔ outcomes.length = i + 1 ∧ AllOk (outcomes.take i) ∧
      ∃ error, outcomes[i]? = some (.error error) := by
  cases told with
  | idle => simp
  | stepping some more good | committed all good =>
    simp only [reduceCtorEq, false_iff]
    rintro ⟨_, _, error, found⟩
    exact good.getElem?_ne i error found
  | @failed earlier error bound good =>
    simp only [Progress.failed.injEq, List.length_append, List.length_singleton,
      Nat.add_right_cancel_iff]
    constructor
    · rintro rfl
      exact ⟨rfl, by rwa [List.take_left], error, List.getElem?_concat_length⟩
    · exact fun right => right.1

private theorem Told.length_le (told : Told total outcomes progress) : outcomes.length ≤ total := by
  cases told with
  | idle => exact Nat.zero_le _
  | stepping some more good => exact Nat.le_of_lt more
  | committed all good => exact Nat.le_of_eq all
  | failed error bound good => simpa [Nat.succ_le_iff] using bound

private theorem Told.finished (told : Told total outcomes progress) (pos : 0 < total)
    (done : total ≤ outcomes.length ∨ ¬ AllOk outcomes) : progress.isTerminal = true := by
  cases told with
  | idle => exact done.elim (fun full => absurd full (Nat.not_le.mpr pos)) (absurd allOk_nil)
  | stepping some more good => exact done.elim (fun full => absurd more (by omega)) (absurd good)
  | committed all good => rfl
  | failed error bound good => rfl

end Told

private theorem next?_terminal {sequence : Sequence} (finished : sequence.progress.isTerminal = true) :
    sequence.next? = none := by
  unfold Sequence.next?
  cases progress : sequence.progress with
  | idle | stepping _ => rw [progress] at finished; cases finished
  | committed | failed _ => rfl

section Calls
variable (link : Link σ) (device : Device)

theorem step_apply (sequence : Sequence) (state : σ) :
    Sequence.step link device sequence state =
      match sequence.next? with
      | none => ((.ok sequence.progress, sequence), state)
      | some (index, phase) =>
        match execute link device (.write Opcode.save (sequence.payload index phase)) state with
        | (.ok _, left) =>
          let reached :=
            if index + 1 = sequence.total then Progress.committed else .stepping (index + 1)
          ((.ok reached, { sequence with progress := reached }), left)
        | (.error (.failed error), left) =>
          ((.error (.failed (.sequenceFailed .save (index + 1) sequence.total error)),
            { sequence with progress := .failed index }), left)
        | (.error (.crashed crash), left) =>
          ((.error (.crashed crash), { sequence with progress := .stepping index }), left) := by
  unfold Sequence.step
  cases sequence.next? with
  | none => rfl
  | some next =>
    obtain ⟨index, phase⟩ := next
    rcases executed : execute link device (.write Opcode.save (sequence.payload index phase)) state
      with ⟨(error | crash) | region, left⟩
    all_goals
      simp only [bind, StateT.bind, ExceptT.run, executed]
      rfl

/-- How a call on a save ends, by the exchanges made in it after a number of others. -/
inductive Ends (total before : Nat) : List Outcome → Except Halt Unit → Prop where
  | well {outcomes : List Outcome} (good : AllOk outcomes) : Ends total before outcomes (.ok ())
  | failed {earlier : List Outcome} (error : Error) (good : AllOk earlier) :
      Ends total before (earlier ++ [.error error]) (.error (.failed
        (.sequenceFailed .save (before + earlier.length + 1) total error)))

private theorem step_kept {strategy : Strategy} {sequence : Sequence} {contacts : List Contact}
    {outcomes : List Outcome} (kept : Kept strategy sequence contacts outcomes)
    (unfinished : sequence.progress.isTerminal = false) (state : σ) :
    ∃ (result : Except Halt Progress) (next : Sequence) (left : σ) (made : List Contact)
      (outcome : Outcome),
      Sequence.step link.traced device sequence ⟨state, contacts⟩ =
        ((result, next), ⟨left, contacts ++ made⟩) ∧
      Kept strategy next (contacts ++ made) (outcomes ++ [outcome]) ∧
      Ends strategy.stepCount outcomes.length [outcome] (result.map fun _ => ()) := by
  obtain ⟨chosen, progress⟩ := sequence
  obtain ⟨rfl, transcript, told⟩ := kept
  obtain ⟨good, phase, found, next⟩ := told.open_next unfinished
  have below : outcomes.length < chosen.stepCount := (List.getElem?_eq_some_iff.mp found).1
  have request : (requests chosen)[outcomes.length]? =
      some (.write Opcode.save (Sequence.payload ⟨chosen, progress⟩ outcomes.length phase)) := by
    rw [getElem?_requests, found]
    rfl
  obtain ⟨made, outcome, left, exchange, _, executed⟩ := execute_traced link device
    (.write Opcode.save (Sequence.payload ⟨chosen, progress⟩ outcomes.length phase)) state
    (by simp [Request.Fits, Request.write, Sequence.payload, regionLength_eq]) contacts
  have longer : Transcript ((requests chosen).take (outcomes ++ [outcome]).length)
      (contacts ++ made) (outcomes ++ [outcome]) := by
    rw [List.length_append, List.length_singleton, List.take_add_one, request]
    have one := Transcript.cons exchange .nil
    rw [List.append_nil] at one
    exact transcript.append one
  rw [step_apply, next]
  simp only [executed]
  cases outcome with
  | error error =>
    exact ⟨_, _, left, made, .error error, rfl, ⟨rfl, longer, .failed error below good⟩,
      @Ends.failed _ _ [] error allOk_nil⟩
  | ok region =>
    have well : AllOk (outcomes ++ [.ok region]) :=
      allOk_append.mpr ⟨good, allOk_cons.mpr allOk_nil⟩
    refine ⟨_, _, left, made, .ok region, rfl, ⟨rfl, longer, ?_⟩, .well (allOk_cons.mpr allOk_nil)⟩
    have length : (outcomes ++ [Except.ok region]).length = outcomes.length + 1 := by simp
    change Told _ _ (if outcomes.length + 1 = chosen.stepCount then _ else _)
    split
    · rename_i last
      exact .committed (length.trans last) well
    · rename_i inner
      rw [← length]
      exact .stepping (by simp) (by omega) well

section Ends
variable {total before : Nat} {outcomes : List Outcome} {result : Except Halt Unit}

theorem Ends.good (ends : Ends total before outcomes (.ok ())) : AllOk outcomes := by
  cases ends with
  | well good => exact good

theorem Ends.not_good {halt : Halt} (ends : Ends total before outcomes (.error halt)) :
    ¬ AllOk outcomes := by
  cases ends with
  | failed error good => exact fun every => not_allOk_error error (allOk_append.mp every).2

private theorem Ends.after {first : List Outcome} (good : AllOk first)
    (ends : Ends total (before + first.length) outcomes result) :
    Ends total before (first ++ outcomes) result := by
  cases ends with
  | well rest => exact .well (allOk_append.mpr ⟨good, rest⟩)
  | @failed earlier error rest =>
    have ended := @Ends.failed total before (first ++ earlier) error
      (allOk_append.mpr ⟨good, rest⟩)
    rwa [List.length_append, List.append_assoc, ← Nat.add_assoc] at ended

end Ends

theorem runUpTo_succ {sequence : Sequence} (unfinished : sequence.progress.isTerminal = false)
    (bound : Nat) (state : σ) :
    Sequence.runUpTo link device (bound + 1) sequence state =
      match Sequence.step link device sequence state with
      | ((.ok _, next), left) => Sequence.runUpTo link device bound next left
      | ((.error halt, next), left) => ((.error halt, next), left) := by
  rw [Sequence.runUpTo, unfinished]
  change (Sequence.step link device sequence >>= _) state = _
  simp only [bind, StateT.bind]
  rcases Sequence.step link device sequence state with ⟨⟨_ | _, next⟩, left⟩ <;> rfl

theorem runUpTo_terminal {sequence : Sequence} (finished : sequence.progress.isTerminal = true)
    (bound : Nat) (state : σ) :
    Sequence.runUpTo link device bound sequence state = ((.ok (), sequence), state) := by
  cases bound with
  | zero => rfl
  | succ bound => rw [Sequence.runUpTo, if_pos finished]; rfl

theorem runUpTo_kept {strategy : Strategy} {sequence : Sequence} {contacts : List Contact}
    {outcomes : List Outcome} (kept : Kept strategy sequence contacts outcomes) {bound : Nat}
    (enough : strategy.stepCount ≤ outcomes.length + bound) (state : σ) :
    ∃ (result : Except Halt Unit) (next : Sequence) (left : σ) (made : List Contact)
      (more : List Outcome),
      Sequence.runUpTo link.traced device bound sequence ⟨state, contacts⟩ =
        ((result, next), ⟨left, contacts ++ made⟩) ∧
      Kept strategy next (contacts ++ made) (outcomes ++ more) ∧
      Ends strategy.stepCount outcomes.length more result ∧ next.progress.isTerminal = true := by
  induction bound generalizing sequence contacts outcomes state with
  | zero =>
    have finished := kept.told.finished (stepCount_pos strategy) (.inl enough)
    exact ⟨.ok (), sequence, state, [], [], by rw [List.append_nil]; rfl,
      kept.still, .well allOk_nil, finished⟩
  | succ bound ih =>
    cases unfinished : sequence.progress.isTerminal with
    | true =>
      rw [runUpTo_terminal link.traced device unfinished]
      exact ⟨.ok (), sequence, state, [], [], by rw [List.append_nil],
        kept.still, .well allOk_nil, unfinished⟩
    | false =>
      obtain ⟨result, next, left, made, outcome, stepped, after, ends⟩ :=
        step_kept link device kept unfinished state
      rw [runUpTo_succ link.traced device unfinished, stepped]
      cases result with
      | error halt =>
        have stopped : ¬ AllOk (outcomes ++ [outcome]) :=
          fun every => ends.not_good (allOk_append.mp every).2
        exact ⟨.error halt, next, left, made, [outcome], rfl, after, ends,
          after.told.finished (stepCount_pos strategy) (.inr stopped)⟩
      | ok reached =>
        obtain ⟨result, last, final, later, more, ran, kept, rest, finished⟩ :=
          ih after (by simp only [List.length_append, List.length_singleton]; omega) left
        rw [List.append_assoc] at ran kept
        rw [List.append_assoc] at kept
        rw [List.length_append] at rest
        exact ⟨result, last, final, made ++ later, [outcome] ++ more, ran, kept,
          rest.after ends.good, finished⟩

end Calls

inductive Act where
  | step
  | run

def Act.perform (link : Link σ) (device : Device) (sequence : Sequence) :
    Act → StateM σ (Except Halt Unit × Sequence)
  | .step => do
    let (result, next) ← Sequence.step link device sequence
    pure (result.map fun _ => (), next)
  | .run => Sequence.run link device sequence

def performAll (link : Link σ) (device : Device) : List Act → Sequence → StateM σ Sequence
  | [], sequence => pure sequence
  | act :: rest, sequence => do
    let (_, next) ← act.perform link device sequence
    performAll link device rest next

structure Account (strategy : Strategy) (sequence : Sequence) (contacts : List Contact)
    (outcomes : List Outcome) : Prop where
  bound : outcomes.length ≤ strategy.stepCount
  sent : contacts.filterMap Contact.sent? =
    ((requests strategy).take outcomes.length).map fun request => (reportId, request.report)
  transcript : Transcript ((requests strategy).take outcomes.length) contacts outcomes
  idle : sequence.progress = .idle ↔ outcomes.length = 0
  stepping : ∀ i, sequence.progress = .stepping i ↔
    0 < i ∧ i < strategy.stepCount ∧ outcomes.length = i ∧ AllOk outcomes
  committed : sequence.progress = .committed ↔
    outcomes.length = strategy.stepCount ∧ AllOk outcomes
  failed : ∀ i, sequence.progress = .failed i ↔ outcomes.length = i + 1 ∧
    AllOk (outcomes.take i) ∧ ∃ error, outcomes[i]? = some (.error error)
  none_next : sequence.progress.isTerminal = true → sequence.next? = none
  some_next : sequence.progress.isTerminal = false → ∃ phase,
    strategy.phases[outcomes.length]? = some phase ∧ sequence.next? = some (outcomes.length, phase)

private theorem Kept.account {strategy : Strategy} {sequence : Sequence} {contacts : List Contact}
    {outcomes : List Outcome} (kept : Kept strategy sequence contacts outcomes) :
    Account strategy sequence contacts outcomes := by
  obtain ⟨rfl, transcript, told⟩ := kept
  have pos := stepCount_pos sequence.strategy
  exact {
    bound := told.length_le
    sent := transcript.sent
    transcript := transcript
    idle := told.idle_iff pos
    stepping := told.stepping_iff
    committed := told.committed_iff pos
    failed := told.failed_iff
    none_next := next?_terminal
    some_next := fun unfinished => (told.open_next unfinished).2 }

theorem kept_start (strategy : Strategy) : Kept strategy (.start strategy) [] [] :=
  ⟨rfl, .nil, .idle⟩

section History
variable (link : Link σ) (device : Device)

private theorem perform_terminal {sequence : Sequence} (finished : sequence.progress.isTerminal = true)
    (act : Act) (state : σ) :
    act.perform link device sequence state = ((.ok (), sequence), state) := by
  cases act with
  | step =>
    have idle : Sequence.step link device sequence state =
        ((.ok sequence.progress, sequence), state) := by
      rw [step_apply, next?_terminal finished]
    simp only [Act.perform, bind, StateT.bind, idle]
    rfl
  | run => exact runUpTo_terminal link device finished _ state

theorem perform_kept {strategy : Strategy} {sequence : Sequence} {contacts : List Contact}
    {outcomes : List Outcome} (kept : Kept strategy sequence contacts outcomes) (act : Act) (state : σ) :
    ∃ (result : Except Halt Unit) (next : Sequence) (left : σ) (made : List Contact)
      (more : List Outcome),
      act.perform link.traced device sequence ⟨state, contacts⟩ =
        ((result, next), ⟨left, contacts ++ made⟩) ∧
      Kept strategy next (contacts ++ made) (outcomes ++ more) ∧
      Ends strategy.stepCount outcomes.length more result ∧
      (sequence.progress.isTerminal = false → match act with
        | .step => more.length = 1
        | .run => next.progress.isTerminal = true) := by
  cases act with
  | run =>
    have enough : strategy.stepCount ≤ outcomes.length + sequence.total := by
      rw [Sequence.total, kept.same]
      omega
    obtain ⟨result, next, left, made, more, ran, after, ends, finished⟩ :=
      runUpTo_kept link device kept enough state
    exact ⟨result, next, left, made, more, ran, after, ends, fun _ => finished⟩
  | step =>
    cases unfinished : sequence.progress.isTerminal with
    | true =>
      rw [perform_terminal link.traced device unfinished]
      exact ⟨.ok (), sequence, state, [], [], by rw [List.append_nil],
        kept.still, .well allOk_nil, fun wrong => (by cases wrong)⟩
    | false =>
      obtain ⟨result, next, left, made, outcome, stepped, after, ends⟩ :=
        step_kept link device kept unfinished state
      refine ⟨_, next, left, made, [outcome], ?_, after, ends, fun _ => rfl⟩
      simp only [Act.perform, bind, StateT.bind, stepped]
      rfl

theorem performAll_kept {strategy : Strategy} {sequence : Sequence} {contacts : List Contact}
    {outcomes : List Outcome} (kept : Kept strategy sequence contacts outcomes) (acts : List Act)
    (state : σ) :
    ∃ (last : Sequence) (left : σ) (made : List Contact) (more : List Outcome),
      performAll link.traced device acts sequence ⟨state, contacts⟩ =
        (last, ⟨left, contacts ++ made⟩) ∧
      Kept strategy last (contacts ++ made) (outcomes ++ more) := by
  induction acts generalizing sequence contacts outcomes state with
  | nil => exact ⟨sequence, state, [], [], by rw [List.append_nil]; rfl,
      kept.still⟩
  | cons act rest ih =>
    obtain ⟨result, next, left, made, more, performed, after, _⟩ :=
      perform_kept link device kept act state
    obtain ⟨last, final, later, others, ran, ended⟩ := ih after left
    rw [List.append_assoc] at ran ended
    rw [List.append_assoc] at ended
    refine ⟨last, final, made ++ later, more ++ others, ?_, ended⟩
    simp only [performAll, bind, StateT.bind, performed]
    exact ran

/-- After any history of calls, the progress of a save tells which phases were sent and how their
exchanges ended, and so it does after one call more. The call in which an exchange fails gives its
error, with its place; a finished save makes no call and stays as it is. -/
theorem history_account (strategy : Strategy) (acts : List Act) (state : σ) :
    ∃ (sequence : Sequence) (left : σ) (contacts : List Contact) (outcomes : List Outcome),
      performAll link.traced device acts (.start strategy) ⟨state, []⟩ =
        (sequence, ⟨left, contacts⟩) ∧
      Account strategy sequence contacts outcomes ∧
      ∀ act : Act, ∃ (result : Except Halt Unit) (next : Sequence) (final : σ) (made : List Contact)
        (more : List Outcome),
        act.perform link.traced device sequence ⟨left, contacts⟩ =
          ((result, next), ⟨final, contacts ++ made⟩) ∧
        Account strategy next (contacts ++ made) (outcomes ++ more) ∧
        Ends strategy.stepCount outcomes.length more result ∧
        match sequence.progress.isTerminal, act with
        | true, _ => act.perform link.traced device sequence ⟨left, contacts⟩ =
            ((.ok (), sequence), ⟨left, contacts⟩)
        | false, .step => more.length = 1
        | false, .run => next.progress.isTerminal = true := by
  obtain ⟨sequence, left, contacts, outcomes, ran, kept⟩ :=
    performAll_kept link device (kept_start strategy) acts state
  refine ⟨sequence, left, contacts, outcomes, ran, kept.account, fun act => ?_⟩
  obtain ⟨result, next, final, made, more, performed, after, ends, progresses⟩ :=
    perform_kept link device kept act left
  refine ⟨result, next, final, made, more, performed, after.account, ends, ?_⟩
  cases unfinished : sequence.progress.isTerminal with
  | true => exact perform_terminal link.traced device unfinished act _
  | false =>
    cases act with
    | step => exact progresses unfinished
    | run => exact progresses unfinished

end History

end MouseControl.Save
