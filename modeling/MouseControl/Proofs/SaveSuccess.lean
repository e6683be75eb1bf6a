import MouseControl.Mouse.Basic
import MouseControl.Proofs.SaveHistory

/-! What a run of a save that reports success tells its caller. A run stops at a finished save and then
reports success, and a save that failed is finished as well: so a run of a save that went on says that
it was committed, and one of a save that had failed says nothing. -/
namespace MouseControl.Save
variable {σ : Type}

def Saved (strategy : Strategy) (contacts : List Contact) : Prop :=
  ∃ outcomes, Transcript (requests strategy) contacts outcomes ∧ AllOk outcomes

section Kept
variable {strategy : Strategy} {sequence : Sequence} {contacts : List Contact} {outcomes : List Outcome}

private theorem length_requests (strategy : Strategy) : (requests strategy).length = strategy.stepCount :=
  List.length_mapIdx

private theorem Kept.saved (kept : Kept strategy sequence contacts outcomes)
    (done : sequence.progress = .committed) : Saved strategy contacts := by
  obtain ⟨all, good⟩ := (kept.told.committed_iff (stepCount_pos strategy)).mp done
  have transcript := kept.transcript
  rw [all, ← length_requests, List.take_length] at transcript
  exact ⟨outcomes, transcript, good⟩

private theorem Told.committed_of_good {total : Nat} {progress : Progress}
    (told : Told total outcomes progress) (finished : progress.isTerminal = true)
    (good : AllOk outcomes) : progress = .committed := by
  cases told with
  | idle => cases finished
  | stepping some more good => cases finished
  | committed all good => rfl
  | failed error bound earlier => exact absurd (allOk_append.mp good).2 (not_allOk_error error)

end Kept

private theorem isTerminal_iff (progress : Progress) :
    progress.isTerminal = true ↔ progress = .committed ∨ ∃ step, progress = .failed step := by
  cases progress <;> simp [Progress.isTerminal]

/-- After any history of calls, a run reports success exactly if it leaves the save committed, with
every phase exchanged, or found it failed. A failed save stays as it is and nothing is sent for it. -/
theorem run_ok_iff (link : Link σ) (device : Device) (strategy : Strategy) (acts : List Act)
    (state : σ) :
    ∃ (sequence next : Sequence) (before after : Traced σ) (result : Except Halt Unit),
      performAll link.traced device acts (.start strategy) ⟨state, []⟩ = (sequence, before) ∧
      Sequence.run link.traced device sequence before = ((result, next), after) ∧
      (result = .ok () ↔ next.progress = .committed ∨ ∃ step, sequence.progress = .failed step) ∧
      (next.progress = .committed → Saved strategy after.contacts) ∧
      ∀ step, sequence.progress = .failed step → next = sequence ∧ after = before := by
  obtain ⟨sequence, left, contacts, outcomes, performed, kept⟩ :=
    performAll_kept link device (kept_start strategy) acts state
  simp only [List.nil_append] at performed kept
  cases finished : sequence.progress.isTerminal with
  | true =>
    have still : Sequence.run link.traced device sequence ⟨left, contacts⟩ =
        ((.ok (), sequence), ⟨left, contacts⟩) := runUpTo_terminal link.traced device finished _ _
    refine ⟨sequence, sequence, _, _, .ok (), performed, still, ?_, kept.saved, ?_⟩
    · exact ⟨fun _ => (isTerminal_iff _).mp finished, fun _ => rfl⟩
    · exact fun _ _ => ⟨rfl, rfl⟩
  | false =>
    obtain ⟨result, next, final, made, more, ran, after, ends, progresses⟩ :=
      perform_kept link device kept .run left
    have open_save (step : Nat) : sequence.progress ≠ .failed step := by
      intro failed
      rw [failed] at finished
      cases finished
    refine ⟨sequence, next, _, _, result, performed, ran, ?_, after.saved, ?_⟩
    · -- All exchanges before the run went well, so that those of the run decide.
      have earlier : AllOk outcomes := (kept.told.open_next finished).1
      constructor
      · rintro rfl
        exact .inl (after.told.committed_of_good (progresses finished)
          (allOk_append.mpr ⟨earlier, ends.good⟩))
      · rintro (done | ⟨step, failed⟩)
        · have good := ((after.told.committed_iff (stepCount_pos strategy)).mp done).2
          cases result with
          | ok _ => rfl
          | error halt => exact absurd (allOk_append.mp good).2 ends.not_good
        · exact absurd failed (open_save step)
    · exact fun step failed => absurd failed (open_save step)

-- The one phase of a quick save is not taken. The first run says so; the next one reports success.
theorem run_ok_after_failure :
    let device : Device := ⟨0x09DA, 0x7F1B, "Bloody T50", "SN1"⟩
    let mouse := { Mouse.fresh with failWrites := [(0, .timeout "x")] }
    let failed := performAll Mouse.link device [.run] (.start .quick) mouse
    let again := Sequence.run Mouse.link device failed.1 failed.2
    failed.1.progress = .failed 0 ∧
      ¬ (again.1.1 = .ok () → again.1.2.progress = .committed) := by
  intro device mouse failed again
  have stopped : failed.1.progress = .failed 0 := by with_unfolding_all rfl
  have reported : again.1.1 = .ok () := by with_unfolding_all rfl
  have unsaved : again.1.2.progress = .failed 0 := by with_unfolding_all rfl
  refine ⟨stopped, fun claimed => ?_⟩
  have done := claimed reported
  rw [unsaved] at done
  cases done

end MouseControl.Save
