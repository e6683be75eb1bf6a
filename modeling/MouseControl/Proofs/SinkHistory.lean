import MouseControl.Profile.Sink

/-! Sinks over any series of calls. A call goes through five demands in a fixed order; the first that is
not met gives the error and leaves the sink as it was. So a sink holds the device and the profile of the
latest call that it accepted, and these met every demand. -/
namespace MouseControl

inductive Demand where
  | dpi
  | pollingRate
  | liftOff
  | supported
  | willing
deriving DecidableEq, Repr

namespace Demand

def inOrder : List Demand := [dpi, pollingRate, liftOff, supported, willing]

def Met (failure : Option String) (mouse : Device) (profile : Profile) : Demand → Prop
  | dpi => 100 ≤ profile.dpi.toNat ∧ profile.dpi.toNat ≤ 25600
  | pollingRate => profile.pollingRate.toNat ∈ [125, 250, 500, 1000]
  | liftOff => 1 ≤ profile.liftOff.toNat ∧ profile.liftOff.toNat ≤ 5
  | supported => mouse.vendorId = 0x09DA
  | willing => failure = none

def complaint (failure : Option String) (mouse : Device) (profile : Profile) : Demand → Error
  | dpi => .invalidDpi profile.dpi
  | pollingRate => .invalidPollingRate profile.pollingRate
  | liftOff => .invalidLiftOff profile.liftOff
  | supported => .unsupportedDevice mouse.vendorId mouse.productId
  | willing => .transportFailed 0 (.hid (failure.getD ""))

variable (failure : Option String) (mouse : Device) (profile : Profile)

instance : DecidablePred (Met failure mouse profile)
  | dpi => inferInstanceAs (Decidable (_ ∧ _))
  | pollingRate => inferInstanceAs (Decidable (_ ∈ [125, 250, 500, 1000]))
  | liftOff => inferInstanceAs (Decidable (_ ∧ _))
  | supported => inferInstanceAs (Decidable (_ = _))
  | willing => inferInstanceAs (Decidable (failure = none))

def firstUnmet : Option Demand := inOrder.find? fun demand => ¬ demand.Met failure mouse profile

private theorem checkDpi_eq : checkDpi profile.dpi =
    if dpi.Met failure mouse profile then .ok profile.dpi else .error (.invalidDpi profile.dpi) := by
  have same : dpiMin ≤ profile.dpi ∧ profile.dpi ≤ dpiMax ↔ dpi.Met failure mouse profile := by
    simp only [UInt32.le_iff_toNat_le]
    rfl
  exact ite_congr (propext same) (fun _ => rfl) (fun _ => rfl)

private theorem checkPollingRate_eq : checkPollingRate profile.pollingRate =
    if pollingRate.Met failure mouse profile then .ok profile.pollingRate
    else .error (.invalidPollingRate profile.pollingRate) := by
  have same : profile.pollingRate ∈ pollingRates ↔ pollingRate.Met failure mouse profile := by
    simp [pollingRates, Met, ← UInt32.toNat_inj]
  exact ite_congr (propext same) (fun _ => rfl) (fun _ => rfl)

private theorem checkLiftOff_eq : checkLiftOff profile.liftOff =
    if liftOff.Met failure mouse profile then .ok profile.liftOff
    else .error (.invalidLiftOff profile.liftOff) := by
  have same : liftOffMin ≤ profile.liftOff ∧ profile.liftOff ≤ liftOffMax ↔
      liftOff.Met failure mouse profile := by
    simp only [UInt32.le_iff_toNat_le]
    rfl
  exact ite_congr (propext same) (fun _ => rfl) (fun _ => rfl)

private theorem requireSupported_eq : mouse.requireSupported =
    if supported.Met failure mouse profile then .ok ()
    else .error (.unsupportedDevice mouse.vendorId mouse.productId) := by
  have same : mouse.isSupported = true ↔ supported.Met failure mouse profile := by
    simp [Device.isSupported, Catalog.vendorIds, Catalog.vendorId, Met]
  exact ite_congr (propext same) (fun _ => rfl) (fun _ => rfl)

private theorem firstUnmet_eq_none : firstUnmet failure mouse profile = none ↔
    ∀ demand : Demand, demand.Met failure mouse profile := by
  simp only [firstUnmet, List.find?_eq_none, decide_not, Bool.not_eq_true, Bool.not_eq_false',
    decide_eq_true_eq]
  constructor
  · intro all demand
    exact all demand (by cases demand <;> decide)
  · exact fun all demand _ => all demand

end Demand

namespace Sink

private theorem apply_eq (sink : Sink) (mouse : Device) (profile : Profile) :
    sink.apply mouse profile =
      match Demand.firstUnmet sink.failure mouse profile with
      | none => (.ok (), { sink with last := some (mouse, profile) })
      | some demand => (.error (demand.complaint sink.failure mouse profile), sink) := by
  rw [apply, checkProfile, Demand.checkDpi_eq sink.failure mouse,
    Demand.checkPollingRate_eq sink.failure mouse, Demand.checkLiftOff_eq sink.failure mouse,
    Demand.requireSupported_eq sink.failure mouse profile, Demand.firstUnmet, Demand.inOrder]
  by_cases first : Demand.dpi.Met sink.failure mouse profile
  case neg => simp [first]; rfl
  by_cases second : Demand.pollingRate.Met sink.failure mouse profile
  case neg => simp [first, second]; rfl
  by_cases third : Demand.liftOff.Met sink.failure mouse profile
  case neg => simp [first, second, third]; rfl
  by_cases fourth : Demand.supported.Met sink.failure mouse profile
  case neg => simp [first, second, third, fourth]; rfl
  -- All checks are passed, so that the sink itself decides.
  obtain ⟨failure, last⟩ := sink
  cases failure with
  | none =>
    have fifth : Demand.willing.Met none mouse profile := rfl
    simp [first, second, third, fourth, fifth]
    rfl
  | some reason =>
    have fifth : ¬ Demand.willing.Met (some reason) mouse profile := fun none => (by cases none)
    simp [first, second, third, fourth, fifth]
    rfl

def play : Sink → List (Device × Profile) → List (Except Error Unit) × Sink
  | sink, [] => ([], sink)
  | sink, (mouse, profile) :: rest =>
    let (result, next) := sink.apply mouse profile
    let (results, last) := next.play rest
    (result :: results, last)

def latestAccepted (calls : List (Device × Profile)) (results : List (Except Error Unit)) :
    Option (Device × Profile) :=
  (((calls.zip results).filter fun entry => entry.2.isOk).getLast?).map Prod.fst

private theorem play_append (sink : Sink) (calls others : List (Device × Profile)) :
    sink.play (calls ++ others) = ((sink.play calls).1 ++ ((sink.play calls).2.play others).1,
      ((sink.play calls).2.play others).2) := by
  induction calls generalizing sink with
  | nil => rfl
  | cons call rest ih => simp only [List.cons_append, play, ih]

private theorem apply_failure (sink : Sink) (mouse : Device) (profile : Profile) :
    (sink.apply mouse profile).2.failure = sink.failure := by
  rw [apply_eq]
  split <;> rfl

private theorem play_failure (sink : Sink) (calls : List (Device × Profile)) :
    (sink.play calls).2.failure = sink.failure := by
  induction calls generalizing sink with
  | nil => rfl
  | cons call rest ih => exact (ih _).trans (apply_failure sink call.1 call.2)

private theorem latestAccepted_cons (call : Device × Profile) (calls : List (Device × Profile))
    (result : Except Error Unit) (results : List (Except Error Unit)) :
    latestAccepted (call :: calls) (result :: results) =
      (latestAccepted calls results).or (if result.isOk then some call else none) := by
  rw [latestAccepted, latestAccepted, List.zip_cons_cons, List.filter_cons]
  cases result with
  | error error => exact Option.or_none.symm
  | ok value =>
    change Option.map Prod.fst ((call, Except.ok value) :: _).getLast? = Option.or _ (some call)
    rw [List.getLast?_cons]
    cases ((calls.zip results).filter fun entry => entry.2.isOk).getLast? <;> rfl

private theorem apply_last (sink : Sink) (mouse : Device) (profile : Profile) :
    (sink.apply mouse profile).2.last =
      (if (sink.apply mouse profile).1.isOk then some (mouse, profile) else none).or sink.last := by
  rw [apply_eq]
  split <;> rfl

private theorem play_last (sink : Sink) (calls : List (Device × Profile)) :
    (sink.play calls).2.last = (latestAccepted calls (sink.play calls).1).or sink.last := by
  induction calls generalizing sink with
  | nil => rfl
  | cons call rest ih =>
    simp only [play]
    rw [ih, apply_last, latestAccepted_cons, Option.or_assoc]

def Sound (sink : Sink) : Prop :=
  ∀ held, sink.last = some held → ∀ demand : Demand, demand.Met sink.failure held.1 held.2

private theorem Sound.apply {sink : Sink} (sound : sink.Sound) (mouse : Device) (profile : Profile) :
    (sink.apply mouse profile).2.Sound := by
  intro held holds
  rw [apply_eq] at holds ⊢
  cases unmet : Demand.firstUnmet sink.failure mouse profile with
  | none =>
    rw [unmet] at holds
    cases holds
    exact (Demand.firstUnmet_eq_none sink.failure mouse profile).mp unmet
  | some demand =>
    rw [unmet] at holds
    exact sound held holds

private theorem Sound.play {sink : Sink} (sound : sink.Sound) (calls : List (Device × Profile)) :
    (sink.play calls).2.Sound := by
  induction calls generalizing sink with
  | nil => exact sound
  | cons call rest ih => exact ih (sound.apply call.1 call.2)

/-- After any calls on a new sink, it holds the latest that it accepted, and what it holds is a valid
profile for a supported device. One call more is accepted exactly if the sink does not fail, the profile
is in range and the device has the supported vendor; otherwise its error is that of the first demand it
does not meet, and the sink stays as it was. -/
theorem sink_holds_latest_accepted {start : Sink}
    (new : start = .accepting ∨ ∃ reason, start = .failing reason) (calls : List (Device × Profile))
    (mouse : Device) (profile : Profile) :
    let before := (start.play calls).2
    let result := (before.apply mouse profile).1
    let after := (before.apply mouse profile).2
    start.play (calls ++ [(mouse, profile)]) = ((start.play calls).1 ++ [result], after) ∧
    before.last = latestAccepted calls (start.play calls).1 ∧
    (∀ held, before.last = some held →
      start = .accepting ∧ ∀ demand : Demand, demand.Met none held.1 held.2) ∧
    (result = .ok () ↔ start = .accepting ∧
      (100 ≤ profile.dpi.toNat ∧ profile.dpi.toNat ≤ 25600) ∧
      profile.pollingRate.toNat ∈ [125, 250, 500, 1000] ∧
      (1 ≤ profile.liftOff.toNat ∧ profile.liftOff.toNat ≤ 5) ∧ mouse.vendorId = 0x09DA) ∧
    (result = .ok () → after.last = some (mouse, profile)) ∧
    ∀ error, result = .error error → after = before ∧
      ∃ demand, Demand.firstUnmet start.failure mouse profile = some demand ∧
        error = demand.complaint start.failure mouse profile := by
  intro before result after
  have empty : start.last = none := by rcases new with rfl | ⟨reason, rfl⟩ <;> rfl
  have willing : start.failure = none ↔ start = .accepting := by
    rcases new with rfl | ⟨reason, rfl⟩
    · simp [accepting]
    · simp [accepting, failing]
  have sound : before.Sound := by
    have none : start.Sound := fun held holds => (by rw [empty] at holds; cases holds)
    exact none.play calls
  have failure : before.failure = start.failure := start.play_failure calls
  have applied := before.apply_eq mouse profile
  rw [failure] at applied
  refine ⟨start.play_append calls _, ?_, ?_, ?_, ?_, ?_⟩
  · exact (start.play_last calls).trans (by rw [empty, Option.or_none])
  · intro held holds
    have met := sound held holds
    rw [failure] at met
    have fine : start.failure = none := met .willing
    exact ⟨willing.mp fine, fun demand => fine ▸ met demand⟩
  · have accepted : result = .ok () ↔ Demand.firstUnmet start.failure mouse profile = none := by
      simp only [result, applied]
      cases Demand.firstUnmet start.failure mouse profile <;> simp
    rw [accepted, Demand.firstUnmet_eq_none, ← willing]
    constructor
    · exact fun met => ⟨met .willing, met .dpi, met .pollingRate, met .liftOff, met .supported⟩
    · rintro ⟨fifth, first, second, third, fourth⟩ demand
      cases demand with
      | dpi => exact first
      | pollingRate => exact second
      | liftOff => exact third
      | supported => exact fourth
      | willing => exact fifth
  · intro ok
    simp only [result, after, applied] at ok ⊢
    cases unmet : Demand.firstUnmet start.failure mouse profile with
    | none => rfl
    | some demand =>
      rw [unmet] at ok
      cases ok
  · intro error failed
    simp only [result, after, applied] at failed ⊢
    cases unmet : Demand.firstUnmet start.failure mouse profile with
    | none =>
      rw [unmet] at failed
      cases failed
    | some demand =>
      rw [unmet] at failed
      cases failed
      exact ⟨rfl, demand, rfl, rfl⟩

-- A profile with two members out of range, offered for a device of another vendor: the first member is
-- blamed, and what was accepted before stays.
theorem sink_holds_latest_accepted_refusing :
    let mouse : Device := ⟨0x09DA, 0x7F1B, "Bloody T50", "SN1"⟩
    let stranger : Device := ⟨0x046D, 0x7F1B, "Mouse", ""⟩
    let before := (Sink.accepting.play [(mouse, .standard), (stranger, .standard)]).2
    let offered := before.apply stranger ⟨25600, 126, 6⟩
    before.last = some (mouse, .standard) ∧ offered = (.error (.invalidPollingRate 126), before) := by
  intro mouse stranger before offered
  obtain ⟨_, holds, _, accepted, _, refused⟩ := sink_holds_latest_accepted (.inl rfl)
    [(mouse, .standard), (stranger, .standard)] stranger ⟨25600, 126, 6⟩
  refine ⟨holds.trans (by decide +kernel), ?_⟩
  rcases ended : offered.1 with error | value
  · obtain ⟨still, demand, first, rfl⟩ := refused error ended
    have rate : Demand.firstUnmet none stranger ⟨25600, 126, 6⟩ = some .pollingRate := by
      decide +kernel
    cases rate.symm.trans first
    exact Prod.ext ended still
  · obtain ⟨_, _, _, _, vendor⟩ := accepted.mp ended
    cases vendor

end Sink

end MouseControl
