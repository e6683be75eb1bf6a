import MouseControl.Proofs.Mouse

/-! Exchanges that are not scripted to fail. From an empty queue one exchange goes well exactly if neither
of its calls is scripted to fail, and then moves on to the next; so a series goes well exactly if this
holds of each of its exchanges. -/
namespace MouseControl.Mouse
variable {device : Device} {mouse next left : Mouse} {first second : Nat}

/-- So many exchanges to come are not scripted to fail. -/
def Clear (mouse : Mouse) (count : Nat) : Prop :=
  ∀ j < count, mouse.failWrites.lookup (mouse.writes + j) = none ∧
    mouse.failReads.lookup (mouse.reads + j) = none

/-- What so many exchanges that went well leave of a mouse, its registers and cells aside. -/
structure After (mouse : Mouse) (count : Nat) (left : Mouse) : Prop extends Scripted mouse left where
  stuck : left.stuck = mouse.stuck
  corrupt : left.corrupt = mouse.corrupt
  writes : left.writes = mouse.writes + count
  reads : left.reads = mouse.reads + count

namespace After

private theorem refl (empty : mouse.queue = []) : After mouse 0 mouse :=
  ⟨⟨empty, rfl, rfl⟩, rfl, rfl, rfl, rfl⟩

theorem trans (earlier : After mouse first next) (later : After next second left) :
    After mouse (first + second) left where
  queue := later.queue
  failWrites := later.failWrites.trans earlier.failWrites
  failReads := later.failReads.trans earlier.failReads
  stuck := later.stuck.trans earlier.stuck
  corrupt := later.corrupt.trans earlier.corrupt
  writes := by rw [later.writes, earlier.writes, Nat.add_assoc]
  reads := by rw [later.reads, earlier.reads, Nat.add_assoc]

theorem clear_add (earlier : After mouse first next) (second : Nat) :
    mouse.Clear (first + second) ↔ mouse.Clear first ∧ next.Clear second := by
  have shifted (j : Nat) : (next.failWrites.lookup (next.writes + j) = none ∧
      next.failReads.lookup (next.reads + j) = none) ↔
        mouse.failWrites.lookup (mouse.writes + (first + j)) = none ∧
          mouse.failReads.lookup (mouse.reads + (first + j)) = none := by
    rw [earlier.failWrites, earlier.failReads, earlier.writes, earlier.reads, Nat.add_assoc,
      Nat.add_assoc]
  constructor
  · intro clear
    refine ⟨fun j below => clear j (by omega), fun j below => ?_⟩
    exact (shifted j).mpr (clear (first + j) (by omega))
  · rintro ⟨before, behind⟩ j below
    by_cases early : j < first
    · exact before j early
    · obtain ⟨later, rfl⟩ := Nat.exists_eq_add_of_le (Nat.le_of_not_lt early)
      exact (shifted later).mp (behind later (by omega))

end After

theorem Clear.mono {count fewer : Nat} (clear : mouse.Clear count) (le : fewer ≤ count) :
    mouse.Clear fewer := by
  intro j below
  exact clear j (by omega)

private theorem clear_one_iff : mouse.Clear 1 ↔ mouse.failWrites.lookup mouse.writes = none ∧
    mouse.failReads.lookup mouse.reads = none := by
  constructor
  · intro clear
    exact clear 0 Nat.one_pos
  · intro here j below
    rwa [Nat.lt_one_iff.mp below]

private theorem execute_clear {request : Request} {outcome : Outcome} (fits : request.Fits)
    (empty : mouse.queue = [])
    (executed : execute Mouse.link device request mouse = (outcome.mapError .failed, next)) :
    (mouse.Clear 1 ∧ (∃ region, outcome = .ok region) ∧ After mouse 1 next) ∨
      ¬ mouse.Clear 1 ∧ ∃ error, outcome = .error error := by
  obtain ⟨registers, flash, frame⟩ := answering_frame mouse request
  rw [execute_mouse device fits empty] at executed
  rw [clear_one_iff]
  cases written : mouse.failWrites.lookup mouse.writes with
  | some cause =>
    rw [written, Prod.mk.injEq] at executed
    refine .inr ⟨by simp, ?_⟩
    cases outcome with
    | error error => exact ⟨error, rfl⟩
    | ok region => cases executed.1
  | none =>
    cases answered : mouse.failReads.lookup mouse.reads with
    | some cause =>
      rw [written, answered, Prod.mk.injEq] at executed
      refine .inr ⟨by simp, ?_⟩
      cases outcome with
      | error error => exact ⟨error, rfl⟩
      | ok region => cases executed.1
    | none =>
      rw [written, answered, Prod.mk.injEq] at executed
      obtain ⟨brought, rfl⟩ := executed
      refine .inl ⟨⟨rfl, rfl⟩, ?_, ?_⟩
      · cases outcome with
        | error error => cases brought
        | ok region => exact ⟨region, rfl⟩
      · rw [frame]
        exact ⟨⟨empty, rfl, rfl⟩, rfl, rfl, rfl, rfl⟩

theorem exchangeAll_clear {requests : List Request} {result : Except Halt Unit}
    (fits : ∀ request ∈ requests, request.Fits) (empty : mouse.queue = [])
    (ran : exchangeAll Mouse.link device requests mouse = (result, left)) :
    (result = .ok () ∧ mouse.Clear requests.length ∧ After mouse requests.length left) ∨
      result ≠ .ok () ∧ ¬ mouse.Clear requests.length := by
  induction requests generalizing mouse with
  | nil =>
    cases ran
    exact .inl ⟨rfl, by simp [Clear], .refl empty⟩
  | cons request rest ih =>
    obtain ⟨outcome, next, executed⟩ := execute_outcome Mouse.link device request mouse
    rw [List.length_cons, Nat.add_comm]
    rcases execute_clear (fits request (by simp)) empty executed with
      ⟨here, ⟨region, rfl⟩, after⟩ | ⟨failing, error, rfl⟩
    · rw [exchangeAll, Session.bind_ok executed] at ran
      rw [after.clear_add]
      rcases ih (fun other member => fits other (by simp [member])) after.queue ran with
        ⟨ok, clear, later⟩ | ⟨failed, failing⟩
      · exact .inl ⟨ok, ⟨here, clear⟩, after.trans later⟩
      · exact .inr ⟨failed, fun both => failing both.2⟩
    · rw [exchangeAll, Session.bind_error executed, Prod.mk.injEq] at ran
      refine .inr ⟨?_, fun clear => failing (clear.mono (by omega))⟩
      rw [← ran.1]
      exact fun ok => by cases ok

theorem exchanges_clear {requests : List Request} {outcomes : List Outcome}
    (fits : ∀ request ∈ requests, request.Fits) (empty : mouse.queue = [])
    (run : Exchanges Mouse.link device mouse requests outcomes left) :
    (AllOk outcomes ∧ mouse.Clear outcomes.length ∧ After mouse outcomes.length left) ∨
      ¬ AllOk outcomes ∧ ¬ mouse.Clear outcomes.length := by
  induction run with
  | nil state => exact .inl ⟨allOk_nil, by simp [Clear], .refl empty⟩
  | @cons request requests outcome outcomes state next left executed rest ih =>
    rw [List.length_cons, Nat.add_comm]
    rcases execute_clear (fits request (by simp)) empty executed with
      ⟨here, ⟨region, rfl⟩, after⟩ | ⟨failing, error, rfl⟩
    · rw [after.clear_add, allOk_cons]
      rcases ih (fun other member => fits other (by simp [member])) after.queue with
        ⟨all, clear, later⟩ | ⟨unread, failing⟩
      · exact .inl ⟨all, ⟨here, clear⟩, after.trans later⟩
      · exact .inr ⟨unread, fun both => failing both.2⟩
    · refine .inr ⟨fun good => ?_, fun clear => failing (clear.mono (by omega))⟩
      exact good.getElem?_ne 0 error rfl

end MouseControl.Mouse
