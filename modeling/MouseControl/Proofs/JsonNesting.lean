import MouseControl.Proofs.JsonGrammar

/-! Passing over JSON values of any depth. A round of the scanner takes it from one stage to the
next, and a text of each form of the grammar takes it through all the rounds between: the stack of
open frames is the same before a value and behind it, and the bound on the rounds never binds. -/
namespace MouseControl.Json

structure Stage where
  due : Due
  frames : List Frame
  text : List Char

namespace Stage

def skip (stage : Stage) (bound : Nat) : Option (List Char) :=
  skipFrames bound stage.due stage.frames stage.text

/-- The scanner comes from one stage to another, each with rounds to spare. -/
def Reaches (start finish : Stage) : Prop :=
  ∀ bound, start.text.length < bound →
    ∃ left, finish.text.length < left ∧ start.skip bound = finish.skip left

private theorem Reaches.trans {start middle finish : Stage} (first : start.Reaches middle)
    (second : middle.Reaches finish) : start.Reaches finish := by
  intro bound enough
  obtain ⟨left, spare, same⟩ := first bound enough
  obtain ⟨left', spare', same'⟩ := second left spare
  exact ⟨left', spare', same.trans same'⟩

private theorem Reaches.round {start finish : Stage}
    (step : ∀ bound, start.skip (bound + 1) = finish.skip bound)
    (shorter : finish.text.length < start.text.length) : start.Reaches finish := by
  intro bound enough
  obtain ⟨left, rfl⟩ : ∃ left, bound = left + 1 := ⟨bound - 1, by omega⟩
  exact ⟨left, by omega, step left⟩

private theorem Reaches.same {start finish : Stage} (step : ∀ bound, start.skip bound = finish.skip bound)
    (shorter : finish.text.length ≤ start.text.length) : start.Reaches finish :=
  fun bound enough => ⟨bound, by omega, step bound⟩

end Stage

open Stage

section Rounds

variable {frame : Frame} {frames : List Frame} {blanks text next rest : List Char} {bound : Nat}

private theorem skipFrames_skipBlanks :
    skipFrames bound .value frames (skipBlanks text) = skipFrames bound .value frames text := by
  cases bound with
  | zero => rfl
  | succ bound => simp only [skipFrames, skipBlanks_skipBlanks]

private theorem skipKey_skipBlanks : skipKey (skipBlanks text) = skipKey text := by
  simp only [skipKey, skipBlanks_skipBlanks]

private theorem reaches_blanks (blank : Blank blanks) :
    Reaches ⟨.value, frames, blanks ++ text⟩ ⟨.value, frames, text⟩ := by
  apply Reaches.same
  · intro bound
    change skipFrames bound .value frames (blanks ++ text) = skipFrames bound .value frames text
    rw [← skipFrames_skipBlanks, skipBlanks_append blank, skipFrames_skipBlanks]
  · simp

private theorem reaches_closing_blanks (blank : Blank blanks) :
    Reaches ⟨.separator, frame :: frames, blanks ++ text⟩ ⟨.separator, frame :: frames, text⟩ := by
  apply Reaches.same
  · intro bound
    cases bound with
    | zero => rfl
    | succ bound => cases frame <;> simp only [skip, skipFrames, skipBlanks_append blank]
  · simp

private theorem reaches_scalar (scalar : ScalarText text) (follows : Follows rest) :
    Reaches ⟨.value, frames, text ++ rest⟩ ⟨.separator, frames, rest⟩ := by
  have passed := skipScalar_scalar scalar follows
  obtain ⟨c, tail, rfl, solid, other⟩ := scalar.head
  simp only [List.mem_cons, List.not_mem_nil, or_false, not_or] at other
  apply Reaches.round
  · intro bound
    simp only [skip, skipFrames, List.cons_append, skipBlanks_cons c solid]
    split
    · next same => exact absurd (List.cons.inj same).1 other.1
    · next same => exact absurd (List.cons.inj same).1 other.2.2.1
    · rw [← List.cons_append, passed]
  · simp only [List.length_append, List.length_cons]
    omega

private theorem reaches_emptyArray (blank : Blank blanks) :
    Reaches ⟨.value, frames, '[' :: (blanks ++ ']' :: rest)⟩ ⟨.separator, frames, rest⟩ := by
  apply Reaches.round
  · intro bound
    simp [skip, skipFrames, skipBlanks_cons '[' rfl, skipBlanks_mark ']' rfl blank]
  · simp only [List.length_append, List.length_cons]
    omega

private theorem reaches_array (opens : (skipBlanks text).head? ≠ some ']') :
    Reaches ⟨.value, frames, '[' :: text⟩ ⟨.value, .array :: frames, text⟩ := by
  apply Reaches.round
  · intro bound
    change _ = skipFrames bound .value (.array :: frames) text
    rw [← skipFrames_skipBlanks]
    simp only [skip, skipFrames, skipBlanks_cons '[' rfl]
    split
    · next same => exact absurd (by rw [same]; rfl) opens
    · rfl
  · simp

private theorem reaches_emptyObject (blank : Blank blanks) :
    Reaches ⟨.value, frames, '\x7b' :: (blanks ++ '\x7d' :: rest)⟩ ⟨.separator, frames, rest⟩ := by
  apply Reaches.round
  · intro bound
    simp [skip, skipFrames, skipBlanks_cons '\x7b' rfl, skipBlanks_mark '\x7d' rfl blank]
  · simp only [List.length_append, List.length_cons]
    omega

private theorem reaches_object (key : skipKey text = some next) (shorter : next.length ≤ text.length) :
    Reaches ⟨.value, frames, '\x7b' :: text⟩ ⟨.value, .object :: frames, next⟩ := by
  apply Reaches.round
  · intro bound
    simp only [skip, skipFrames, skipBlanks_cons '\x7b' rfl]
    split
    · next same => simp [skipKey, same] at key
    · rw [skipKey_skipBlanks, key]
  · simp only [List.length_cons]
    omega

private theorem reaches_next_element :
    Reaches ⟨.separator, .array :: frames, ',' :: text⟩ ⟨.value, .array :: frames, text⟩ := by
  apply Reaches.round
  · exact fun bound => rfl
  · simp

private theorem reaches_array_end :
    Reaches ⟨.separator, .array :: frames, ']' :: text⟩ ⟨.separator, frames, text⟩ := by
  apply Reaches.round
  · exact fun bound => rfl
  · simp

private theorem reaches_next_member (key : skipKey text = some next)
    (shorter : next.length ≤ text.length) :
    Reaches ⟨.separator, .object :: frames, ',' :: text⟩ ⟨.value, .object :: frames, next⟩ := by
  apply Reaches.round
  · intro bound
    simp [skip, skipFrames, skipBlanks_cons ',' rfl, key]
  · simp only [List.length_cons]
    omega

private theorem reaches_object_end :
    Reaches ⟨.separator, .object :: frames, '\x7d' :: text⟩ ⟨.separator, frames, text⟩ := by
  apply Reaches.round
  · exact fun bound => rfl
  · simp

end Rounds

private theorem Derives.opens {form : Form} {text : List Char} (derives : Derives form text) :
    ∃ blanks c tail, text = blanks ++ c :: tail ∧ Blank blanks ∧ isBlank c = false ∧ c ≠ ']' := by
  induction derives with
  | scalar scalar =>
    obtain ⟨c, tail, rfl, solid, other⟩ := scalar.head
    simp only [List.mem_cons, List.not_mem_nil, or_false, not_or] at other
    exact ⟨[], c, tail, rfl, blank_nil, solid, other.2.1⟩
  | emptyArray | array | emptyObject | object => exact ⟨[], _, _, rfl, blank_nil, rfl, by decide⟩
  | @element before text behind blank _ _ ih =>
    obtain ⟨blanks, c, tail, rfl, blank', solid, other⟩ := ih
    refine ⟨before ++ blanks, c, tail ++ behind, by simp, ?_, solid, other⟩
    intro d inside
    exact (List.mem_append.mp inside).elim (blank d) (blank' d)
  | lastElement _ ih | lastMember _ ih => exact ih
  | @elements text rest _ _ ih | @members text rest _ _ ih =>
    obtain ⟨blanks, c, tail, rfl, blank, solid, other⟩ := ih
    exact ⟨blanks, c, tail ++ ',' :: rest, by simp, blank, solid, other⟩
  | member blank => exact ⟨_, _, _, rfl, blank, rfl, by decide⟩

/-- What passing over a text of each form means: a value leaves the frames as they were, the
elements or members of a list or an object close their frame. A member is passed over from behind
its key and colon, since the key is read in the round before its value. -/
def Passes : Form → List Char → Prop
  | .value, text => ∀ frames rest, Follows rest →
      Reaches ⟨.value, frames, text ++ rest⟩ ⟨.separator, frames, rest⟩
  | .element, text => ∀ frame frames mark rest, Closes mark →
      Reaches ⟨.value, frame :: frames, text ++ mark :: rest⟩
        ⟨.separator, frame :: frames, mark :: rest⟩
  | .elements, text => ∀ frames rest,
      Reaches ⟨.value, .array :: frames, text ++ ']' :: rest⟩ ⟨.separator, frames, rest⟩
  | .member, text => ∃ element, element.length ≤ text.length ∧
      (∀ rest, skipKey (text ++ rest) = some (element ++ rest)) ∧
      ∀ frames mark rest, Closes mark →
        Reaches ⟨.value, .object :: frames, element ++ mark :: rest⟩
          ⟨.separator, .object :: frames, mark :: rest⟩
  | .members, text => ∃ tail, tail.length ≤ text.length ∧
      (∀ rest, skipKey (text ++ rest) = some (tail ++ rest)) ∧
      ∀ frames rest,
        Reaches ⟨.value, .object :: frames, tail ++ '\x7d' :: rest⟩ ⟨.separator, frames, rest⟩

private theorem skipKey_key {before key behind text : List Char} {pieces : List Piece}
    (blank : Blank before) (inside : Pieces pieces key) (blank' : Blank behind) :
    skipKey (before ++ '"' :: (key ++ '"' :: (behind ++ ':' :: text))) = some text := by
  simp only [skipKey, skipBlanks_mark '"' rfl blank, readPieces_pieces inside]
  exact after_mark ':' rfl blank'

private theorem Derives.passes {form : Form} {text : List Char} (derives : Derives form text) :
    Passes form text := by
  induction derives with
  | scalar scalar => exact fun frames rest follows => reaches_scalar scalar follows
  | emptyArray blank =>
    intro frames rest _
    simpa using reaches_emptyArray blank
  | @array text elements ih =>
    intro frames rest _
    -- The scanner looks for a closing bracket first, and the first element does not start with one.
    have opens : (skipBlanks (text ++ ']' :: rest)).head? ≠ some ']' := by
      obtain ⟨blanks, c, tail, rfl, blank, solid, other⟩ := elements.opens
      simpa [skipBlanks_mark c solid blank] using other
    simpa using (reaches_array opens).trans (ih frames rest)
  | emptyObject blank =>
    intro frames rest _
    simpa using reaches_emptyObject blank
  | @object text _ ih =>
    intro frames rest _
    obtain ⟨tail, shorter, key, passed⟩ := ih
    have inside := passed frames rest
    simpa using (reaches_object (key ('\x7d' :: rest)) (by simpa using shorter)).trans inside
  | @element before text behind blank _ blank' ih =>
    intro frame frames mark rest closing
    have passed := ih (frame :: frames) (behind ++ mark :: rest) (follows_mark blank' closing)
    simpa using (reaches_blanks blank).trans (passed.trans (reaches_closing_blanks blank'))
  | lastElement _ ih =>
    intro frames rest
    exact (ih .array frames ']' rest .bracket).trans reaches_array_end
  | @elements text tail _ _ first others =>
    intro frames rest
    have element := first .array frames ',' (tail ++ ']' :: rest) .comma
    simpa using element.trans (reaches_next_element.trans (others frames rest))
  | @member before key behind text _ blank inside blank' _ ih =>
    refine ⟨text, by simp; omega, ?_, ih .object⟩
    intro rest
    have read : skipKey _ = some (text ++ rest) := skipKey_key blank inside blank'
    simpa using read
  | lastMember _ ih =>
    obtain ⟨element, shorter, key, passed⟩ := ih
    refine ⟨element, shorter, key, ?_⟩
    intro frames rest
    exact (passed frames '\x7d' rest .brace).trans reaches_object_end
  | @members text rest _ _ first others =>
    obtain ⟨element, shorter, key, passed⟩ := first
    obtain ⟨tail, shorter', key', passed'⟩ := others
    refine ⟨element ++ ',' :: rest, by simpa using shorter, ?_, ?_⟩
    · intro behind
      simpa using key (',' :: (rest ++ behind))
    · intro frames behind
      have one := passed frames ',' (rest ++ '\x7d' :: behind) .comma
      have others := (reaches_next_member (key' ('\x7d' :: behind)) (by simpa using shorter')).trans
        (passed' frames behind)
      simpa using one.trans others

theorem skipValue_value {blanks text rest : List Char} (blank : Blank blanks)
    (value : Derives .value text) (follows : Follows rest) :
    skipValue (blanks ++ (text ++ rest)) = some rest := by
  have passed := (reaches_blanks blank).trans (value.passes [] rest follows)
  -- With no frame open a separator ends the run, for which one round has to be left.
  obtain ⟨left, spare, same⟩ := passed _ (Nat.lt_succ_self _)
  obtain ⟨left, rfl⟩ : ∃ before, left = before + 1 := ⟨left - 1, by omega⟩
  exact same

end MouseControl.Json
