import MouseControl.Profile.Text
import MouseControl.Proofs.JsonNesting

/-! Profiles from JSON text. Whatever the order of its members, the spelling of its keys, the blanks
between its tokens and the values it carries besides, the text of an object gives the one outcome
that its members settle: the first field that stands twice, else the first that is missing, else the
profile. A list of three numbers gives their profile, and a profile is read back from its own text. -/
namespace MouseControl.Profile
open Json

inductive Member where
  | known (field : ProfileField) (value : UInt32)
  | other (key : List Char)

def Member.field? : Member → Option ProfileField
  | known field _ => some field
  | other _ => none

def fields (members : List Member) : List ProfileField :=
  members.filterMap Member.field?

inductive MemberText : Member → List Char → Prop
  | known {field : ProfileField} {value : UInt32} {before key behind text : List Char}
      (blank : Blank before) (spells : Spells key field.name.toList) (blank' : Blank behind)
      (count : CountText value text) :
      MemberText (.known field value) (before ++ '"' :: (key ++ '"' :: (behind ++ ':' :: text)))
  | other {name before key behind text : List Char} (blank : Blank before)
      (foreign : ∀ field : ProfileField, field.name.toList ≠ name) (spells : Spells key name)
      (blank' : Blank behind) (element : Derives .element text) :
      MemberText (.other name) (before ++ '"' :: (key ++ '"' :: (behind ++ ':' :: text)))

inductive MembersText : List Member → List Char → Prop
  | last {member : Member} {text : List Char} (first : MemberText member text) :
      MembersText [member] text
  | more {member : Member} {members : List Member} {text rest : List Char}
      (first : MemberText member text) (others : MembersText members rest) :
      MembersText (member :: members) (text ++ ',' :: rest)

inductive ObjectText : List Member → List Char → Prop
  | empty {before inside behind : List Char} (blank : Blank before) (blank' : Blank inside)
      (blank'' : Blank behind) : ObjectText [] (before ++ '\x7b' :: (inside ++ '\x7d' :: behind))
  | members {members : List Member} {before text behind : List Char} (blank : Blank before)
      (written : MembersText members text) (blank' : Blank behind) :
      ObjectText members (before ++ '\x7b' :: (text ++ '\x7d' :: behind))

inductive ListText (profile : Profile) : List Char → Prop
  | mk {before first second third behind : List Char} (blank : Blank before)
      (dpi : CountText profile.dpi first) (pollingRate : CountText profile.pollingRate second)
      (liftOff : CountText profile.liftOff third) (blank' : Blank behind) :
      ListText profile (before ++ '[' :: (first ++ ',' :: (second ++ ',' :: (third ++ ']' :: behind))))

inductive Resolves (members : List Member) : Except ProfileFault Profile → Prop
  | duplicate {before behind : List ProfileField} {field : ProfileField}
      (found : fields members = before ++ field :: behind) (distinct : before.Nodup)
      (again : field ∈ before) : Resolves members (.error (.duplicate field))
  | missing {field : ProfileField} (distinct : (fields members).Nodup)
      (first : [ProfileField.dpi, .pollingRate, .liftOff].find? (· ∉ fields members) = some field) :
      Resolves members (.error (.missing field))
  | profile {profile : Profile} (distinct : (fields members).Nodup)
      (dpi : .known .dpi profile.dpi ∈ members)
      (pollingRate : .known .pollingRate profile.pollingRate ∈ members)
      (liftOff : .known .liftOff profile.liftOff ∈ members) : Resolves members (.ok profile)

section Reading

variable {member : Member} {members : List Member} {text : List Char}

def Members.add (sofar : Members) : Member → Except ProfileFault Members
  | .known field value =>
    if (sofar.get? field).isSome then .error (.duplicate field) else .ok (sofar.set value field)
  | .other _ => .ok sofar

private theorem field?_name (field : ProfileField) : field? field.name.toList = some field := by
  cases field <;> decide

private theorem field?_foreign {name : List Char}
    (foreign : ∀ field : ProfileField, field.name.toList ≠ name) : field? name = none := by
  simp [field?, foreign]

private theorem skipValue_element {mark : Char} (element : Derives .element text) (closing : Closes mark)
    (rest : List Char) :
    ∃ left, skipValue (text ++ mark :: rest) = some left ∧ skipBlanks left = mark :: rest := by
  cases element with
  | @element before value behind blank derives blank' =>
    refine ⟨behind ++ mark :: rest, ?_, skipBlanks_mark mark closing.solid blank'⟩
    simpa using skipValue_value blank derives (follows_mark blank' closing)

private theorem MemberText.read (written : MemberText member text) :
    ∃ before tail, text = before ++ '"' :: tail ∧ Blank before ∧
      ∀ sofar mark rest, Closes mark → ∃ name next left,
        readString (tail ++ mark :: rest) = some (name, next) ∧
        readMember sofar name next = (Members.add sofar member).map (·, left) ∧
        skipBlanks left = mark :: rest := by
  cases written with
  | @known field value before key behind text blank spells blank' count =>
    refine ⟨before, key ++ '"' :: (behind ++ ':' :: text), rfl, blank, ?_⟩
    intro sofar mark rest closing
    obtain ⟨left, read, reached⟩ := readCount_count count closing rest
    refine ⟨field.name.toList, behind ++ ':' :: (text ++ mark :: rest), left, ?_, ?_, reached⟩
    · simpa using readString_spells spells
    · simp only [readMember, field?_name, after_mark ':' rfl blank', Option.bind_some, read,
        Members.add]
      split <;> rfl
  | @other name before key behind text blank foreign spells blank' element =>
    refine ⟨before, key ++ '"' :: (behind ++ ':' :: text), rfl, blank, ?_⟩
    intro sofar mark rest closing
    obtain ⟨left, passed, reached⟩ := skipValue_element element closing rest
    refine ⟨name, behind ++ ':' :: (text ++ mark :: rest), left, ?_, ?_, reached⟩
    · simpa using readString_spells spells
    · simp only [readMember, field?_foreign foreign, after_mark ':' rfl blank', Option.bind_some,
        passed]
      rfl

private theorem MembersText.read (written : MembersText members text) :
    ∃ before tail, text = before ++ '"' :: tail ∧ Blank before ∧
      ∀ bound sofar rest, (tail ++ '\x7d' :: rest).length < bound →
        readMembers bound sofar (tail ++ '\x7d' :: rest) =
          (members.foldlM Members.add sofar).map (·, rest) := by
  induction written with
  | @last member text first =>
    obtain ⟨before, tail, rfl, blank, read⟩ := first.read
    refine ⟨before, tail, rfl, blank, ?_⟩
    intro bound sofar rest enough
    obtain ⟨bound, rfl⟩ : ∃ rounds, bound = rounds + 1 := ⟨bound - 1, by omega⟩
    obtain ⟨name, next, left, key, value, reached⟩ := read sofar '\x7d' rest .brace
    simp only [readMembers, key, value]
    cases added : sofar.add member with
    | error fault => simp [added, Except.map]
    | ok sum => simp [added, Except.map, reached]
  | @more member members text others first _ ih =>
    obtain ⟨before, tail, rfl, blank, read⟩ := first.read
    obtain ⟨before', tail', rfl, blank', rounds⟩ := ih
    refine ⟨before, tail ++ ',' :: (before' ++ '"' :: tail'), by simp, blank, ?_⟩
    intro bound sofar rest enough
    obtain ⟨bound, rfl⟩ : ∃ rounds, bound = rounds + 1 := ⟨bound - 1, by omega⟩
    -- The round takes at least the comma and a quote, so that the bound stays enough for the rest.
    have spare : (tail' ++ '\x7d' :: rest).length < bound := by
      simp only [List.length_append, List.length_cons] at enough ⊢
      omega
    obtain ⟨name, next, left, key, value, reached⟩ :=
      read sofar ',' (before' ++ '"' :: (tail' ++ '\x7d' :: rest)) .comma
    simp only [List.append_assoc, List.cons_append, readMembers, key, value, List.foldlM_cons]
    cases added : sofar.add member with
    | error fault => rfl
    | ok sum =>
      simp only [Except.map, reached, skipBlanks_mark '"' rfl blank']
      exact rounds bound sum rest spare

end Reading

section Outcome

variable {member : Member} {members seen : List Member} {sofar sum : Members}
  {field : ProfileField} {value : UInt32}

private theorem mem_fields : field ∈ fields members ↔ ∃ value, .known field value ∈ members := by
  simp only [fields, List.mem_filterMap]
  constructor
  · rintro ⟨_ | _, inside, found⟩
    · cases found
      exact ⟨_, inside⟩
    · cases found
  · rintro ⟨value, inside⟩
    exact ⟨_, inside, rfl⟩

private theorem fields_append {rest : List Member} : fields (seen ++ rest) = fields seen ++ fields rest :=
  List.filterMap_append

/-- What was read so far is what the members before hold. -/
structure Agrees (seen : List Member) (sofar : Members) : Prop where
  sound : ∀ field value, sofar.get? field = some value → .known field value ∈ seen
  complete : ∀ field, field ∈ fields seen → (sofar.get? field).isSome = true

private theorem agrees_none : Agrees [] Members.none := by
  constructor
  · intro field value held
    cases field <;> cases held
  · intro field inside
    cases inside

private theorem Agrees.isSome_iff (agrees : Agrees seen sofar) :
    (sofar.get? field).isSome = true ↔ field ∈ fields seen := by
  refine ⟨?_, agrees.complete field⟩
  intro held
  obtain ⟨value, held⟩ := Option.isSome_iff_exists.mp held
  exact mem_fields.mpr ⟨value, agrees.sound field value held⟩

private theorem Members.get?_set (sofar : Members) (other : ProfileField) :
    (sofar.set value field).get? other = if other = field then some value else sofar.get? other := by
  cases field <;> cases other <;> rfl

private theorem Agrees.add (agrees : Agrees seen sofar) (distinct : (fields seen).Nodup)
    (added : sofar.add member = .ok sum) :
    Agrees (seen ++ [member]) sum ∧ (fields (seen ++ [member])).Nodup := by
  cases member with
  | other key =>
    cases added
    have same : fields (seen ++ [.other key]) = fields seen := by
      rw [fields_append]
      exact List.append_nil _
    rw [same]
    refine ⟨⟨?_, ?_⟩, distinct⟩
    · intro field value held
      exact List.mem_append_left _ (agrees.sound field value held)
    · rw [same]
      exact agrees.complete
  | known field value =>
    simp only [Members.add] at added
    split at added
    · cases added
    next new =>
      cases added
      have fresh : field ∉ fields seen := fun inside => new (agrees.complete field inside)
      refine ⟨⟨?_, ?_⟩, ?_⟩
      · intro other held found
        rw [Members.get?_set] at found
        split at found
        · next same =>
          cases found
          exact List.mem_append_right _ (by rw [same]; exact List.mem_singleton_self _)
        · exact List.mem_append_left _ (agrees.sound other held found)
      · intro other inside
        rw [Members.get?_set]
        split
        · rfl
        · next different =>
          rw [fields_append] at inside
          rcases List.mem_append.mp inside with before | last
          · exact agrees.complete other before
          · exact absurd (List.mem_singleton.mp last) different
      · rw [fields_append, List.nodup_append]
        refine ⟨distinct, List.pairwise_singleton .., ?_⟩
        rintro other before _ last rfl
        exact fresh (List.mem_singleton.mp last ▸ before)

private theorem Agrees.refused (agrees : Agrees seen sofar) {fault : ProfileFault}
    (refused : sofar.add member = .error fault) :
    ∃ field value, member = .known field value ∧ field ∈ fields seen ∧ fault = .duplicate field := by
  cases member with
  | other => cases refused
  | known field value =>
    simp only [Members.add] at refused
    split at refused
    · next held =>
      cases refused
      exact ⟨field, value, rfl, agrees.isSome_iff.mp held, rfl⟩
    · cases refused

/-- Members one after another: the first repeated field ends the run, and without one all of them
are held. -/
private theorem Agrees.run (agrees : Agrees seen sofar) (distinct : (fields seen).Nodup)
    (rest : List Member) :
    (∃ sum, rest.foldlM Members.add sofar = .ok sum ∧ Agrees (seen ++ rest) sum ∧
      (fields (seen ++ rest)).Nodup) ∨
    ∃ fault, rest.foldlM Members.add sofar = .error fault ∧
      Resolves (seen ++ rest) (.error fault) := by
  induction rest generalizing seen sofar with
  | nil => exact .inl ⟨sofar, rfl, by simpa using agrees, by simpa using distinct⟩
  | cons member rest ih =>
    rw [List.foldlM_cons]
    cases added : sofar.add member with
    | ok sum =>
      obtain ⟨agrees', distinct'⟩ := agrees.add distinct added
      rw [List.append_cons]
      exact ih agrees' distinct'
    | error fault =>
      obtain ⟨field, value, rfl, again, rfl⟩ := agrees.refused added
      -- The fields up to here are distinct, so that this is the first that stands twice.
      exact .inr ⟨_, rfl, .duplicate fields_append distinct again⟩

private theorem Agrees.profile (agrees : Agrees members sum) (distinct : (fields members).Nodup) :
    Resolves members sum.profile := by
  have present : ∀ field, field ∈ fields members ↔ (sum.get? field).isSome = true :=
    fun _ => agrees.isSome_iff.symm
  have held := agrees.sound
  obtain ⟨dpi, pollingRate, liftOff⟩ := sum
  cases dpi with
  | none => exact .missing distinct (by simp [present, Members.get?])
  | some dpi =>
    cases pollingRate with
    | none => exact .missing distinct (by simp [present, Members.get?])
    | some pollingRate =>
      cases liftOff with
      | none => exact .missing distinct (by simp [present, Members.get?])
      | some liftOff =>
        exact .profile distinct (held .dpi dpi rfl) (held .pollingRate pollingRate rfl)
          (held .liftOff liftOff rfl)

private theorem value_unique {value' : UInt32} (distinct : (fields members).Nodup)
    (first : .known field value ∈ members) (second : .known field value' ∈ members) :
    value = value' := by
  induction members with
  | nil => cases first
  | cons member members ih =>
    have later : (fields members).Nodup := (List.nodup_append.mp (fields_append ▸ distinct :
      (fields [member] ++ fields members).Nodup)).2.1
    have once : ∀ value, member = .known field value → field ∉ fields members := by
      rintro value rfl
      exact (List.nodup_cons.mp distinct).1
    rcases List.mem_cons.mp first with here | first <;>
      rcases List.mem_cons.mp second with here' | second
    · cases here.trans here'.symm
      rfl
    · exact absurd (mem_fields.mpr ⟨_, second⟩) (once _ here.symm)
    · exact absurd (mem_fields.mpr ⟨_, first⟩) (once _ here'.symm)
    · exact ih later first second

private theorem not_nodup_again {before behind : List ProfileField} (again : field ∈ before) :
    ¬ (before ++ field :: behind).Nodup :=
  fun distinct => (List.nodup_append.mp distinct).2.2 field again field (List.mem_cons_self ..) rfl

private theorem repeated_unique {before behind before' behind' : List ProfileField}
    {field' : ProfileField}
    (same : before ++ field :: behind = before' ++ field' :: behind') (distinct : before.Nodup)
    (again : field ∈ before) (distinct' : before'.Nodup) (again' : field' ∈ before') :
    field = field' := by
  rcases List.append_eq_append_iff.mp same with ⟨between, rfl, tail⟩ | ⟨between, rfl, tail⟩
  · cases between with
    | nil => exact (List.cons.inj tail).1
    | cons _ _ =>
      cases tail
      exact absurd distinct' (not_nodup_again again)
  · cases between with
    | nil => exact (List.cons.inj tail).1.symm
    | cons _ _ =>
      cases tail
      exact absurd distinct (not_nodup_again again')

private theorem find?_present {profile : Profile} (dpi : .known .dpi profile.dpi ∈ members)
    (pollingRate : .known .pollingRate profile.pollingRate ∈ members)
    (liftOff : .known .liftOff profile.liftOff ∈ members) :
    [ProfileField.dpi, .pollingRate, .liftOff].find? (· ∉ fields members) = none := by
  simp [mem_fields.mpr ⟨_, dpi⟩, mem_fields.mpr ⟨_, pollingRate⟩, mem_fields.mpr ⟨_, liftOff⟩]

private theorem Resolves.unique {one other : Except ProfileFault Profile} (first : Resolves members one)
    (second : Resolves members other) : one = other := by
  cases first with
  | duplicate found distinct again =>
    cases second with
    | duplicate found' distinct' again' =>
      rw [repeated_unique (found.symm.trans found') distinct again distinct' again']
    | missing distinct' | profile distinct' =>
      exact absurd (found ▸ distinct') (not_nodup_again again)
  | missing distinct first =>
    cases second with
    | duplicate found' _ again' => exact absurd (found' ▸ distinct) (not_nodup_again again')
    | missing _ first' => rw [Option.some.inj (first.symm.trans first')]
    | profile _ dpi pollingRate liftOff => cases first.symm.trans (find?_present dpi pollingRate liftOff)
  | @profile profile distinct dpi pollingRate liftOff =>
    cases second with
    | duplicate found' _ again' => exact absurd (found' ▸ distinct) (not_nodup_again again')
    | missing _ first' => cases first'.symm.trans (find?_present dpi pollingRate liftOff)
    | @profile profile' _ dpi' pollingRate' liftOff' =>
      obtain ⟨_, _, _⟩ := profile
      obtain ⟨_, _, _⟩ := profile'
      cases value_unique distinct dpi dpi'
      cases value_unique distinct pollingRate pollingRate'
      cases value_unique distinct liftOff liftOff'
      rfl

end Outcome

private theorem ended_blank {profile : Profile} {rest : List Char} (blank : Blank rest) :
    ended profile rest = .ok profile := by
  rw [ended, if_pos (skipBlanks_blank blank)]

private theorem ObjectText.read {members : List Member} {text : List Char}
    (written : ObjectText members text) :
    ∃ before body behind, text = before ++ '\x7b' :: body ∧ Blank before ∧ Blank behind ∧
      readObject body = (members.foldlM Members.add Members.none).map (·, behind) := by
  cases written with
  | @empty before inside behind blank blank' blank'' =>
    refine ⟨before, inside ++ '\x7d' :: behind, behind, rfl, blank, blank'', ?_⟩
    simp only [readObject, skipBlanks_mark '\x7d' rfl blank']
    rfl
  | @members _ before text behind blank written blank' =>
    obtain ⟨inside, tail, rfl, blank'', read⟩ := written.read
    refine ⟨before, _, behind, rfl, blank, blank', ?_⟩
    simp only [readObject, List.append_assoc, List.cons_append, skipBlanks_mark '"' rfl blank'']
    exact read _ _ _ (Nat.lt_succ_self _)

private theorem ofText_object {members : List Member} {text : String}
    (written : ObjectText members text.toList) : Resolves members (ofText text) := by
  obtain ⟨before, body, behind, object, blank, blank', read⟩ := written.read
  simp only [ofText, object, skipBlanks_mark '\x7b' rfl blank, read]
  rcases agrees_none.run List.nodup_nil members with
    ⟨sum, run, agrees, distinct⟩ | ⟨fault, run, settled⟩
  · have settled := agrees.profile distinct
    rw [run]
    cases outcome : sum.profile with
    | ok profile =>
      rw [outcome] at settled
      have final : ended profile behind = .ok profile := ended_blank blank'
      simpa [Except.map, bind, Except.bind, outcome, final] using settled
    | error fault =>
      rw [outcome] at settled
      simpa [Except.map, bind, Except.bind, outcome] using settled
  · rw [run]
    exact settled

private theorem ofText_list {profile : Profile} {text : String} (written : ListText profile text.toList) :
    ofText text = .ok profile := by
  unfold ofText
  generalize text.toList = chars at written
  obtain @⟨before, first, second, third, behind, blank, dpi, pollingRate, liftOff, blank'⟩ := written
  obtain ⟨left, read, reached⟩ :=
    readCount_count dpi .comma (second ++ ',' :: (third ++ ']' :: behind))
  obtain ⟨left', read', reached'⟩ := readCount_count pollingRate .comma (third ++ ']' :: behind)
  obtain ⟨left'', read'', reached''⟩ := readCount_count liftOff .bracket behind
  simp [skipBlanks_mark '[' rfl blank, readList, after, read, reached, read', reached', read'',
    reached'', ended_blank blank']

private theorem spells_plain {text : List Char}
    (plain : (text.all fun c => 0x20 ≤ c.toNat ∧ c ≠ '"' ∧ c ≠ '\\') = true) : Spells text text := by
  induction text with
  | nil => exact ⟨[], .nil, .nil⟩
  | cons c text ih =>
    simp only [List.all_cons, Bool.and_eq_true, decide_eq_true_eq] at plain
    obtain ⟨⟨visible, unquoted⟩, later⟩ := plain
    obtain ⟨pieces, inside, stands⟩ := ih later
    exact ⟨_, .plain visible unquoted inside, .char stands⟩

def memberText (field : ProfileField) (value : UInt32) : List Char :=
  '"' :: (field.name.toList ++ '"' :: ':' :: Nat.toDigits 10 value.toNat)

private theorem quoted_name (field : ProfileField) :
    (quoted field.name).toList = '"' :: (field.name.toList ++ ['"']) := by
  cases field <;> decide

private theorem json_toList (profile : Profile) :
    profile.json.toList = '\x7b' :: (memberText .dpi profile.dpi ++
      ',' :: (memberText .pollingRate profile.pollingRate ++
        ',' :: (memberText .liftOff profile.liftOff ++ ['\x7d']))) := by
  have dpi : (quoted "dpi").toList = _ := quoted_name .dpi
  have pollingRate : (quoted "polling_rate_hz").toList = _ := quoted_name .pollingRate
  have liftOff : (quoted "lift_off_distance").toList = _ := quoted_name .liftOff
  simp [json, compact, Scalar.render, Text.decimal, String.intercalate_cons_cons, memberText, dpi,
    pollingRate, liftOff]

private theorem written_memberText (field : ProfileField) (value : UInt32) :
    MemberText (.known field value) (memberText field value) := by
  have spelled : Spells field.name.toList field.name.toList :=
    spells_plain (by cases field <;> decide)
  have count : CountText value ([] ++ (Nat.toDigits 10 value.toNat ++ [])) := .mk blank_nil blank_nil
  rw [List.nil_append, List.append_nil] at count
  exact .known blank_nil spelled blank_nil count

private theorem written_json (profile : Profile) :
    ObjectText [.known .dpi profile.dpi, .known .pollingRate profile.pollingRate,
      .known .liftOff profile.liftOff] profile.json.toList := by
  have members := MembersText.more (written_memberText .dpi profile.dpi)
    (.more (written_memberText .pollingRate profile.pollingRate)
      (.last (written_memberText .liftOff profile.liftOff)))
  have object := ObjectText.members blank_nil members blank_nil
  simpa [json_toList] using object

private theorem ofText_json (profile : Profile) : ofText profile.json = .ok profile := by
  have distinct : [ProfileField.dpi, .pollingRate, .liftOff].Nodup := by decide
  apply (ofText_object (written_json profile)).unique
  exact .profile distinct (by simp) (by simp) (by simp)

/-- The text of an object gives the one outcome that its members settle, the text of a list of three
numbers their profile, and the text of a profile that profile. -/
theorem profile_text_resolves :
    (∀ (members : List Member) (text : String), ObjectText members text.toList →
      Resolves members (ofText text) ∧
        ∀ outcome, Resolves members outcome → ofText text = outcome) ∧
    (∀ (profile : Profile) (text : String), ListText profile text.toList →
      ofText text = .ok profile) ∧
    (∀ profile : Profile, ofText profile.json = .ok profile) ∧
    ∀ field : ProfileField,
      (ProfileFault.duplicate field).message = "duplicate field `" ++ field.name ++ "`" ∧
        (ProfileFault.missing field).message = "missing field `" ++ field.name ++ "`" := by
  refine ⟨?_, ?_, ofText_json, ?_⟩
  · intro members text written
    have settled := ofText_object written
    exact ⟨settled, fun outcome other => settled.unique other⟩
  · exact fun profile text written => ofText_list written
  · intro field
    cases field <;> exact ⟨rfl, rfl⟩

-- An object with its members in another order, a blank, a key in escapes, and a nested value that is
-- passed over.
theorem profile_text_resolves_reordered :
    ofText ("\x7b \"lift_off_distance\":2,\"x\":[\x7b\"a\":null\x7d]," ++
      "\"\\u0064pi\":800,\"polling_rate_hz\":1000\x7d") = .ok standard := by
  have null : Derives .value ['n', 'u', 'l', 'l'] := .scalar (.word (by simp))
  have inner : Pieces [.char 'a'] ['a'] := .plain (by decide) (by decide) .nil
  have object : Derives .value _ := .object
    (.lastMember (.member blank_nil inner blank_nil (.element blank_nil null blank_nil)))
  have array : Derives .value _ := .array (.lastElement (.element blank_nil object blank_nil))
  have liftOff : MemberText (.known .liftOff 2) _ := @MemberText.known .liftOff 2 [' '] _ [] _
    (by simp [Blank]) (spells_plain (by decide)) blank_nil (.mk blank_nil blank_nil)
  have other : MemberText (.other ['x']) _ := .other blank_nil (by rintro ⟨⟩ <;> decide)
    (spells_plain (by decide)) blank_nil (.element blank_nil array blank_nil)
  have zero : HexDigit '0' 0 := .inl rfl
  have six : HexDigit '6' 6 := .inl rfl
  have four : HexDigit '4' 4 := .inl rfl
  have escaped : Spells ['\\', 'u', '0', '0', '6', '4', 'p', 'i'] ['d', 'p', 'i'] :=
    ⟨_, .code zero zero six four
      (.plain (by decide) (by decide) (.plain (by decide) (by decide) .nil)),
      @Stands.code 'd' _ _ (.char (.char .nil))⟩
  have dpi : MemberText (.known .dpi 800) _ := .known blank_nil escaped blank_nil
    (.mk blank_nil blank_nil)
  have written := ObjectText.members blank_nil (.more liftOff (.more other (.more dpi
    (.last (written_memberText .pollingRate 1000))))) blank_nil
  exact (profile_text_resolves.1 _ _ written).2 _
    (.profile (by decide) (by simp [standard]) (by simp [standard]) (by simp [standard]))

end MouseControl.Profile
