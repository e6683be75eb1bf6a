import MouseControl.Cli.Run
import MouseControl.Proofs.NumberText

/-! Save strategies as text: by one of the spellings of a name, in letters of either case and with any
hyphens and underscores, or by the number of a code. No text is both. -/
namespace MouseControl.Save.Strategy
open Text
variable {strategy : Strategy} {word : String} {text other : List Char}

def accepted : Strategy → List String
  | quick => ["quick"]
  | captureV1 => ["capturev1", "v1"]
  | captureV2 => ["capturev2", "v2"]
  | captureV3 => ["capturev3", "v3"]
  | captureV4 => ["capturev4", "v4"]
  | majorSync => ["majorsync", "major"]

def plainName (classes : CaseClasses) (text : String) : String :=
  String.ofList ((lowercase classes text.toList).filter fun c => c ≠ '-' ∧ c ≠ '_')

inductive Respelled : List Char → List Char → Prop
  | nil : Respelled [] []
  | letter {c d : Char} {text other : List Char} (same : c.toLower = d.toLower)
      (rest : Respelled text other) : Respelled (c :: text) (d :: other)
  | separator {c : Char} {text other : List Char} (separates : c = '-' ∨ c = '_')
      (rest : Respelled text other) : Respelled text (c :: other)

private theorem mem_all (strategy : Strategy) : strategy ∈ all := by
  cases strategy <;> decide

private theorem lookup_spellings_iff :
    spellings.lookup word = some strategy ↔ word ∈ strategy.accepted := by
  constructor
  · intro found
    obtain ⟨before, after, split, _⟩ := List.lookup_eq_some_iff.mp found
    have table : ∀ entry ∈ spellings, entry.1 ∈ entry.2.accepted := by decide
    refine table (word, strategy) ?_
    rw [split]
    exact List.mem_append_right before List.mem_cons_self
  · have table : ∀ strategy ∈ all, ∀ word ∈ strategy.accepted, spellings.lookup word = some strategy := by
      decide
    exact table strategy (mem_all strategy) word

private theorem accepted_ascii (spelling : word ∈ strategy.accepted) : ¬ Beyond word.toList := by
  have table : ∀ strategy ∈ all, ∀ word ∈ strategy.accepted,
      (word.toList.all fun c => c.toNat < 128) = true := by
    decide
  rintro ⟨c, inside, far⟩
  have ascii := List.all_eq_true.mp (table strategy (mem_all strategy) word spelling) c inside
  simp only [decide_eq_true_eq] at ascii
  omega

private theorem ofName?_eq_some_iff (classes : CaseClasses) {text : String} :
    ofName? text = some strategy ↔ plainName classes text ∈ strategy.accepted := by
  have keeps : ∀ c : Char, 128 ≤ c.toNat → decide (c ≠ '-' ∧ c ≠ '_') = true := by
    intro c far
    simp only [decide_eq_true_eq]
    constructor <;> rintro rfl <;> exact absurd far (by decide)
  have spelled {word : String} (spelling : word ∈ strategy.accepted) :
      plainName classes text = word ↔ normalize text = word := by
    rw [plainName, normalize, ← String.toList_inj, ← String.toList_inj, String.toList_ofList,
      String.toList_ofList]
    exact filter_lowercase_iff classes text.toList keeps (accepted_ascii spelling)
  rw [ofName?, lookup_spellings_iff]
  constructor
  · intro spelling
    rwa [(spelled spelling).mpr rfl]
  · intro spelling
    rwa [(spelled spelling).mp rfl]

private theorem filter_foldCase_respelled (respelled : Respelled text other) :
    (foldCase text).filter (fun c => c ≠ '-' ∧ c ≠ '_') =
      (foldCase other).filter fun c => c ≠ '-' ∧ c ≠ '_' := by
  induction respelled with
  | nil => rfl
  | letter same _ ih =>
    rw [foldCase_cons, foldCase_cons, List.filter_append, List.filter_append, foldChar_congr same, ih]
  | separator separates _ ih =>
    rw [foldCase_cons, List.filter_append, ih]
    rcases separates with rfl | rfl <;> rfl

private theorem ofName?_respelled {text other : String} (respelled : Respelled text.toList other.toList) :
    ofName? other = ofName? text := by
  rw [ofName?, ofName?, normalize, normalize, filter_foldCase_respelled respelled]

private theorem ofName?_name (strategy : Strategy) : ofName? strategy.name = some strategy := by
  cases strategy <;> decide

private theorem ofCode_code (strategy : Strategy) : ofCode strategy.code = .ok strategy := by
  cases strategy <;> rfl

private theorem exists_code {code : UInt8} (small : code.toNat ≤ 5) :
    ∃ strategy : Strategy, strategy.code = code := by
  have table : ∀ n < 6, ∃ strategy ∈ all, strategy.code = UInt8.ofNat n := by decide
  obtain ⟨strategy, _, same⟩ := table code.toNat (by omega)
  exact ⟨strategy, same.trans UInt8.ofNat_toNat⟩

private theorem ofCode_large {code : UInt8} (large : 5 < code.toNat) :
    ofCode code = .error (.unsupportedSaveStrategy code) := by
  have none : all.find? (·.code = code) = none := by
    rw [List.find?_eq_none]
    intro strategy _ same
    have small : strategy.code.toNat ≤ 5 := by cases strategy <;> decide
    rw [of_decide_eq_true same] at small
    omega
  rw [ofCode, none]

end MouseControl.Save.Strategy

namespace MouseControl.Cli
open Text Save Strategy
variable {text : String} {n : Nat} {strategy : Strategy} {outcome : Except Failure Strategy}

def numberAlphabet : List Char :=
  "0123456789abcdefx+".toList

private theorem NumberText.alphabet {text : List Char} (number : NumberText text n) :
    ∀ c ∈ text, c.toNat < 128 ∧ c.toLower ∈ numberAlphabet := by
  have digits {radix n : Nat} {text : List Char} (written : Writes radix text n) :
      ∀ c ∈ text, c.toNat < 128 ∧ c.toLower ∈ numberAlphabet := by
    intro c inside
    obtain ⟨value, digit, _⟩ := written.digit inside
    exact forall_hexDigit (fun c _ => c.toNat < 128 ∧ c.toLower ∈ numberAlphabet) (by decide) digit
  have numeral {radix n : Nat} {text : List Char} (numeral : Numeral radix text n) :
      ∀ c ∈ text, c.toNat < 128 ∧ c.toLower ∈ numberAlphabet := by
    cases numeral with
    | plain written => exact digits written
    | signed written => exact List.forall_mem_cons.mpr ⟨by decide, digits written⟩
  cases number with
  | decimal written => exact numeral written
  | hexadecimal marked written =>
    rw [List.forall_mem_cons, List.forall_mem_cons]
    refine ⟨by decide, ?_, numeral written⟩
    rcases marked with rfl | rfl <;> decide

private theorem NumberText.unnamed (number : NumberText text.toList n) : ofName? text = none := by
  have table : ∀ strategy ∈ all, ∀ word ∈ strategy.accepted,
      (word.toList.all fun c => numberAlphabet.contains c) = false := by
    decide
  cases named : ofName? text with
  | none => rfl
  | some strategy =>
    have mixed := table strategy (mem_all strategy) _ (lookup_spellings_iff.mp named)
    rw [List.all_eq_false] at mixed
    obtain ⟨c, inside, foreign⟩ := mixed
    rw [Strategy.normalize, String.toList_ofList] at inside
    obtain ⟨d, member, folded⟩ := List.mem_flatMap.mp (List.mem_filter.mp inside).1
    obtain ⟨ascii, known⟩ := number.alphabet d member
    rw [foldChar_ascii ascii, List.mem_singleton] at folded
    rw [folded, List.contains_iff_mem] at foreign
    exact absurd known foreign

/-- What a text resolves to: a strategy by its name, else by its code, else nothing. -/
inductive Resolution (classes : CaseClasses) (text : String) : Except Failure Strategy → Prop
  | named {strategy : Strategy} (name : plainName classes text ∈ strategy.accepted) :
      Resolution classes text (.ok strategy)
  | coded {strategy : Strategy} {code : UInt8}
      (unnamed : ∀ strategy : Strategy, plainName classes text ∉ strategy.accepted)
      (number : NumberText text.toList code.toNat) (small : code.toNat ≤ 5)
      (same : strategy.code = code) : Resolution classes text (.ok strategy)
  | unsupported {code : UInt8}
      (unnamed : ∀ strategy : Strategy, plainName classes text ∉ strategy.accepted)
      (number : NumberText text.toList code.toNat) (large : 5 < code.toNat) :
      Resolution classes text (.error (.failed (.unsupportedSaveStrategy code)))
  | unknown (unnamed : ∀ strategy : Strategy, plainName classes text ∉ strategy.accepted)
      (unnumbered : ∀ code : UInt8, ¬ NumberText text.toList code.toNat) :
      Resolution classes text (.error (.unknownStrategy text))

private theorem readByte_of_number {code : UInt8} (number : NumberText text.toList code.toNat) :
    readByte text = .ok code := by
  obtain ⟨value, read, same⟩ := (exactBelow_readByte.reads text _).mpr ⟨number, code.toNat_lt⟩
  rwa [← UInt8.toNat_inj.mp same]

private theorem readStrategy_coded {code : UInt8} (unnamed : ofName? text = none)
    (number : NumberText text.toList code.toNat) :
    readStrategy text = (ofCode code).mapError .failed := by
  rw [readStrategy, unnamed, readByte_of_number number]

private theorem Resolution.readStrategy {classes : CaseClasses}
    (resolves : Resolution classes text outcome) :
    readStrategy text = outcome := by
  have nameless (unnamed : ∀ strategy : Strategy, plainName classes text ∉ strategy.accepted) :
      ofName? text = none := by
    apply Option.eq_none_iff_forall_ne_some.mpr
    exact fun strategy named => unnamed strategy ((ofName?_eq_some_iff classes).mp named)
  cases resolves with
  | named name => rw [Cli.readStrategy, (ofName?_eq_some_iff classes).mpr name]
  | coded unnamed number _ same =>
    rw [readStrategy_coded (nameless unnamed) number, ← same, ofCode_code]
    rfl
  | unsupported unnamed number large =>
    rw [readStrategy_coded (nameless unnamed) number, ofCode_large large]
    rfl
  | unknown unnamed unnumbered =>
    rw [Cli.readStrategy, nameless unnamed]
    cases read : readByte text with
    | error error => rfl
    | ok code =>
      have number := (exactBelow_readByte.reads text code.toNat).mp ⟨code, read, rfl⟩
      exact absurd number.1 (unnumbered code)

private theorem exists_resolution (classes : CaseClasses) (text : String) :
    ∃ outcome, Resolution classes text outcome := by
  by_cases named : ∃ strategy : Strategy, plainName classes text ∈ strategy.accepted
  · obtain ⟨strategy, name⟩ := named
    exact ⟨_, .named name⟩
  · rw [not_exists] at named
    by_cases numbered : ∃ code : UInt8, NumberText text.toList code.toNat
    · obtain ⟨code, number⟩ := numbered
      by_cases small : code.toNat ≤ 5
      · obtain ⟨strategy, same⟩ := exists_code small
        exact ⟨_, .coded named number small same⟩
      · exact ⟨_, .unsupported named number (by omega)⟩
    · rw [not_exists] at numbered
      exact ⟨_, .unknown named numbered⟩

private theorem readStrategy_eq_iff (classes : CaseClasses) :
    readStrategy text = outcome ↔ Resolution classes text outcome := by
  refine ⟨?_, Resolution.readStrategy⟩
  rintro rfl
  obtain ⟨outcome, resolves⟩ := exists_resolution classes text
  rwa [resolves.readStrategy]

/-- A text resolves to a strategy by its name or else by its code, and no text has both a name and a
number. Hyphens, underscores and the case of letters leave a name what it is, and every strategy is
found by its name and by every writing of its code. -/
theorem strategy_text_resolves (classes : CaseClasses) (text : String) :
    (∀ outcome, readStrategy text = outcome ↔ Resolution classes text outcome) ∧
    (Failure.unknownStrategy text).message = "Unknown save strategy '" ++ text ++
      "'. Valid strategies: quick, v1, v2, v3, v4, major-sync" ∧
    (∀ (strategy : Strategy) n, NumberText text.toList n → plainName classes text ∉ strategy.accepted) ∧
    (∀ (strategy : Strategy) other, plainName classes text ∈ strategy.accepted →
      Respelled text.toList other.toList →
        plainName classes other ∈ strategy.accepted ∧ readStrategy other = .ok strategy) ∧
    ∀ strategy : Strategy, readStrategy strategy.name = .ok strategy ∧
      ∀ width, ∀ written ∈ writings width strategy.code.toNat, readStrategy written = .ok strategy := by
  refine ⟨fun outcome => readStrategy_eq_iff classes, rfl, ?_, ?_, ?_⟩
  · intro strategy n number name
    have named := (ofName?_eq_some_iff classes).mpr name
    rw [number.unnamed] at named
    cases named
  · intro strategy other name respelled
    have named := (ofName?_eq_some_iff classes).mpr name
    rw [← ofName?_respelled respelled] at named
    refine ⟨(ofName?_eq_some_iff classes).mp named, ?_⟩
    rw [readStrategy, named]
  · intro strategy
    refine ⟨by rw [readStrategy, ofName?_name], ?_⟩
    intro width written member
    have number := numberText_writings member
    rw [readStrategy_coded number.unnamed number, ofCode_code]
    rfl

-- The Kelvin sign is a letter of a name, and a code may have a zero in front.
theorem strategy_text_resolves_kelvin :
    let classes : CaseClasses := ⟨Char.isAlpha, fun _ => false⟩
    plainName classes "quic\u212a" ∈ Strategy.quick.accepted ∧
      Respelled "quic\u212a".toList "Q-uiC_\u212a".toList ∧
      readStrategy "Q-uiC_\u212a" = .ok .quick ∧
      NumberText "0x05".toList 5 ∧ plainName classes "0x05" ∉ Strategy.majorSync.accepted ∧
      "0x05" ∈ writings 2 Strategy.majorSync.code.toNat ∧ readStrategy "0x05" = .ok .majorSync := by
  intro classes
  have named : plainName classes "quic\u212a" ∈ Strategy.quick.accepted :=
    (ofName?_eq_some_iff classes).mp (by decide)
  have respelled : Respelled "quic\u212a".toList "Q-uiC_\u212a".toList :=
    .letter (by decide) (.separator (.inl rfl) (.letter rfl (.letter rfl (.letter (by decide)
      (.separator (.inr rfl) (.letter rfl .nil))))))
  have written : "0x05" ∈ writings 2 Strategy.majorSync.code.toNat := by decide
  have number : NumberText "0x05".toList 5 := numberText_writings written
  obtain ⟨_, _, _, names, _⟩ := strategy_text_resolves classes "quic\u212a"
  obtain ⟨_, _, numbers, _, codes⟩ := strategy_text_resolves classes "0x05"
  exact ⟨named, respelled, (names .quick "Q-uiC_\u212a" named respelled).2, number,
    numbers .majorSync 5 number, written, (codes .majorSync).2 2 "0x05" written⟩

end MouseControl.Cli
