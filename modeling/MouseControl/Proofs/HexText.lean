import MouseControl.Proofs.NumberText
import MouseControl.Text.HexBytes

/-! Bytes as hexadecimal text. What a text is read to is told by its digits alone, in either case; of
the texts that are read to given bytes one is their dump. No subtraction on the way goes below zero. -/
namespace MouseControl.Text
open Json (HexDigit)
variable {c d : Char} {value : Nat} {digits others : List Char} {bytes : List UInt8}

def isSolid (c : Char) : Bool :=
  !(isBlank c || c == ':' || c == '-')

/-- What is left of a text without white space, colons and hyphens. -/
def solid (text : String) : List Char :=
  text.toList.filter isSolid

def HexPairs (digits : List Char) (bytes : List UInt8) : Prop :=
  digits.length = 2 * bytes.length ∧ ∀ i byte, bytes[i]? = some byte →
    ∃ c d high low, digits[2 * i]? = some c ∧ digits[2 * i + 1]? = some d ∧
      HexDigit c high ∧ HexDigit d low ∧ byte.toNat = 16 * high + low

/-- What can come of reading digits. The first character that is none is a fault, before an odd number
of them. -/
inductive HexOutcome (digits : List Char) : Except HexHalt (List UInt8) → Prop
  | stray {before after : List Char} {c : Char} (split : digits = before ++ c :: after)
      (earlier : ∀ d ∈ before, ∃ value, HexDigit d value) (foreign : ¬ ∃ value, HexDigit c value) :
      HexOutcome digits (.error (.refused (.invalidDigit c)))
  | odd (all : ∀ c ∈ digits, ∃ value, HexDigit c value) (length : digits.length % 2 = 1) :
      HexOutcome digits (.error (.refused .oddLength))
  | bytes {bytes : List UInt8} (pairs : HexPairs digits bytes) : HexOutcome digits (.ok bytes)

def SameLetter (c d : Char) : Prop :=
  lowerChar c = lowerChar d

/-- Two outcomes that are the same but for the case of the character at fault. -/
inductive SameButCase : Except HexHalt (List UInt8) → Except HexHalt (List UInt8) → Prop
  | stray {c d : Char} (same : SameLetter c d) :
      SameButCase (.error (.refused (.invalidDigit c))) (.error (.refused (.invalidDigit d)))
  | same (outcome : Except HexHalt (List UInt8)) : SameButCase outcome outcome

private theorem isHexDigit_iff : isHexDigit c = true ↔ ∃ value, HexDigit c value := by
  have same : isHexDigit c = (hexValue? c).isSome := by
    simp only [isHexDigit, hexValue?, ← Bool.decide_and]
    by_cases digit : '0' ≤ c ∧ c ≤ '9'
    · simp only [digit, and_self, decide_true, Bool.true_or, if_true, Option.isSome_some]
    · by_cases lower : 'a' ≤ c ∧ c ≤ 'f'
      · simp only [digit, lower, and_self, decide_true, Bool.or_true, Bool.true_or, if_true, if_false,
          Option.isSome_some]
      · by_cases upper : 'A' ≤ c ∧ c ≤ 'F'
        · simp only [digit, lower, upper, and_self, decide_true, Bool.or_true, if_true, if_false,
            Option.isSome_some]
        · simp only [digit, lower, upper, decide_false, Bool.or_false, if_false, Option.isSome_none]
  rw [same, Option.isSome_iff_exists]
  exact exists_congr fun _ => hexValue?_eq_some_iff

/-- The byte of a digit has the digit's value: whichever range it is in, the subtraction there stays
above zero. -/
private theorem nibble_digit (digit : HexDigit c value) :
    nibble (UInt8.ofNat c.toNat) = .ok (UInt8.ofNat value) :=
  forall_hexDigit (fun c value => nibble (UInt8.ofNat c.toNat) = .ok (UInt8.ofNat value))
    (by decide) digit

private theorem hexDigits_all (all : ∀ c ∈ digits, ∃ value, HexDigit c value) :
    hexDigits digits = .ok (digits.map fun c => UInt8.ofNat c.toNat) := by
  induction digits with
  | nil => rfl
  | cons c rest ih =>
    have digit := isHexDigit_iff.mpr (all c List.mem_cons_self)
    rw [hexDigits, if_pos digit, ih fun d inside => all d (List.mem_cons_of_mem c inside)]
    rfl

private theorem hexDigits_stray {before after : List Char}
    (earlier : ∀ d ∈ before, ∃ value, HexDigit d value) (foreign : ¬ ∃ value, HexDigit c value) :
    hexDigits (before ++ c :: after) = .error (.invalidDigit c) := by
  induction before with
  | nil => rw [List.nil_append, hexDigits, if_neg (mt isHexDigit_iff.mp foreign)]
  | cons d rest ih =>
    have digit := isHexDigit_iff.mpr (earlier d List.mem_cons_self)
    rw [List.cons_append, hexDigits, if_pos digit,
      ih fun e inside => earlier e (List.mem_cons_of_mem d inside)]
    rfl

private theorem hexPairs_nil : HexPairs [] [] :=
  ⟨rfl, fun _ _ found => nomatch found⟩

private theorem hexPairs_cons_iff {byte : UInt8} : HexPairs (c :: d :: digits) (byte :: bytes) ↔
    (∃ high low, HexDigit c high ∧ HexDigit d low ∧ byte.toNat = 16 * high + low) ∧
      HexPairs digits bytes := by
  constructor
  · rintro ⟨length, pairs⟩
    refine ⟨?_, ?_, fun i other found => ?_⟩
    · obtain ⟨_, _, high, low, first, second, digit, digit', sum⟩ := pairs 0 byte rfl
      cases first
      cases second
      exact ⟨high, low, digit, digit', sum⟩
    · simp only [List.length_cons] at length
      omega
    · exact pairs (i + 1) other found
  · rintro ⟨⟨high, low, digit, digit', sum⟩, length, pairs⟩
    refine ⟨?_, fun i other found => ?_⟩
    · simp only [List.length_cons]
      omega
    · cases i with
      | zero =>
        cases found
        exact ⟨c, d, high, low, rfl, rfl, digit, digit', sum⟩
      | succ i => exact pairs i other found

private theorem exists_two_cons (two : 2 ≤ digits.length) : ∃ c d rest, digits = c :: d :: rest := by
  obtain ⟨c, rest, rfl⟩ := List.exists_cons_of_length_pos (Nat.lt_of_succ_lt two)
  obtain ⟨d, rest, rfl⟩ := List.exists_cons_of_length_pos (Nat.lt_of_succ_lt_succ two)
  exact ⟨c, d, rest, rfl⟩

private theorem HexPairs.cons_cases {byte : UInt8} (pairs : HexPairs digits (byte :: bytes)) :
    ∃ c d rest, digits = c :: d :: rest := by
  apply exists_two_cons
  rw [pairs.1, List.length_cons]
  omega

private theorem HexPairs.nil_eq (pairs : HexPairs digits []) : digits = [] :=
  List.eq_nil_of_length_eq_zero pairs.1

private theorem toNat_joined {high low : Nat} (first : high < 16) (second : low < 16) :
    (UInt8.ofNat high <<< 4 ||| UInt8.ofNat low).toNat = 16 * high + low := by
  have joined : ∀ high low : Fin 16,
      (UInt8.ofNat high.val <<< 4 ||| UInt8.ofNat low.val).toNat = 16 * high.val + low.val := by
    decide
  exact joined ⟨high, first⟩ ⟨low, second⟩

private theorem hexDigit_small (digit : HexDigit c value) : value < 16 :=
  forall_hexDigit (fun _ value => value < 16) (by decide) digit

private theorem HexPairs.joinDigits (pairs : HexPairs digits bytes) :
    joinDigits (digits.map fun c => UInt8.ofNat c.toNat) = .ok bytes := by
  induction bytes generalizing digits with
  | nil =>
    rw [pairs.nil_eq]
    rfl
  | cons byte bytes ih =>
    obtain ⟨c, d, rest, rfl⟩ := pairs.cons_cases
    obtain ⟨⟨high, low, digit, digit', sum⟩, tail⟩ := hexPairs_cons_iff.mp pairs
    have joined : UInt8.ofNat high <<< 4 ||| UInt8.ofNat low = byte := by
      apply UInt8.toNat_inj.mp
      rw [toNat_joined (hexDigit_small digit) (hexDigit_small digit'), sum]
    rw [List.map_cons, List.map_cons, Text.joinDigits, nibble_digit digit, nibble_digit digit', ih tail,
      ← joined]
    rfl

private theorem exists_hexPairs {count : Nat} (all : ∀ c ∈ digits, ∃ value, HexDigit c value)
    (length : digits.length = 2 * count) : ∃ bytes, HexPairs digits bytes := by
  induction count generalizing digits with
  | zero =>
    rw [List.eq_nil_of_length_eq_zero length]
    exact ⟨[], hexPairs_nil⟩
  | succ count ih =>
    obtain ⟨c, d, rest, rfl⟩ := exists_two_cons (show 2 ≤ digits.length by omega)
    simp only [List.forall_mem_cons] at all
    obtain ⟨⟨high, digit⟩, ⟨low, digit'⟩, others⟩ := all
    obtain ⟨bytes, pairs⟩ := ih others (by simp only [List.length_cons] at length; omega)
    have sum := toNat_joined (hexDigit_small digit) (hexDigit_small digit')
    exact ⟨_, hexPairs_cons_iff.mpr ⟨⟨high, low, digit, digit', sum⟩, pairs⟩⟩

private theorem exists_hexOutcome (digits : List Char) : ∃ outcome, HexOutcome digits outcome := by
  cases found : digits.find? (! isHexDigit ·) with
  | some c =>
    obtain ⟨foreign, before, after, split, earlier⟩ := List.find?_eq_some_iff_append.mp found
    refine ⟨_, .stray split (fun d inside => isHexDigit_iff.mp ?_) (mt isHexDigit_iff.mpr ?_)⟩
    · simpa using earlier d inside
    · simpa using foreign
  | none =>
    have all : ∀ c ∈ digits, ∃ value, HexDigit c value := by
      intro c inside
      apply isHexDigit_iff.mp
      simpa using List.find?_eq_none.mp found c inside
    rcases Nat.mod_two_eq_zero_or_one digits.length with even | odd
    · obtain ⟨bytes, pairs⟩ :=
        exists_hexPairs all (show digits.length = 2 * (digits.length / 2) by omega)
      exact ⟨_, .bytes pairs⟩
    · exact ⟨_, .odd all odd⟩

private theorem HexPairs.all (pairs : HexPairs digits bytes) :
    ∀ c ∈ digits, ∃ value, HexDigit c value := by
  induction bytes generalizing digits with
  | nil =>
    rw [pairs.nil_eq]
    exact fun _ inside => nomatch inside
  | cons byte bytes ih =>
    obtain ⟨c, d, rest, rfl⟩ := pairs.cons_cases
    obtain ⟨⟨high, low, digit, digit', _⟩, tail⟩ := hexPairs_cons_iff.mp pairs
    simp only [List.forall_mem_cons]
    exact ⟨⟨high, digit⟩, ⟨low, digit'⟩, ih tail⟩

private theorem HexOutcome.readHex {text : String} {outcome : Except HexHalt (List UInt8)}
    (comes : HexOutcome (solid text) outcome) : readHex text = outcome := by
  have kept : text.toList.filter (! isSeparator ·) = solid text := rfl
  rw [Text.readHex, kept]
  cases comes with
  | stray split earlier foreign => rw [split, hexDigits_stray earlier foreign]
  | odd all length =>
    rw [hexDigits_all all]
    refine if_neg ?_
    rw [List.length_map]
    omega
  | bytes pairs =>
    have even : (solid text).length % 2 = 0 := by
      rw [pairs.1]
      omega
    rw [hexDigits_all pairs.all]
    simp only [List.length_map, if_pos even, pairs.joinDigits]
    rfl

theorem readHex_eq_iff {text : String} {outcome : Except HexHalt (List UInt8)} :
    readHex text = outcome ↔ HexOutcome (solid text) outcome := by
  refine ⟨?_, HexOutcome.readHex⟩
  rintro rfl
  obtain ⟨outcome, comes⟩ := exists_hexOutcome (solid text)
  rwa [comes.readHex]

section Case

private theorem hexValue?_toLower (c : Char) : hexValue? c.toLower = hexValue? c := by
  by_cases ascii : c.toNat < 128
  · exact forall_ascii (fun c => hexValue? c.toLower = hexValue? c) (by decide) ascii
  · rw [toLower_far (by omega)]

private theorem SameLetter.hexDigit (same : SameLetter c d) (digit : HexDigit c value) :
    HexDigit d value := by
  have read := digit.hexValue?
  have lower : hexValue? c.toLower = some value := (hexValue?_toLower c).trans read
  rw [SameLetter, lowerChar_ascii (hexValue?_ascii read)] at same
  apply hexValue?_eq_some_iff.mp
  -- Beside the digits and their capital letters nothing has a digit for its lower case.
  rcases lowerChar_folded d with folded | ⟨beyond, _⟩
  · rw [folded, foldChar] at same
    split at same
    · rw [List.singleton_inj.mp same] at lower
      cases lower
    · split at same
      · exact absurd (congrArg List.length same) (by simp)
      · rwa [List.singleton_inj.mp same, hexValue?_toLower] at lower
  · rw [← same, beyond_singleton] at beyond
    have ascii := hexValue?_ascii lower
    omega

private theorem all_sameLetters (same : List.Forall₂ SameLetter digits others)
    (all : ∀ c ∈ digits, ∃ value, HexDigit c value) : ∀ d ∈ others, ∃ value, HexDigit d value := by
  induction same with
  | nil => exact all
  | cons head _ ih =>
    rw [List.forall_mem_cons] at all ⊢
    obtain ⟨⟨value, digit⟩, rest⟩ := all
    exact ⟨⟨value, head.hexDigit digit⟩, ih rest⟩

private theorem HexPairs.sameLetters (same : List.Forall₂ SameLetter digits others)
    (pairs : HexPairs digits bytes) : HexPairs others bytes := by
  induction bytes generalizing digits others with
  | nil =>
    rw [pairs.nil_eq, List.forall₂_nil_left_iff] at same
    rw [same]
    exact hexPairs_nil
  | cons byte bytes ih =>
    obtain ⟨c, d, rest, rfl⟩ := pairs.cons_cases
    obtain ⟨c', _, first, more, rfl⟩ := List.forall₂_cons_left_iff.mp same
    obtain ⟨d', rest', second, others, rfl⟩ := List.forall₂_cons_left_iff.mp more
    obtain ⟨⟨high, low, digit, digit', sum⟩, tail⟩ := hexPairs_cons_iff.mp pairs
    rw [hexPairs_cons_iff]
    exact ⟨⟨high, low, first.hexDigit digit, second.hexDigit digit', sum⟩, ih others tail⟩

private theorem split_sameLetters {before after : List Char}
    (same : List.Forall₂ SameLetter (before ++ c :: after) others) :
    ∃ before' d after', others = before' ++ d :: after' ∧
      List.Forall₂ SameLetter before before' ∧ SameLetter c d := by
  induction before generalizing others with
  | nil =>
    obtain ⟨d, after', head, _, rfl⟩ := List.forall₂_cons_left_iff.mp same
    exact ⟨[], d, after', rfl, .nil, head⟩
  | cons e before ih =>
    obtain ⟨e', rest, head, tail, rfl⟩ := List.forall₂_cons_left_iff.mp same
    obtain ⟨before', d, after', rfl, front, fault⟩ := ih tail
    exact ⟨e' :: before', d, after', rfl, .cons head front, fault⟩

private theorem HexOutcome.sameLetters {outcome : Except HexHalt (List UInt8)}
    (same : List.Forall₂ SameLetter digits others) (comes : HexOutcome digits outcome) :
    ∃ other, HexOutcome others other ∧ SameButCase outcome other := by
  cases comes with
  | stray split earlier foreign =>
    rw [split] at same
    obtain ⟨before', d, after', split', front, fault⟩ := split_sameLetters same
    have foreign' : ¬ ∃ value, HexDigit d value := by
      rintro ⟨value, digit⟩
      exact foreign ⟨value, SameLetter.hexDigit fault.symm digit⟩
    exact ⟨_, .stray split' (all_sameLetters front earlier) foreign', .stray fault⟩
  | odd all length =>
    rw [same.length_eq] at length
    exact ⟨_, .odd (all_sameLetters same all) length, .same _⟩
  | bytes pairs => exact ⟨_, .bytes (pairs.sameLetters same), .same _⟩

end Case

section Dump

private theorem filter_intercalate {keep : Char → Bool} {mark : Char} (dropped : keep mark = false)
    (lists : List (List Char)) :
    ([mark].intercalate lists).filter keep = lists.flatMap (List.filter keep) := by
  induction lists with
  | nil => rfl
  | cons first rest ih =>
    cases rest with
    | nil => rw [List.intercalate_singleton, List.flatMap_singleton]
    | cons second rest =>
      rw [List.intercalate_cons_cons, List.filter_append, List.filter_append, ih, List.flatMap_cons,
        List.filter_singleton, dropped]
      simp

private theorem upperHex_pair (byte : UInt8) : ∃ c d high low, (upperHex 2 byte.toNat).toList = [c, d] ∧
    HexDigit c high ∧ HexDigit d low ∧ byte.toNat = 16 * high + low := by
  obtain ⟨_, values, digits, written⟩ := writes_upperHex 2 byte.toNat
  have few : (Nat.toDigits 16 byte.toNat).length ≤ 2 :=
    Nat.toDigits_length 16 byte.toNat 2 (by decide) byte.toNat_lt
  have length : (upperHex 2 byte.toNat).toList.length = 2 := by
    rw [upperHex, String.toList_ofList, List.length_append, List.length_replicate, List.length_map]
    omega
  obtain ⟨c, d, rest, pair⟩ := exists_two_cons (Nat.le_of_eq length.symm)
  rw [pair] at length digits ⊢
  obtain rfl : rest = [] := List.eq_nil_of_length_eq_zero (by simpa using length)
  obtain ⟨high, _, first, more, rfl⟩ := List.forall₂_cons_left_iff.mp digits
  obtain ⟨low, _, second, none, rfl⟩ := List.forall₂_cons_left_iff.mp more
  rw [List.forall₂_nil_left_iff.mp none] at written
  refine ⟨c, d, high, low, rfl, first.1, second.1, ?_⟩
  rw [← written, List.reverse_cons, List.reverse_singleton, List.singleton_append, Nat.ofDigits_cons,
    Nat.ofDigits_singleton]
  exact Nat.add_comm _ _

private theorem hexDigit_solid (digit : HexDigit c value) : isSolid c = true :=
  forall_hexDigit (fun c _ => isSolid c = true) (by decide) digit

private theorem hexPairs_dumpHex (bytes : List UInt8) : HexPairs (solid (dumpHex bytes)) bytes := by
  have blank : " ".toList = [' '] := rfl
  rw [solid, dumpHex, String.toList_intercalate, blank, filter_intercalate (by decide)]
  induction bytes with
  | nil => exact hexPairs_nil
  | cons byte bytes ih =>
    obtain ⟨c, d, high, low, pair, first, second, sum⟩ := upperHex_pair byte
    rw [List.map_cons, List.map_cons, List.flatMap_cons, pair,
      List.filter_cons_of_pos (hexDigit_solid first), List.filter_cons_of_pos (hexDigit_solid second)]
    exact hexPairs_cons_iff.mpr ⟨⟨high, low, first, second, sum⟩, ih⟩

end Dump

/-- Reading takes a text for exactly what its digits come to, and never goes below zero on the way. Two
texts whose digits differ in case at most come to the same, and the dump of bytes to these bytes. -/
theorem hex_text_read_exactly (text : String) :
    (∀ outcome, readHex text = outcome ↔ HexOutcome (solid text) outcome) ∧
    (∀ c, (HexError.invalidDigit c).message = "invalid hex digit '" ++ c.toString ++ "'") ∧
    (∀ crash, readHex text ≠ .error (.crashed crash)) ∧
    (∀ other, List.Forall₂ SameLetter (solid text) (solid other) →
      SameButCase (readHex text) (readHex other)) ∧
    ∀ bytes, readHex (dumpHex bytes) = .ok bytes := by
  refine ⟨fun outcome => readHex_eq_iff, fun c => rfl, ?_, ?_, ?_⟩
  · intro crash crashed
    cases readHex_eq_iff.mp crashed
  · intro other same
    obtain ⟨outcome, comes, alike⟩ := (readHex_eq_iff.mp rfl).sameLetters same
    rwa [readHex_eq_iff.mpr comes]
  · intro bytes
    exact readHex_eq_iff.mpr (.bytes (hexPairs_dumpHex bytes))

-- The digits of a byte are split, and the fault is a letter of each case.
theorem hex_text_read_exactly_mixed :
    List.Forall₂ SameLetter (solid "a:B\u20030g") (solid "Ab - 0G") ∧
      SameButCase (readHex "a:B\u20030g") (readHex "Ab - 0G") := by
  have first : solid "a:B\u20030g" = ['a', 'B', '0', 'g'] := by decide
  have second : solid "Ab - 0G" = ['A', 'b', '0', 'G'] := by decide
  have letter {c d : Char} (ascii : c.toNat < 128 ∧ d.toNat < 128) (same : c.toLower = d.toLower) :
      SameLetter c d := by
    rw [SameLetter, lowerChar_ascii ascii.1, lowerChar_ascii ascii.2, same]
  have same : List.Forall₂ SameLetter (solid "a:B\u20030g") (solid "Ab - 0G") := by
    rw [first, second]
    exact .cons (letter (by decide) (by decide)) (.cons (letter (by decide) (by decide))
      (.cons rfl (.cons (letter (by decide) (by decide)) .nil)))
  exact ⟨same, (hex_text_read_exactly "a:B\u20030g").2.2.2.1 "Ab - 0G" same⟩

end MouseControl.Text
