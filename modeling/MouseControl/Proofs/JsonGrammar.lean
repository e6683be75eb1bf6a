import MouseControl.Json.Scan

/-! The grammar of JSON text, said without the scanner, and what the scanner makes of its tokens.
Every statement about a token is for any text after it that does not carry the token on. A value
may nest to any depth; the runs over whole values are in the module on passing values over. -/
namespace MouseControl.Json
open Text

def Blank (text : List Char) : Prop :=
  ∀ c ∈ text, c ∈ [' ', '\t', '\n', '\r']

def HexDigit (c : Char) (value : Nat) : Prop :=
  "0123456789abcdef".toList[value]? = some c ∨ "0123456789ABCDEF".toList[value]? = some c

def shortEscapes : List (Char × Char) :=
  [('"', '"'), ('\\', '\\'), ('/', '/'), ('b', '\x08'), ('f', '\x0c'), ('n', '\n'), ('r', '\r'),
    ('t', '\t')]

/-- The pieces of a string and a text that writes them between quotes. A piece is a character as it
is or behind a backslash, or a number of sixteen bits in four hexadecimal digits. -/
inductive Pieces : List Piece → List Char → Prop
  | nil : Pieces [] []
  | plain {c : Char} {pieces : List Piece} {text : List Char} (visible : 0x20 ≤ c.toNat)
      (unquoted : c ≠ '"' ∧ c ≠ '\\') (rest : Pieces pieces text) :
      Pieces (.char c :: pieces) (c :: text)
  | short {letter c : Char} {pieces : List Piece} {text : List Char}
      (escape : (letter, c) ∈ shortEscapes) (rest : Pieces pieces text) :
      Pieces (.char c :: pieces) ('\\' :: letter :: text)
  | code {a b c d : Char} {i j k l : Nat} {pieces : List Piece} {text : List Char}
      (first : HexDigit a i) (second : HexDigit b j) (third : HexDigit c k) (fourth : HexDigit d l)
      (rest : Pieces pieces text) :
      Pieces (.code (i * 0x1000 + j * 0x100 + k * 0x10 + l) :: pieces)
        ('\\' :: 'u' :: a :: b :: c :: d :: text)

/-- The characters that pieces stand for: a number is a character of that number, or two numbers are
the halves of a surrogate pair. -/
inductive Stands : List Piece → List Char → Prop
  | nil : Stands [] []
  | char {c : Char} {pieces : List Piece} {key : List Char} (rest : Stands pieces key) :
      Stands (.char c :: pieces) (c :: key)
  | code {c : Char} {pieces : List Piece} {key : List Char} (rest : Stands pieces key) :
      Stands (.code c.toNat :: pieces) (c :: key)
  | pair {high low : Nat} {pieces : List Piece} {key : List Char} (highHalf : high < 0x400)
      (lowHalf : low < 0x400) (rest : Stands pieces key) :
      Stands (.code (0xD800 + high) :: .code (0xDC00 + low) :: pieces)
        (Char.ofNat (0x10000 + high * 0x400 + low) :: key)

def Spells (text key : List Char) : Prop :=
  ∃ pieces, Pieces pieces text ∧ Stands pieces key

def Digits (text : List Char) : Prop :=
  text ≠ [] ∧ ∀ c ∈ text, c.isDigit = true

inductive Whole : List Char → Prop
  | zero : Whole ['0']
  | digits {text : List Char} (digits : Digits text) (leading : text.head? ≠ some '0') : Whole text

inductive Fraction : List Char → Prop
  | absent : Fraction []
  | present {text : List Char} (digits : Digits text) : Fraction ('.' :: text)

inductive Exponent : List Char → Prop
  | absent : Exponent []
  | present {mark : Char} {sign text : List Char} (marked : mark ∈ ['e', 'E'])
      (signed : sign ∈ [[], ['+'], ['-']]) (digits : Digits text) :
      Exponent (mark :: (sign ++ text))

inductive ScalarText : List Char → Prop
  | word {text : List Char} (known : text ∈ ["null", "true", "false"].map String.toList) :
      ScalarText text
  | string {pieces : List Piece} {text : List Char} (inside : Pieces pieces text) :
      ScalarText ('"' :: (text ++ ['"']))
  | number {sign whole fraction exponent : List Char} (signed : sign ∈ [[], ['-']])
      (units : Whole whole) (tail : Fraction fraction) (power : Exponent exponent) :
      ScalarText (sign ++ (whole ++ (fraction ++ exponent)))

inductive Form where
  | value
  | element
  | elements
  | member
  | members

/-- The texts of each form. An element is a value between blanks, and a member an element behind a
key and a colon; a list or an object has none of them or some with commas between. -/
inductive Derives : Form → List Char → Prop
  | scalar {text : List Char} (scalar : ScalarText text) : Derives .value text
  | emptyArray {blanks : List Char} (blank : Blank blanks) :
      Derives .value ('[' :: (blanks ++ [']']))
  | array {text : List Char} (elements : Derives .elements text) :
      Derives .value ('[' :: (text ++ [']']))
  | emptyObject {blanks : List Char} (blank : Blank blanks) :
      Derives .value ('\x7b' :: (blanks ++ ['\x7d']))
  | object {text : List Char} (members : Derives .members text) :
      Derives .value ('\x7b' :: (text ++ ['\x7d']))
  | element {before text behind : List Char} (blank : Blank before) (value : Derives .value text)
      (blank' : Blank behind) : Derives .element (before ++ (text ++ behind))
  | lastElement {text : List Char} (element : Derives .element text) : Derives .elements text
  | elements {text rest : List Char} (element : Derives .element text)
      (elements : Derives .elements rest) : Derives .elements (text ++ ',' :: rest)
  | member {before key behind text : List Char} {pieces : List Piece} (blank : Blank before)
      (inside : Pieces pieces key) (blank' : Blank behind) (element : Derives .element text) :
      Derives .member (before ++ '"' :: (key ++ '"' :: (behind ++ ':' :: text)))
  | lastMember {text : List Char} (member : Derives .member text) : Derives .members text
  | members {text rest : List Char} (member : Derives .member text)
      (members : Derives .members rest) : Derives .members (text ++ ',' :: rest)

section Blanks

variable {blanks text : List Char}

theorem blank_nil : Blank [] :=
  fun _ inside => absurd inside List.not_mem_nil

theorem skipBlanks_append (blank : Blank blanks) : skipBlanks (blanks ++ text) = skipBlanks text := by
  apply List.dropWhile_append_of_pos
  intro c inside
  have listed := blank c inside
  simp only [List.mem_cons, List.not_mem_nil, or_false] at listed
  rcases listed with rfl | rfl | rfl | rfl <;> rfl

theorem skipBlanks_cons (mark : Char) (solid : isBlank mark = false) :
    skipBlanks (mark :: text) = mark :: text := by
  simp [skipBlanks, solid]

theorem skipBlanks_mark (mark : Char) (solid : isBlank mark = false) (blank : Blank blanks) :
    skipBlanks (blanks ++ mark :: text) = mark :: text := by
  rw [skipBlanks_append blank, skipBlanks_cons mark solid]

theorem skipBlanks_blank (blank : Blank blanks) : skipBlanks blanks = [] := by
  rw [← List.append_nil blanks, skipBlanks_append blank]
  rfl

theorem skipBlanks_skipBlanks : skipBlanks (skipBlanks text) = skipBlanks text := by
  unfold skipBlanks
  induction text with
  | nil => rfl
  | cons c text ih =>
    cases solid : isBlank c with
    | true => simpa [solid] using ih
    | false => simp [solid]

theorem after_mark (mark : Char) (solid : isBlank mark = false) (blank : Blank blanks) :
    after mark (blanks ++ mark :: text) = some text := by
  simp [after, skipBlanks_mark mark solid blank]

end Blanks

section Strings

variable {pieces before : List Piece} {text key rest : List Char}

theorem HexDigit.hexValue? {c : Char} {value : Nat} (digit : HexDigit c value) :
    hexValue? c = some value := by
  have small : value < 16 := by
    rcases digit with lower | upper
    · exact (List.getElem?_eq_some_iff.mp lower).1
    · exact (List.getElem?_eq_some_iff.mp upper).1
  have lower : ∀ value : Fin 16,
      Text.hexValue? ("0123456789abcdef".toList.get value) = some value.val := by decide
  have upper : ∀ value : Fin 16,
      Text.hexValue? ("0123456789ABCDEF".toList.get value) = some value.val := by decide
  rcases digit with found | found
  · obtain ⟨_, rfl⟩ := List.getElem?_eq_some_iff.mp found
    exact lower ⟨value, small⟩
  · obtain ⟨_, rfl⟩ := List.getElem?_eq_some_iff.mp found
    exact upper ⟨value, small⟩

private theorem shortEscape?_of_mem {letter c : Char} (escape : (letter, c) ∈ shortEscapes) :
    shortEscape? letter = some c := by
  simp only [shortEscapes, List.mem_cons, List.not_mem_nil, or_false, Prod.mk.injEq] at escape
  rcases escape with ⟨rfl, rfl⟩ | ⟨rfl, rfl⟩ | ⟨rfl, rfl⟩ | ⟨rfl, rfl⟩ | ⟨rfl, rfl⟩ | ⟨rfl, rfl⟩ |
    ⟨rfl, rfl⟩ | ⟨rfl, rfl⟩ <;> rfl

private theorem hexCode?_digits {a b c d : Char} {i j k l : Nat} (first : HexDigit a i)
    (second : HexDigit b j) (third : HexDigit c k) (fourth : HexDigit d l) :
    hexCode? a b c d = some (i * 0x1000 + j * 0x100 + k * 0x10 + l) := by
  simp only [hexCode?, first.hexValue?, second.hexValue?, third.hexValue?, fourth.hexValue?,
    Option.bind_eq_bind, Option.bind_some, Option.pure_def, Option.some.injEq]
  omega

private theorem readPieces_plain {c : Char} (visible : 0x20 ≤ c.toNat) (unquoted : c ≠ '"' ∧ c ≠ '\\') :
    readPieces before (c :: rest) = readPieces (.char c :: before) rest := by
  rw [readPieces.eq_4, if_neg]
  · rintro (escape | hidden)
    · exact unquoted.2 escape
    · omega
  · exact unquoted.1
  · exact fun _ _ _ _ _ escape _ => unquoted.2 escape
  · exact fun _ _ escape _ => unquoted.2 escape

private theorem readPieces_short {letter c : Char} (escape : shortEscape? letter = some c) :
    readPieces before ('\\' :: letter :: rest) = readPieces (.char c :: before) rest := by
  rw [readPieces.eq_3]
  · rw [escape]
  · rintro _ _ _ _ _ rfl _
    cases escape

theorem readPieces_pieces (inside : Pieces pieces text) :
    readPieces before (text ++ '"' :: rest) = some (before.reverse ++ pieces, rest) := by
  induction inside generalizing before with
  | nil => simp [readPieces]
  | plain visible unquoted _ ih =>
    rw [List.cons_append, readPieces_plain visible unquoted, ih]
    simp
  | short escape _ ih =>
    rw [List.cons_append, List.cons_append, readPieces_short (shortEscape?_of_mem escape), ih]
    simp
  | code first second third fourth _ ih =>
    simp only [List.cons_append, readPieces, hexCode?_digits first second third fourth, ih]
    simp

private theorem joinPieces_code {n : Nat} (whole : n < 0xD800 ∨ 0xDFFF < n) :
    joinPieces (.code n :: pieces) = (joinPieces pieces).map (Char.ofNat n :: ·) := by
  cases pieces with
  | nil => simp [joinPieces, whole]
  | cons piece rest => cases piece <;> simp [joinPieces, whole]

private theorem joinPieces_stands (stands : Stands pieces key) : joinPieces pieces = some key := by
  induction stands with
  | nil => rfl
  | char _ ih => simp [joinPieces, ih]
  | @code c _ _ _ ih =>
    have whole : c.toNat < 0xD800 ∨ 0xDFFF < c.toNat := by
      rcases c.valid with low | high
      · exact .inl low
      · exact .inr high.1
    rw [joinPieces_code whole, ih]
    simp
  | @pair high low _ _ highHalf lowHalf _ ih =>
    -- A high half is itself no character, so that the reader looks at the number behind it.
    have halves : 0xD800 + high ≤ 0xDBFF ∧ 0xDC00 ≤ 0xDC00 + low ∧ 0xDC00 + low ≤ 0xDFFF := by omega
    have surrogate : ¬ (0xD800 + high < 0xD800 ∨ 0xDFFF < 0xD800 + high) := by omega
    rw [joinPieces, if_neg surrogate, if_pos halves, ih]
    simp

theorem readString_spells (spells : Spells text key) :
    readString (text ++ '"' :: rest) = some (key, rest) := by
  obtain ⟨pieces, inside, stands⟩ := spells
  simp [readString, readPieces_pieces inside, joinPieces_stands stands]

end Strings

def NoDigit (rest : List Char) : Prop :=
  ∀ c, rest.head? = some c → c.isDigit = false

def Follows (rest : List Char) : Prop :=
  ∀ c, rest.head? = some c → c.isDigit = false ∧ c ∉ ['.', 'e', 'E']

inductive Closes : Char → Prop
  | comma : Closes ','
  | bracket : Closes ']'
  | brace : Closes '\x7d'

section Numbers

variable {text fraction exponent rest : List Char}

private theorem NoDigit.cons {c : Char} (other : c.isDigit = false) : NoDigit (c :: rest) := by
  intro head first
  cases first
  exact other

private theorem Follows.noDigit (follows : Follows rest) : NoDigit rest :=
  fun c first => (follows c first).1

theorem follows_mark {blanks : List Char} {mark : Char} (blank : Blank blanks)
    (closing : Closes mark) : Follows (blanks ++ mark :: rest) := by
  intro c first
  cases blanks with
  | nil =>
    cases first
    cases closing <;> decide
  | cons head tail =>
    cases first
    have listed := blank _ (List.mem_cons_self ..)
    simp only [List.mem_cons, List.not_mem_nil, or_false] at listed
    rcases listed with rfl | rfl | rfl | rfl <;> decide

theorem Closes.solid {mark : Char} (closing : Closes mark) : isBlank mark = false := by
  cases closing <;> rfl

private theorem Digits.head (digits : Digits text) :
    ∃ c tail, text = c :: tail ∧ c.isDigit = true := by
  obtain ⟨some', all⟩ := digits
  cases text with
  | nil => exact absurd rfl some'
  | cons c tail => exact ⟨c, tail, rfl, all c (List.mem_cons_self ..)⟩

private theorem takeWhile_digits (all : ∀ c ∈ text, c.isDigit = true) (stop : NoDigit rest) :
    (text ++ rest).takeWhile Char.isDigit = text := by
  rw [List.takeWhile_append_of_pos all]
  cases rest with
  | nil => simp
  | cons c tail => simp [stop c rfl]

private theorem dropWhile_digits (all : ∀ c ∈ text, c.isDigit = true) (stop : NoDigit rest) :
    (text ++ rest).dropWhile Char.isDigit = rest := by
  rw [List.dropWhile_append_of_pos all]
  cases rest with
  | nil => rfl
  | cons c tail => simp [stop c rfl]

private theorem skipDigits_digits (digits : Digits text) (stop : NoDigit rest) :
    skipDigits (text ++ rest) = some rest := by
  obtain ⟨c, tail, rfl, digit⟩ := digits.head
  have tailDigits : ∀ c ∈ tail, c.isDigit = true :=
    fun c inside => digits.2 c (List.mem_cons_of_mem _ inside)
  simp [skipDigits, digit, dropWhile_digits tailDigits stop]

private theorem Digits.skipExponent (digits : Digits text) (stop : NoDigit rest) {mark : Char}
    {sign : List Char} (marked : mark ∈ ['e', 'E']) (signed : sign ∈ [[], ['+'], ['-']]) :
    skipExponent (mark :: (sign ++ (text ++ rest))) = some rest := by
  have passed := skipDigits_digits digits stop
  obtain ⟨c, tail, rfl, digit⟩ := digits.head
  -- Without a sign the reader has to see that the first digit is none.
  have plus : c ≠ '+' := by rintro rfl; cases digit
  have minus : c ≠ '-' := by rintro rfl; cases digit
  simp only [List.mem_cons, List.not_mem_nil, or_false] at marked signed
  rcases marked with rfl | rfl <;> rcases signed with rfl | rfl | rfl <;>
    simpa [Json.skipExponent, plus, minus] using passed

private theorem skipExponent_exponent (power : Exponent exponent) (follows : Follows rest) :
    skipExponent (exponent ++ rest) = some rest := by
  cases power with
  | absent =>
    cases rest with
    | nil => rfl
    | cons c tail =>
      obtain ⟨_, other⟩ := follows c rfl
      simp only [List.mem_cons, List.not_mem_nil, or_false, not_or] at other
      rw [List.nil_append, skipExponent.eq_7] <;> simp_all
  | present marked signed digits =>
    rw [List.cons_append, List.append_assoc]
    exact digits.skipExponent follows.noDigit marked signed

private theorem Exponent.head (power : Exponent exponent) (follows : Follows rest) (c : Char)
    (first : (exponent ++ rest).head? = some c) : c.isDigit = false ∧ c ≠ '.' := by
  cases power with
  | absent =>
    obtain ⟨other, unmarked⟩ := follows c first
    refine ⟨other, ?_⟩
    rintro rfl
    exact unmarked (List.mem_cons_self ..)
  | present marked =>
    cases first
    simp only [List.mem_cons, List.not_mem_nil, or_false] at marked
    rcases marked with rfl | rfl <;> decide

private theorem skipFraction_fraction (tail : Fraction fraction) (power : Exponent exponent)
    (follows : Follows rest) : skipFraction (fraction ++ (exponent ++ rest)) = some rest := by
  have passed := skipExponent_exponent power follows
  have head := power.head follows
  cases tail with
  | absent =>
    rw [List.nil_append, skipFraction.eq_2]
    · exact passed
    · intro tail same
      exact (head '.' (by rw [same]; rfl)).2 rfl
  | present digits =>
    rw [List.cons_append, skipFraction, skipDigits_digits digits fun c first => (head c first).1]
    exact passed

private theorem Fraction.noDigit (tail : Fraction fraction) (power : Exponent exponent)
    (follows : Follows rest) : NoDigit (fraction ++ (exponent ++ rest)) := by
  cases tail with
  | absent => exact fun c first => (power.head follows c first).1
  | present => exact NoDigit.cons rfl

private theorem skipMagnitude_number {whole : List Char} (units : Whole whole) (tail : Fraction fraction)
    (power : Exponent exponent) (follows : Follows rest) :
    skipMagnitude (whole ++ (fraction ++ (exponent ++ rest))) = some rest := by
  have passed := skipFraction_fraction tail power follows
  have stop := tail.noDigit power follows
  cases units with
  | zero =>
    have single : ((fraction ++ (exponent ++ rest)).headD ' ').isDigit = false := by
      cases next : fraction ++ (exponent ++ rest) with
      | nil => rfl
      | cons c text => exact stop c (by rw [next]; rfl)
    rw [List.cons_append, List.nil_append, skipMagnitude, single]
    exact passed
  | digits digits leading =>
    rw [skipMagnitude.eq_2, skipDigits_digits digits stop]
    · exact passed
    · obtain ⟨c, text, rfl, _⟩ := digits.head
      intro tail same
      cases same
      exact leading rfl

private theorem Whole.head {whole : List Char} (units : Whole whole) :
    ∃ c tail, whole = c :: tail ∧ c.isDigit = true := by
  cases units with
  | zero => exact ⟨'0', [], rfl, rfl⟩
  | digits digits _ => exact digits.head

end Numbers

section Scalars

variable {text rest : List Char}

private theorem ne_of_isDigit {c d : Char} (digit : c.isDigit = true) (other : d.isDigit = false) :
    c ≠ d := by
  rintro rfl
  rw [digit] at other
  cases other

theorem ScalarText.head (scalar : ScalarText text) :
    ∃ c tail, text = c :: tail ∧ isBlank c = false ∧ c ∉ ['[', ']', '\x7b', '\x7d'] := by
  cases scalar with
  | word known =>
    simp only [List.map_cons, List.map_nil, List.mem_cons, List.not_mem_nil, or_false] at known
    rcases known with rfl | rfl | rfl <;> exact ⟨_, _, rfl, by decide, by decide⟩
  | string inside => exact ⟨_, _, rfl, by decide, by decide⟩
  | number signed units tail power =>
    obtain ⟨c, whole, rfl, digit⟩ := units.head
    simp only [List.mem_cons, List.not_mem_nil, or_false] at signed
    rcases signed with rfl | rfl
    · refine ⟨_, _, rfl, ?_, ?_⟩
      · simp [isBlank, ne_of_isDigit digit]
      · simp [ne_of_isDigit digit]
    · exact ⟨_, _, rfl, by decide, by decide⟩

theorem skipScalar_scalar (scalar : ScalarText text) (follows : Follows rest) :
    skipScalar (text ++ rest) = some rest := by
  cases scalar with
  | word known =>
    simp only [List.map_cons, List.map_nil, List.mem_cons, List.not_mem_nil, or_false] at known
    rcases known with rfl | rfl | rfl <;> rfl
  | string inside =>
    simp [skipScalar, readPieces_pieces inside]
  | number signed units tail power =>
    have passed := skipMagnitude_number units tail power follows
    obtain ⟨c, whole, rfl, digit⟩ := units.head
    simp only [List.mem_cons, List.not_mem_nil, or_false] at signed
    rcases signed with rfl | rfl
    · simpa [skipScalar, ne_of_isDigit digit] using passed
    · simpa [skipScalar] using passed

end Scalars

inductive CountText (value : UInt32) : List Char → Prop
  | mk {before behind : List Char} (blank : Blank before) (blank' : Blank behind) :
      CountText value (before ++ (Nat.toDigits 10 value.toNat ++ behind))

section Counts

variable {text : List Char}

private theorem le_ofDigitChars {n : Nat} : n ≤ Nat.ofDigitChars 10 text n := by
  rw [Nat.ofDigitChars_eq_ofDigitChars_zero]
  exact Nat.le_add_right_of_le (Nat.le_mul_of_pos_left n (Nat.pow_pos (by decide)))

private theorem digitValue?_digit {c : Char} (digit : c.isDigit = true) :
    digitValue? 10 c = some (c.toNat - '0'.toNat) := by
  obtain ⟨low, high⟩ := Char.isDigit_iff_toNat.mp digit
  have between : '0' ≤ c ∧ c ≤ '9' := ⟨low, high⟩
  have below : c.toNat - '0'.toNat < 10 := by
    have nine : '9'.toNat = '0'.toNat + 9 := rfl
    omega
  simp only [digitValue?, hexValue?, between, and_self, if_true, Option.filter_some, below,
    decide_true]

private theorem readDigits_digits {limit read : Nat} {overrun : NumeralError}
    (all : ∀ c ∈ text, c.isDigit = true) (fits : Nat.ofDigitChars 10 text read ≤ limit) :
    readDigits 10 limit overrun read text = .ok (Nat.ofDigitChars 10 text read) := by
  induction text generalizing read with
  | nil => rfl
  | cons c text ih =>
    have next : 10 * read + (c.toNat - '0'.toNat) = read * 10 + (c.toNat - '0'.toNat) := by omega
    rw [Nat.ofDigitChars_cons, next] at fits ⊢
    have within : read * 10 + (c.toNat - '0'.toNat) ≤ limit := Nat.le_trans le_ofDigitChars fits
    simp only [readDigits, digitValue?_digit (all c (List.mem_cons_self ..)), within, if_true]
    exact ih (fun d inside => all d (List.mem_cons_of_mem _ inside)) fits

private theorem head_toDigits {n : Nat} (positive : 0 < n) : (Nat.toDigits 10 n).head? ≠ some '0' := by
  induction n using Nat.base_induction 10 (by decide) with
  | single m small =>
    rw [Nat.toDigits_of_lt_base small]
    simp only [List.head?_cons, ne_eq, Option.some.injEq, Nat.digitChar_eq_zero]
    omega
  | digit m k small more ih =>
    obtain ⟨c, tail, digits⟩ :=
      List.exists_cons_of_ne_nil (Nat.toDigits_ne_nil : Nat.toDigits 10 m ≠ [])
    rw [← Nat.toDigits_append_toDigits (by decide) more small, digits]
    rw [digits] at ih
    exact ih more

private theorem toDigits_canonical (n : Nat) :
    ¬ (Nat.toDigits 10 n = [] ∨
      ((Nat.toDigits 10 n).head? = some '0' ∧ Nat.toDigits 10 n ≠ ['0'])) := by
  rintro (none | ⟨zero, longer⟩)
  · exact Nat.toDigits_ne_nil none
  · rcases Nat.eq_zero_or_pos n with rfl | positive
    · exact longer rfl
    · exact head_toDigits positive zero

private theorem skipBlanks_toDigits {n : Nat} {rest : List Char} :
    skipBlanks (Nat.toDigits 10 n ++ rest) = Nat.toDigits 10 n ++ rest := by
  obtain ⟨c, tail, digits⟩ :=
    List.exists_cons_of_ne_nil (Nat.toDigits_ne_nil : Nat.toDigits 10 n ≠ [])
  have digit : c.isDigit = true := by
    have inside : c ∈ Nat.toDigits 10 n := by
      rw [digits]
      exact List.mem_cons_self ..
    exact Nat.isDigit_of_mem_toDigits (by decide) (by decide) inside
  rw [digits, List.cons_append, skipBlanks_cons c]
  simp [isBlank, ne_of_isDigit digit]

theorem readCount_count {value : UInt32} {mark : Char} (count : CountText value text)
    (closing : Closes mark) (rest : List Char) :
    ∃ left, readCount (text ++ mark :: rest) = some (value, left) ∧
      skipBlanks left = mark :: rest := by
  obtain @⟨before, behind, blank, blank'⟩ := count
  have follows : Follows (behind ++ mark :: rest) := follows_mark blank' closing
  have all : ∀ c ∈ Nat.toDigits 10 value.toNat, c.isDigit = true :=
    fun c inside => Nat.isDigit_of_mem_toDigits (by decide) (by decide) inside
  have unmarked : ¬ (behind ++ mark :: rest).head? ∈ [some '.', some 'e', some 'E'] := by
    cases first : (behind ++ mark :: rest).head? with
    | none => decide
    | some c => simpa using (follows c first).2
  have read : readDigits 10 0xFFFFFFFF .tooLarge 0 (Nat.toDigits 10 value.toNat) =
      .ok value.toNat := by
    have written : Nat.ofDigitChars 10 (Nat.toDigits 10 value.toNat) 0 = value.toNat :=
      Nat.ofDigitChars_ten_toDigits
    rw [readDigits_digits all, written]
    rw [written]
    exact Nat.le_of_lt_succ value.toNat_lt
  refine ⟨behind ++ mark :: rest, ?_, skipBlanks_mark mark closing.solid blank'⟩
  simp only [readCount, List.append_assoc, skipBlanks_append blank, skipBlanks_toDigits,
    takeWhile_digits all follows.noDigit, dropWhile_digits all follows.noDigit,
    if_neg (toDigits_canonical value.toNat), if_neg unmarked, read, UInt32.ofNat_toNat]

end Counts

end MouseControl.Json
