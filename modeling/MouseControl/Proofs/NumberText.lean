import Mathlib.Data.List.Forall2
import Mathlib.Data.Nat.Digits.Defs
import MouseControl.Cli.Number
import MouseControl.Proofs.JsonGrammar
import MouseControl.Proofs.LowerCase

/-! Numbers as text, in any number of digits. The grammar gives each text the number that it writes;
reading within a width gives that number exactly if it fits, and reads back what writing produces. -/
namespace MouseControl.Text
open Json (HexDigit)

def RadixDigit (radix : Nat) (c : Char) (value : Nat) : Prop :=
  HexDigit c value ∧ value < radix

def Writes (radix : Nat) (text : List Char) (n : Nat) : Prop :=
  text ≠ [] ∧ ∃ values, List.Forall₂ (RadixDigit radix) text values ∧
    Nat.ofDigits radix values.reverse = n

inductive Numeral (radix : Nat) : List Char → Nat → Prop
  | plain {text : List Char} {n : Nat} (digits : Writes radix text n) : Numeral radix text n
  | signed {text : List Char} {n : Nat} (digits : Writes radix text n) : Numeral radix ('+' :: text) n

variable {radix limit read n value : Nat} {c : Char} {text : List Char} {overrun : NumeralError}

theorem hexValue?_ascii (digit : hexValue? c = some value) : c.toNat < 128 := by
  unfold hexValue? at digit
  split at digit
  · rename_i between
    exact Nat.lt_of_le_of_lt between.2 (by decide)
  · split at digit
    · rename_i between
      exact Nat.lt_of_le_of_lt between.2 (by decide)
    · split at digit
      · rename_i between
        exact Nat.lt_of_le_of_lt between.2 (by decide)
      · cases digit

theorem hexValue?_eq_some_iff : hexValue? c = some value ↔ HexDigit c value := by
  constructor
  · intro digit
    exact forall_ascii (fun c => ∀ value ∈ hexValue? c,
      "0123456789abcdef".toList[value]? = some c ∨ "0123456789ABCDEF".toList[value]? = some c)
      (by decide) (hexValue?_ascii digit) value digit
  · exact HexDigit.hexValue?

theorem forall_hexDigit (property : Char → Nat → Prop)
    (checked : ∀ n < 128, ∀ value ∈ hexValue? (Char.ofNat n), property (Char.ofNat n) value)
    (digit : HexDigit c value) : property c value := by
  have read := digit.hexValue?
  exact forall_ascii (fun c => ∀ value ∈ hexValue? c, property c value) checked (hexValue?_ascii read)
    value read

private theorem digitValue?_eq_some_iff :
    digitValue? radix c = some value ↔ RadixDigit radix c value := by
  rw [digitValue?, Option.filter_eq_some_iff, hexValue?_eq_some_iff, decide_eq_true_eq, RadixDigit]

private theorem ofDigits_carry (radix digit read : Nat) (values : List Nat) :
    Nat.ofDigits radix (values ++ [digit, read]) =
      Nat.ofDigits radix (values ++ [read * radix + digit]) := by
  rw [Nat.ofDigits_append, Nat.ofDigits_append, Nat.ofDigits_cons, Nat.ofDigits_singleton,
    Nat.ofDigits_singleton, Nat.mul_comm radix read, Nat.add_comm digit]

private theorem le_ofDigits (positive : 0 < radix) (values : List Nat) (read : Nat) :
    read ≤ Nat.ofDigits radix (values ++ [read]) := by
  rw [Nat.ofDigits_append, Nat.ofDigits_singleton]
  exact Nat.le_add_left_of_le (Nat.le_mul_of_pos_left read (Nat.pow_pos positive))

private theorem readDigits_eq_ok_iff (positive : 0 < radix) (within : read ≤ limit) :
    readDigits radix limit overrun read text = .ok n ↔
      ∃ values, List.Forall₂ (RadixDigit radix) text values ∧
        Nat.ofDigits radix (values.reverse ++ [read]) = n ∧ n ≤ limit := by
  induction text generalizing read with
  | nil =>
    simp only [readDigits, Except.ok.injEq, List.forall₂_nil_left_iff, exists_eq_left,
      List.reverse_nil, List.nil_append, Nat.ofDigits_singleton]
    constructor
    · rintro rfl
      exact ⟨rfl, within⟩
    · exact And.left
  | cons c rest ih =>
    rw [readDigits]
    constructor
    · intro passed
      cases digit : digitValue? radix c with
      | none =>
        rw [digit] at passed
        cases passed
      | some value =>
        simp only [digit] at passed
        split at passed
        · rename_i fits
          obtain ⟨values, digits, written, bounded⟩ := (ih fits).mp passed
          refine ⟨value :: values, .cons (digitValue?_eq_some_iff.mp digit) digits, ?_, bounded⟩
          rw [List.reverse_cons, List.append_assoc]
          exact (ofDigits_carry radix value read values.reverse).trans written
        · cases passed
    · rintro ⟨values, digits, written, bounded⟩
      obtain ⟨value, others, digit, tail, rfl⟩ := List.forall₂_cons_left_iff.mp digits
      rw [List.reverse_cons, List.append_assoc] at written
      have carried := (ofDigits_carry radix value read others.reverse).symm.trans written
      have fits : read * radix + value ≤ limit := by
        apply Nat.le_trans (le_ofDigits positive others.reverse _)
        rwa [carried]
      simp only [digitValue?_eq_some_iff.mpr digit, if_pos fits]
      exact (ih fits).mpr ⟨others, tail, carried, bounded⟩

private theorem not_radixDigit_plus : ¬ RadixDigit radix '+' value := by
  intro digit
  cases digit.1.hexValue?

theorem Writes.digit (written : Writes radix text n) (inside : c ∈ text) :
    ∃ value, RadixDigit radix c value := by
  obtain ⟨-, values, digits, -⟩ := written
  induction digits with
  | nil => cases inside
  | cons digit _ ih =>
    rcases List.mem_cons.mp inside with rfl | later
    · exact ⟨_, digit⟩
    · exact ih later

private theorem readDigits_zero_iff (positive : 0 < radix) (some : text ≠ []) :
    readDigits radix limit overrun 0 text = .ok n ↔ Writes radix text n ∧ n ≤ limit := by
  rw [readDigits_eq_ok_iff positive (Nat.zero_le limit), Writes]
  simp only [Nat.ofDigits_append, Nat.ofDigits_singleton, Nat.mul_zero, Nat.add_zero, ne_eq, some,
    not_false_eq_true, true_and]
  constructor
  · rintro ⟨values, digits, written, bounded⟩
    exact ⟨⟨values, digits, written⟩, bounded⟩
  · rintro ⟨⟨values, digits, written⟩, bounded⟩
    exact ⟨values, digits, written, bounded⟩

private theorem numeral_plus_iff : Numeral radix ('+' :: text) n ↔ Writes radix text n := by
  constructor
  · intro numeral
    cases numeral with
    | plain digits =>
      obtain ⟨_, digit⟩ := digits.digit List.mem_cons_self
      exact absurd digit not_radixDigit_plus
    | signed digits => exact digits
  · exact .signed

private theorem numeral_plain_iff (unsigned : text.head? ≠ some '+') :
    Numeral radix text n ↔ Writes radix text n := by
  constructor
  · intro numeral
    cases numeral with
    | plain digits => exact digits
    | signed digits => exact absurd rfl unsigned
  · exact .plain

private theorem readUnsigned_eq_ok_iff (positive : 0 < radix) :
    readUnsigned radix limit text = .ok n ↔ Numeral radix text n ∧ n ≤ limit := by
  unfold readUnsigned
  split
  · rw [numeral_plain_iff (by simp)]
    exact iff_of_false (by simp) fun written => written.1.1 rfl
  · rw [numeral_plus_iff]
    exact iff_of_false (by simp) fun written => written.1.1 rfl
  · rename_i digits some
    rw [numeral_plus_iff]
    exact readDigits_zero_iff positive some
  · rename_i digits some _ unsigned
    rw [numeral_plain_iff]
    · exact readDigits_zero_iff positive some
    · intro head
      obtain ⟨tail, rfl⟩ := List.head?_eq_some_iff.mp head
      exact unsigned tail rfl

section Writing

private theorem hexDigit_digitChar (small : value < 16) : HexDigit value.digitChar value := by
  have digits : ∀ value : Fin 16, "0123456789abcdef".toList[value.val]? = some value.val.digitChar := by
    decide
  exact .inl (digits ⟨value, small⟩)

private theorem RadixDigit.toUpper (digit : RadixDigit radix c value) :
    RadixDigit radix c.toUpper value := by
  have read := forall_hexDigit (fun c value => hexValue? c.toUpper = some value) (by decide) digit.1
  exact ⟨hexValue?_eq_some_iff.mp read, digit.2⟩

private theorem Writes.snoc (written : Writes radix text n) (digit : RadixDigit radix c value) :
    Writes radix (text ++ [c]) (radix * n + value) := by
  obtain ⟨_, values, digits, rfl⟩ := written
  refine ⟨by simp, values ++ [value], List.rel_append digits (.cons digit .nil), ?_⟩
  rw [List.reverse_append, List.reverse_singleton, List.singleton_append, Nat.ofDigits_cons]
  exact Nat.add_comm _ _

private theorem writes_toDigits (several : 1 < radix) (few : radix ≤ 16) (n : Nat) :
    Writes radix (Nat.toDigits radix n) n := by
  induction n using Nat.base_induction radix several with
  | single m small =>
    have digit : RadixDigit radix m.digitChar m := ⟨hexDigit_digitChar (by omega), small⟩
    rw [Nat.toDigits_of_lt_base small]
    exact ⟨by simp, [m], .cons digit .nil, Nat.ofDigits_singleton⟩
  | digit m k small more ih =>
    rw [← Nat.toDigits_append_toDigits several more small, Nat.toDigits_of_lt_base small]
    exact ih.snoc ⟨hexDigit_digitChar (by omega), small⟩

private theorem Writes.map_toUpper (written : Writes radix text n) :
    Writes radix (text.map Char.toUpper) n := by
  obtain ⟨some, values, digits, written⟩ := written
  refine ⟨by simpa using some, values, ?_, written⟩
  rw [List.forall₂_map_left_iff]
  exact digits.imp fun _ _ digit => digit.toUpper

private theorem Writes.zero (positive : 0 < radix) (written : Writes radix text n) :
    Writes radix ('0' :: text) n := by
  obtain ⟨_, values, digits, written⟩ := written
  refine ⟨by simp, 0 :: values, .cons ⟨.inl rfl, positive⟩ digits, ?_⟩
  rw [List.reverse_cons, Nat.ofDigits_append, Nat.ofDigits_singleton, Nat.mul_zero, Nat.add_zero,
    written]

private theorem Writes.zeros (positive : 0 < radix) (written : Writes radix text n) (count : Nat) :
    Writes radix (List.replicate count '0' ++ text) n := by
  induction count with
  | zero => exact written
  | succ count ih =>
    rw [List.replicate_succ, List.cons_append]
    exact ih.zero positive

private theorem writes_decimal (n : Nat) : Writes 10 (decimal n).toList n := by
  rw [decimal, String.toList_ofList]
  exact writes_toDigits (by decide) (by decide) n

private theorem writes_lowerHex (width n : Nat) : Writes 16 (lowerHex width n).toList n := by
  rw [lowerHex, String.toList_ofList]
  exact (writes_toDigits (by decide) (by decide) n).zeros (by decide) _

theorem writes_upperHex (width n : Nat) : Writes 16 (upperHex width n).toList n := by
  rw [upperHex, String.toList_ofList]
  exact (writes_toDigits (by decide) (by decide) n).map_toUpper.zeros (by decide) _

end Writing

end MouseControl.Text

namespace MouseControl.Cli
open Text
variable {text : List Char} {n : Nat} {width : Width}

inductive NumberText : List Char → Nat → Prop
  | decimal {text : List Char} {n : Nat} (numeral : Numeral 10 text n) : NumberText text n
  | hexadecimal {mark : Char} {text : List Char} {n : Nat} (marked : mark = 'x' ∨ mark = 'X')
      (numeral : Numeral 16 text n) : NumberText ('0' :: mark :: text) n

private theorem numberText_marked_iff {mark : Char} (marked : mark = 'x' ∨ mark = 'X') :
    NumberText ('0' :: mark :: text) n ↔ Numeral 16 text n := by
  constructor
  · intro number
    cases number with
    | decimal numeral =>
      rw [numeral_plain_iff (by simp)] at numeral
      obtain ⟨value, digit⟩ := numeral.digit (List.mem_cons_of_mem '0' List.mem_cons_self)
      have read := hexValue?_eq_some_iff.mpr digit.1
      rcases marked with rfl | rfl <;> cases read
    | hexadecimal _ numeral => exact numeral
  · exact .hexadecimal marked

private theorem readNumeral_eq_ok_iff :
    readNumeral text = .ok n ↔ NumberText text n ∧ n ≤ 0xFFFFFFFFFFFFFFFF := by
  unfold readNumeral
  split
  · rw [readUnsigned_eq_ok_iff (by decide), numberText_marked_iff (.inl rfl)]
  · rw [readUnsigned_eq_ok_iff (by decide), numberText_marked_iff (.inr rfl)]
  · rename_i small capital
    rw [readUnsigned_eq_ok_iff (by decide)]
    refine and_congr_left fun _ => ⟨.decimal, ?_⟩
    intro number
    cases number with
    | decimal numeral => exact numeral
    | hexadecimal marked numeral =>
      rcases marked with rfl | rfl
      · exact absurd rfl (small _)
      · exact absurd rfl (capital _)

private theorem readNumber_eq_ok_iff {text : String} :
    readNumber width text = .ok n ↔ NumberText text.toList n ∧ n < Nat.pow 2 width.bits := by
  -- Every width is below the 64 bits in which a number is read, so the limit there adds nothing.
  have narrow : Nat.pow 2 width.bits ≤ 0xFFFFFFFFFFFFFFFF := by cases width <;> decide
  have reading : readNumeral text.toList = .ok n ∧ n < Nat.pow 2 width.bits ↔
      NumberText text.toList n ∧ n < Nat.pow 2 width.bits := by
    rw [readNumeral_eq_ok_iff, and_assoc]
    exact and_congr_right fun _ => ⟨And.right, fun fits => ⟨by omega, fits⟩⟩
  rw [← reading, readNumber]
  cases readNumeral text.toList with
  | error error => simp
  | ok m =>
    simp only [Except.ok.injEq]
    split
    · rename_i fits
      simp only [Except.ok.injEq]
      exact ⟨fun same => ⟨same, same ▸ fits⟩, And.left⟩
    · rename_i wide
      exact iff_of_false (by simp) fun ⟨same, fits⟩ => wide (same ▸ fits)

def writings (width n : Nat) : List String :=
  [decimal n, "0x" ++ lowerHex width n, "0x" ++ upperHex width n, "0X" ++ lowerHex width n,
    "0X" ++ upperHex width n]

theorem numberText_writings {width : Nat} {text : String} (written : text ∈ writings width n) :
    NumberText text.toList n := by
  have marked {mark : Char} (either : mark = 'x' ∨ mark = 'X') {digits : String}
      (writes : Writes 16 digits.toList n) : NumberText ('0' :: mark :: digits.toList) n :=
    .hexadecimal either (.plain writes)
  simp only [writings, List.mem_cons, List.not_mem_nil, or_false] at written
  rcases written with rfl | rfl | rfl | rfl | rfl
  · exact .decimal (.plain (writes_decimal n))
  · rw [String.toList_append]
    exact marked (.inl rfl) (writes_lowerHex width n)
  · rw [String.toList_append]
    exact marked (.inl rfl) (writes_upperHex width n)
  · rw [String.toList_append]
    exact marked (.inr rfl) (writes_lowerHex width n)
  · rw [String.toList_append]
    exact marked (.inr rfl) (writes_upperHex width n)

/-- A reader of numbers below a bound: it gives the number that a text writes, exactly if that is below
the bound, and it reads back all writings of what it gives. -/
structure ExactBelow {α : Type} (bound : Nat) (toNat : α → Nat)
    (read : String → Except NumberError α) : Prop where
  reads : ∀ text n, (∃ value, read text = .ok value ∧ toNat value = n) ↔
    NumberText text.toList n ∧ n < bound
  rereads : ∀ value width, ∀ text ∈ writings width (toNat value), read text = .ok value

private theorem narrowed_iff {α : Type} {ofNat : Nat → α} {toNat : α → Nat}
    (kept : ∀ n < Nat.pow 2 width.bits, toNat (ofNat n) = n) (text : String) (n : Nat) :
    (∃ value, (readNumber width text).map ofNat = .ok value ∧ toNat value = n) ↔
      NumberText text.toList n ∧ n < Nat.pow 2 width.bits := by
  rw [← readNumber_eq_ok_iff]
  cases read : readNumber width text with
  | error error => simp [Except.map]
  | ok m =>
    have fits := (readNumber_eq_ok_iff.mp read).2
    simp [Except.map, kept m fits]

private theorem exactBelow_narrowed (width : Width) {α : Type} {ofNat : Nat → α} {toNat : α → Nat}
    (kept : ∀ n < Nat.pow 2 width.bits, toNat (ofNat n) = n)
    (injective : ∀ value other, toNat value = toNat other → value = other)
    (below : ∀ value, toNat value < Nat.pow 2 width.bits) :
    ExactBelow (Nat.pow 2 width.bits) toNat fun text => (readNumber width text).map ofNat := by
  refine ⟨narrowed_iff kept, ?_⟩
  intro value pad text written
  obtain ⟨found, read, same⟩ :=
    (narrowed_iff kept text (toNat value)).mpr ⟨numberText_writings written, below value⟩
  rwa [← injective found value same]

theorem exactBelow_readByte : ExactBelow 256 UInt8.toNat readByte :=
  exactBelow_narrowed .byte (fun _ fits => UInt8.toNat_ofNat_of_lt fits)
    (fun _ _ => UInt8.toNat_inj.mp) UInt8.toNat_lt

private theorem exactBelow_readWord : ExactBelow 65536 UInt16.toNat readWord :=
  exactBelow_narrowed .word (fun _ fits => UInt16.toNat_ofNat_of_lt fits)
    (fun _ _ => UInt16.toNat_inj.mp) UInt16.toNat_lt

private theorem exactBelow_readDword : ExactBelow 4294967296 UInt32.toNat readDword :=
  exactBelow_narrowed .dword (fun _ fits => UInt32.toNat_ofNat_of_lt fits)
    (fun _ _ => UInt32.toNat_inj.mp) UInt32.toNat_lt

/-- Numbers of eight, sixteen and thirty-two bits are read exactly, however many digits they have. -/
theorem numbers_read_exactly :
    ExactBelow 256 UInt8.toNat readByte ∧ ExactBelow 65536 UInt16.toNat readWord ∧
      ExactBelow 4294967296 UInt32.toNat readDword :=
  ⟨exactBelow_readByte, exactBelow_readWord, exactBelow_readDword⟩

end MouseControl.Cli
