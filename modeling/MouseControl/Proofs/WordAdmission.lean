import MouseControl.Mouse.Basic
import MouseControl.Proofs.Deed
import MouseControl.Proofs.WordPackets

/-! Which writes of words are let through. What does not fit the word space is to be turned down before
the first call. The words are counted in 32 bits, however, so that a write of some eight gigabytes can be
taken for one that fits, or crash where the count is added to its address. -/
namespace MouseControl.Flash
variable {σ : Type} {address : UInt16} {data : List UInt8} {made : List Contact}
  {result : Except Halt Unit}

def Unfit (address : UInt16) (data : List UInt8) : Prop :=
  data = [] ∨ data.length % 2 ≠ 0 ∨ 0x10000 < address.toNat + data.length / 2

/-- Where a write of words is taken to end. -/
def countedEnd (address : UInt16) (data : List UInt8) : Nat :=
  address.toNat + data.length / 2 % 0x100000000

/-- Whole words that leave the space, and whose count hides it or does not go with the address. -/
def Miscounted (address : UInt16) (data : List UInt8) : Prop :=
  data.length % 2 = 0 ∧ 0x10000 < address.toNat + data.length / 2 ∧
    (countedEnd address data ≤ 0x10000 ∨ 0x100000000 ≤ countedEnd address data)

def refusal (data : List UInt8) : Halt := .failed (.invalidFlashPayloadLength data.length 2)

def Begins (address : UInt16) (data : List UInt8) (made : List Contact) : Prop :=
  ∃ answer rest, made =
    .write reportId (Request.write Opcode.flashWriteWords (wordsPayload address (data.take 56))).report
      answer :: rest

inductive Admission (address : UInt16) (data : List UInt8) : List Contact → Except Halt Unit → Prop where
  | broken (parts : data = [] ∨ data.length % 2 ≠ 0) : Admission address data [] (.error (refusal data))
  | refused (some : data ≠ []) (whole : data.length % 2 = 0) (far : 0x10000 < countedEnd address data)
      (counted : countedEnd address data < 0x100000000) : Admission address data [] (.error (refusal data))
  | crashed (some : data ≠ []) (whole : data.length % 2 = 0)
      (long : 0x100000000 ≤ countedEnd address data) :
      Admission address data [] (.error (.crashed .overflow))
  | begun {made : List Contact} {result : Except Halt Unit} (some : data ≠ [])
      (whole : data.length % 2 = 0) (near : countedEnd address data ≤ 0x10000)
      (begins : Begins address data made) : Admission address data made result

def Extending (made : List Contact) (first second : Traced σ) : Prop :=
  first = second ∧ made <+: second.contacts

private theorem traced_extending (link : Link σ) (device : Device) (made : List Contact) :
    Link.Alike device (Extending made) link.traced link.traced where
  write := by
    rintro traced _ id report ⟨rfl, before⟩
    exact ⟨rfl, rfl, before.trans (List.prefix_append _ _)⟩
  read := by
    rintro traced _ id length ⟨rfl, before⟩
    exact ⟨rfl, rfl, before.trans (List.prefix_append _ _)⟩

private theorem exchange_begins (link : Link σ) (device : Device) {request : Request}
    (fits : request.Fits) {later : Session (Traced σ) Unit}
    (extending : ∀ made, Session.Alike (Extending made) later later) (state : σ) :
    ∃ (result : Except Halt Unit) (left : σ) (made : List Contact),
      (execute link.traced device request >>= fun _ => later) ⟨state, []⟩ = (result, ⟨left, made⟩) ∧
      ∃ answer rest, made = .write reportId request.report answer :: rest := by
  obtain ⟨made, outcome, after, exchange, _, executed⟩ := execute_traced link device _ state fits []
  obtain ⟨answer, rest, rfl, _⟩ := exchange.begins
  cases outcome with
  | error error => exact ⟨_, _, _, Session.bind_error executed, answer, rest, rfl⟩
  | ok region =>
    rw [Session.bind_ok executed]
    obtain ⟨_, _, more, longer⟩ := extending _ _ _ ⟨rfl, List.prefix_refl _⟩
    exact ⟨_, _, _, rfl, answer, rest ++ more, longer.symm⟩

private theorem writeWords_broken (link : Link σ) (device : Device)
    (parts : data = [] ∨ data.length % 2 ≠ 0) (verify : Bool) (state : σ) :
    writeWords link device address data verify state = (.error (refusal data), state) := by
  rw [writeWords, checkPayloadLength]
  by_cases none : data.length = 0
  · rw [if_pos none]
    rfl
  · have odd : data.length % wordLength ≠ 0 :=
      parts.resolve_left fun empty => none (List.length_eq_zero_iff.mpr empty)
    rw [if_neg none, if_neg (by decide), if_pos odd]
    rfl

theorem sendWords_first (link : Link σ) (device : Device) (some : data ≠ []) :
    sendWords link device address 0 (pieces (wordsPerPacket * wordLength) data) = (do
      let _ ← execute link device (.write Opcode.flashWriteWords (wordsPayload address (data.take 56)))
      sendWords link device address 1 (pieces 56 (data.drop 56))) := by
  have cut : pieces (wordsPerPacket * wordLength) data = data.take 56 :: pieces 56 (data.drop 56) :=
    pieces_of_ne_nil 56 data (by decide) some
  have start : sum16 address (UInt16.ofNat (0 * wordsPerPacket)) = .ok address := by
    rw [sum16_ofNat address _ (by rw [Nat.zero_mul]; exact address.toNat_lt)]
    exact congrArg Except.ok (UInt16.add_zero address)
  rw [cut, sendWords_cons, start]
  rfl

private theorem sendWords_begins (link : Link σ) (device : Device) (some : data ≠ []) (verify : Bool)
    (state : σ) :
    ∃ (result : Except Halt Unit) (left : σ) (made : List Contact),
      (do
        sendWords link.traced device address 0 (pieces (wordsPerPacket * wordLength) data)
        if verify then verifyWords link.traced device address data) ⟨state, []⟩ =
          (result, ⟨left, made⟩) ∧
      Begins address data made := by
  rw [sendWords_first link.traced device some, bind_assoc]
  apply exchange_begins link device (wordsPayload_fits (List.length_take_le _ _))
  intro made
  have links := traced_extending link device made
  refine Session.alike_bind (sendWords_alike device links address 1 _) fun _ => ?_
  cases verify with
  | false => exact Session.alike_result _
  | true => exact verifyBlocks_alike device links address _ 0 _

theorem writeWords_admission (link : Link σ) (device : Device) (address : UInt16) (data : List UInt8)
    (verify : Bool) (state : σ) :
    ∃ (result : Except Halt Unit) (left : σ) (made : List Contact),
      writeWords link.traced device address data verify ⟨state, []⟩ = (result, ⟨left, made⟩) ∧
      Admission address data made result := by
  by_cases parts : data = [] ∨ data.length % 2 ≠ 0
  · exact ⟨_, state, [], writeWords_broken link.traced device parts verify _, .broken parts⟩
  have some : data ≠ [] := fun none => parts (.inl none)
  have whole : data.length % 2 = 0 := Decidable.byContradiction fun odd => parts (.inr odd)
  have length : data.length ≠ 0 := fun none => some (List.length_eq_zero_iff.mp none)
  have counted : address.toNat + data.length / 2 % 0x100000000 = countedEnd address data := rfl
  rw [writeWords_whole link.traced device length whole, counted, wordSpaceEnd_eq]
  by_cases long : 0x100000000 ≤ countedEnd address data
  · rw [if_pos long]
    exact ⟨_, state, [], rfl, .crashed some whole long⟩
  rw [if_neg long]
  by_cases far : 0x10000 < countedEnd address data
  · rw [if_pos far]
    exact ⟨_, state, [], rfl, .refused some whole far (Nat.not_le.mp long)⟩
  rw [if_neg far]
  obtain ⟨result, left, made, ran, begins⟩ := sendWords_begins link device some verify state
  exact ⟨result, left, made, ran, .begun some whole (Nat.not_lt.mp far) begins⟩

theorem Begins.ne_nil (begins : Begins address data made) : made ≠ [] := by
  obtain ⟨answer, rest, rfl⟩ := begins
  exact List.cons_ne_nil _ _

namespace Admission

private theorem fit_iff (admission : Admission address data made result)
    (sound : ¬ Miscounted address data) :
    (result = .error (refusal data) ∧ made = [] ↔ Unfit address data) ∧
      (¬ Unfit address data → Begins address data made) := by
  have counted : countedEnd address data = address.toNat + data.length / 2 % 0x100000000 := rfl
  cases admission with
  | broken parts =>
    have unfit : Unfit address data := parts.elim .inl fun odd => .inr (.inl odd)
    exact ⟨⟨fun _ => unfit, fun _ => ⟨rfl, rfl⟩⟩, fun fit => absurd unfit fit⟩
  | refused some whole far within =>
    have unfit : Unfit address data := .inr (.inr (by omega))
    exact ⟨⟨fun _ => unfit, fun _ => ⟨rfl, rfl⟩⟩, fun fit => absurd unfit fit⟩
  | crashed some whole long => exact absurd ⟨whole, by omega, .inr long⟩ sound
  | begun some whole near begins =>
    have fit : ¬ Unfit address data := by
      rintro (none | odd | far)
      · exact some none
      · exact odd whole
      · exact sound ⟨whole, far, .inl near⟩
    refine ⟨⟨?_, fun unfit => absurd unfit fit⟩, fun _ => begins⟩
    rintro ⟨_, untouched⟩
    exact absurd untouched begins.ne_nil

theorem miscounted (admission : Admission address data made result) (wrong : Miscounted address data) :
    (countedEnd address data ≤ 0x10000 ∧ Begins address data made) ∨
      (0x100000000 ≤ countedEnd address data ∧ result = .error (.crashed .overflow) ∧ made = []) := by
  obtain ⟨whole, far, counted⟩ := wrong
  cases admission with
  | broken parts =>
    rcases parts with rfl | odd
    · have small := address.toNat_lt
      change 0x10000 < address.toNat + 0 at far
      omega
    · exact absurd whole odd
  | refused some whole beyond within => omega
  | crashed some whole long => exact .inr ⟨long, rfl, rfl⟩
  | begun some whole near begins => exact .inl ⟨near, begins⟩

end Admission

private theorem Miscounted.unfit (wrong : Miscounted address data) : Unfit address data :=
  .inr (.inr wrong.2.1)

/-- A write of words is turned down without a call exactly if it is unfit, and begins with its first packet
else, as long as its words are not miscounted. Where they are, it is begun although it leaves the space, or
crashes before the first call. -/
theorem writeWords_admits_fit_iff (link : Link σ) (device : Device) (address : UInt16) (data : List UInt8)
    (verify : Bool) (state : σ) :
    ∃ (result : Except Halt Unit) (left : σ) (made : List Contact),
      writeWords link device address data verify state = (result, left) ∧
      writeWords link.traced device address data verify ⟨state, []⟩ = (result, ⟨left, made⟩) ∧
      ((result = .error (refusal data) ∧ made = [] ↔ Unfit address data) ∧
          (¬ Unfit address data → Begins address data made) ↔ ¬ Miscounted address data) ∧
      (Miscounted address data →
        (countedEnd address data ≤ 0x10000 ∧ Begins address data made) ∨
          (0x100000000 ≤ countedEnd address data ∧ result = .error (.crashed .overflow) ∧ made = [])) := by
  obtain ⟨result, left, made, traced, admission⟩ :=
    writeWords_admission link device address data verify state
  have plain : writeWords link device address data verify state = (result, left) := by
    obtain ⟨same, kept⟩ := Deed.perform_traced device link (.writeWords address data verify) state []
    change (writeWords link.traced device address data verify ⟨state, []⟩).1 = _ at same
    change (writeWords link.traced device address data verify ⟨state, []⟩).2.state = _ at kept
    rw [traced] at same kept
    exact Prod.ext same.symm kept.symm
  refine ⟨result, left, made, plain, traced, ⟨?_, admission.fit_iff⟩, admission.miscounted⟩
  rintro ⟨refused, _⟩ wrong
  obtain ⟨ended, untouched⟩ := refused.mpr wrong.unfit
  rcases admission.miscounted wrong with ⟨_, begins⟩ | ⟨_, crashed, _⟩
  · exact begins.ne_nil untouched
  · rw [crashed] at ended
    cases ended

-- The whole word space is let through from its start on, and turned down from one address further on.
theorem writeWords_admits_whole_space :
    let device : Device := ⟨0x09DA, 0x7F1B, "Bloody T50", ""⟩
    let data : List UInt8 := List.replicate 0x20000 7
    let write := fun address => writeWords Mouse.link.traced device address data true ⟨Mouse.fresh, []⟩
    Begins 0 data (write 0).2.contacts ∧ (write 1).1 = .error (refusal data) ∧
      (write 1).2.contacts = [] := by
  intro device data write
  have length : data.length = 0x20000 := List.length_replicate
  have sound {address : UInt16} (early : address ≤ 1) : ¬ Miscounted address data := by
    rintro ⟨_, _, counted⟩
    have small : address.toNat ≤ 1 := UInt16.le_iff_toNat_le.mp early
    rw [countedEnd, length] at counted
    omega
  obtain ⟨_, _, _, _, taken, tells, _⟩ :=
    writeWords_admits_fit_iff Mouse.link device 0 data true Mouse.fresh
  obtain ⟨_, _, _, _, turned, refused, _⟩ :=
    writeWords_admits_fit_iff Mouse.link device 1 data true Mouse.fresh
  have fit : ¬ Unfit 0 data := by
    rintro (none | odd | far)
    · rw [none] at length
      cases length
    · rw [length] at odd
      exact odd (by decide)
    · rw [length] at far
      exact absurd far (by decide)
  have unfit : Unfit 1 data := .inr (.inr (by rw [length]; decide))
  simp only [write, taken, turned]
  exact ⟨(tells.mpr (sound (by decide))).2 fit, (refused.mpr (sound (by decide))).1.mpr unfit⟩

-- Twice as many bytes as there are 32-bit numbers: the count of their words is cut to zero, and the
-- first packet goes out to the start of the space.
theorem writeWords_lets_through_unfit :
    let device : Device := ⟨0x09DA, 0x7F1B, "Bloody T50", "SN1"⟩
    let mouse := { Mouse.fresh with failWrites := [(0, .timeout "x")] }
    let data : List UInt8 := List.replicate 0x200000000 0
    Unfit 0 data ∧
      Begins 0 data (writeWords Mouse.link.traced device 0 data false ⟨mouse, []⟩).2.contacts := by
  intro device mouse data
  have length : data.length = 0x200000000 := List.length_replicate
  have wrong : Miscounted 0 data := by
    rw [Miscounted, countedEnd, length]
    decide
  obtain ⟨_, _, _, ran, admission⟩ := writeWords_admission Mouse.link device 0 data false mouse
  rw [ran]
  rcases admission.miscounted wrong with ⟨_, begins⟩ | ⟨long, _⟩
  · exact ⟨wrong.unfit, begins⟩
  · rw [countedEnd, length] at long
    exact absurd long (by decide)

end MouseControl.Flash
