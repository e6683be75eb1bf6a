import MouseControl.Crash
import MouseControl.Limits
import MouseControl.Word

/-! Words in a block and the pieces it is cut into: both are read off by index, and a cut at an even
place goes through the words as it goes through the bytes. -/
namespace MouseControl

-- The numbers of the packet layout, for arithmetic on lengths and addresses.
theorem packetLength_eq : packetLength = 72 := rfl
theorem headerLength_eq : headerLength = 8 := rfl
theorem regionLength_eq : regionLength = 64 := rfl
theorem flashDataOffset_eq : flashDataOffset = 8 := rfl
theorem flashDataLength_eq : flashDataLength = 56 := rfl
theorem wordLength_eq : wordLength = 2 := rfl
theorem wordsPerPacket_eq : wordsPerPacket = 28 := rfl
theorem wordsPerRead_eq : wordsPerRead = 4 := rfl
theorem wordSpaceEnd_eq : wordSpaceEnd = 65536 := rfl
theorem dwordLength_eq : dwordLength = 4 := rfl
theorem dwordsPerPacket_eq : dwordsPerPacket = 14 := rfl
theorem dwordSpaceEnd_eq : dwordSpaceEnd = 4294967296 := rfl

@[simp] theorem length_wordBytes (word : UInt16) : (wordBytes word).length = 2 := rfl
@[simp] theorem length_dwordBytes (dword : UInt32) : (dwordBytes dword).length = 4 := rfl

theorem wordOf_bytes (word : UInt16) : wordOf word.toUInt8 (word >>> 8).toUInt8 = word := by
  apply UInt16.toNat_inj.mp
  have bound := word.toNat_lt
  simp only [wordOf, UInt16.toNat_or, UInt8.toNat_toUInt16, UInt16.toNat_shiftLeft,
    UInt16.toNat_toUInt8, UInt16.toNat_shiftRight]
  apply Nat.eq_of_testBit_eq
  intro i
  simp only [Nat.testBit_or, Nat.testBit_mod_two_pow, Nat.testBit_shiftLeft,
    Nat.testBit_shiftRight]
  have eight : (8 : UInt16).toNat % 16 = 8 := rfl
  rw [eight]
  by_cases low : i < 8
  · simp [low, Nat.not_le_of_gt low]
  by_cases high : i < 16
  · have shifted : 8 + (i - 8) = i := by omega
    have within : i - 8 < 8 := by omega
    simp [low, high, shifted, within, Nat.le_of_not_lt low]
  · have clear : word.toNat.testBit i = false := by
      apply Nat.testBit_lt_two_pow
      exact Nat.lt_of_lt_of_le bound (Nat.pow_le_pow_right (by decide) (by omega))
    simp [low, high, clear]

private theorem toNat_wordOf (low high : UInt8) :
    (wordOf low high).toNat = 256 * high.toNat + low.toNat := by
  have lowBound := low.toNat_lt
  have highBound := high.toNat_lt
  have eight : (8 : UInt16).toNat % 16 = 8 := rfl
  simp only [wordOf, UInt16.toNat_or, UInt8.toNat_toUInt16, UInt16.toNat_shiftLeft, eight]
  rw [show 256 = 2 ^ 8 from rfl, Nat.two_pow_add_eq_or_of_lt lowBound, Nat.or_comm, Nat.shiftLeft_eq,
    Nat.mul_comm, Nat.mod_eq_of_lt (by omega)]

theorem wordBytes_wordOf (low high : UInt8) : wordBytes (wordOf low high) = [low, high] := by
  have lowBound := low.toNat_lt
  have lowByte : (wordOf low high).toUInt8 = low := by
    apply UInt8.toNat_inj.mp
    rw [UInt16.toNat_toUInt8, toNat_wordOf]
    omega
  have highByte : (wordOf low high >>> 8).toUInt8 = high := by
    have highBound := high.toNat_lt
    have eight : (8 : UInt16).toNat % 16 = 8 := rfl
    apply UInt8.toNat_inj.mp
    rw [UInt16.toNat_toUInt8, UInt16.toNat_shiftRight, eight, toNat_wordOf, Nat.shiftRight_eq_div_pow]
    omega
  rw [wordBytes, lowByte, highByte]

private theorem toNat_dwordOf (b₀ b₁ b₂ b₃ : UInt8) :
    (dwordOf b₀ b₁ b₂ b₃).toNat =
      16777216 * b₃.toNat + (65536 * b₂.toNat + (256 * b₁.toNat + b₀.toNat)) := by
  have bound₀ := b₀.toNat_lt
  have bound₁ := b₁.toNat_lt
  have bound₂ := b₂.toNat_lt
  have bound₃ := b₃.toNat_lt
  have eight : (8 : UInt32).toNat % 32 = 8 := rfl
  have sixteen : (16 : UInt32).toNat % 32 = 16 := rfl
  have twentyFour : (24 : UInt32).toNat % 32 = 24 := rfl
  have low := Nat.shiftLeft_add_eq_or_of_lt bound₀ b₁.toNat
  have middle : b₂.toNat <<< 16 + (b₁.toNat <<< 8 + b₀.toNat) = _ :=
    Nat.shiftLeft_add_eq_or_of_lt (by rw [Nat.shiftLeft_eq]; omega) b₂.toNat
  have high : b₃.toNat <<< 24 + (b₂.toNat <<< 16 + (b₁.toNat <<< 8 + b₀.toNat)) = _ :=
    Nat.shiftLeft_add_eq_or_of_lt (by simp only [Nat.shiftLeft_eq]; omega) b₃.toNat
  calc (dwordOf b₀ b₁ b₂ b₃).toNat
      = b₃.toNat <<< 24 ||| (b₂.toNat <<< 16 ||| (b₁.toNat <<< 8 ||| b₀.toNat)) := by
        simp only [dwordOf, UInt32.toNat_or, UInt8.toNat_toUInt32, UInt32.toNat_shiftLeft, eight,
          sixteen, twentyFour, Nat.shiftLeft_eq]
        rw [Nat.mod_eq_of_lt (by omega), Nat.mod_eq_of_lt (by omega), Nat.mod_eq_of_lt (by omega)]
        ac_rfl
    _ = b₃.toNat <<< 24 + (b₂.toNat <<< 16 + (b₁.toNat <<< 8 + b₀.toNat)) := by
        rw [high, middle, low]
    _ = _ := by
        simp only [Nat.shiftLeft_eq]
        omega

theorem dwordOf_bytes (dword : UInt32) :
    dwordOf dword.toUInt8 (dword >>> 8).toUInt8 (dword >>> 16).toUInt8 (dword >>> 24).toUInt8 =
      dword := by
  apply UInt32.toNat_inj.mp
  have bound := dword.toNat_lt
  have eight : (8 : UInt32).toNat % 32 = 8 := rfl
  have sixteen : (16 : UInt32).toNat % 32 = 16 := rfl
  have twentyFour : (24 : UInt32).toNat % 32 = 24 := rfl
  simp only [toNat_dwordOf, UInt32.toNat_toUInt8, UInt32.toNat_shiftRight, eight, sixteen,
    twentyFour, Nat.shiftRight_eq_div_pow]
  omega

theorem words_cons (low high : UInt8) (rest : List UInt8) :
    words (low :: high :: rest) = wordOf low high :: words rest := rfl

@[simp] theorem words_wordBytes_append (word : UInt16) (rest : List UInt8) :
    words (wordBytes word ++ rest) = word :: words rest := by
  change wordOf word.toUInt8 (word >>> 8).toUInt8 :: words rest = _
  rw [wordOf_bytes]

theorem words_wordsBytes_append (ws : List UInt16) (rest : List UInt8) :
    words (wordsBytes ws ++ rest) = ws ++ words rest := by
  induction ws with
  | nil => rfl
  | cons word ws ih =>
    simp only [wordsBytes, List.flatMap_cons, List.append_assoc, List.cons_append]
    rw [words_wordBytes_append]
    exact congrArg (word :: ·) ih

theorem wordsBytes_words {bytes : List UInt8} (whole : bytes.length % 2 = 0) :
    wordsBytes (words bytes) = bytes := by
  fun_induction words bytes with
  | case1 low high rest ih =>
    simp only [List.length_cons] at whole
    simp only [wordsBytes, List.flatMap_cons, wordBytes_wordOf, List.cons_append, List.nil_append]
    exact congrArg (low :: high :: ·) (ih (by omega))
  | case2 bytes short =>
    rcases bytes with _ | ⟨low, _ | ⟨high, rest⟩⟩
    · rfl
    · simp at whole
    · exact absurd rfl (short low high rest)

theorem length_wordsBytes (ws : List UInt16) : (wordsBytes ws).length = 2 * ws.length := by
  induction ws with
  | nil => rfl
  | cons word ws ih =>
    simp only [wordsBytes, List.flatMap_cons, List.length_append, length_wordBytes] at ih ⊢
    rw [ih, List.length_cons]
    omega

theorem length_words (bytes : List UInt8) : (words bytes).length = bytes.length / 2 := by
  fun_induction words bytes with
  | case1 low high rest ih =>
    simp only [List.length_cons, ih]
    omega
  | case2 bytes short =>
    rcases bytes with _ | ⟨low, _ | ⟨high, rest⟩⟩
    · rfl
    · simp
    · exact absurd rfl (short low high rest)

theorem getElem?_words (bytes : List UInt8) (i : Nat) :
    (words bytes)[i]? =
      (bytes[2 * i]?).bind fun low => (bytes[2 * i + 1]?).map fun high => wordOf low high := by
  fun_induction words bytes generalizing i with
  | case1 low high rest ih =>
    cases i with
    | zero => rfl
    | succ i => simpa [Nat.mul_add, Nat.add_right_comm] using ih i
  | case2 bytes short =>
    rcases bytes with _ | ⟨low, _ | ⟨high, rest⟩⟩
    · simp
    · cases i <;> simp
    · exact absurd rfl (short low high rest)

theorem words_drop (bytes : List UInt8) (i : Nat) :
    words (bytes.drop (2 * i)) = (words bytes).drop i := by
  apply List.ext_getElem?
  intro j
  simp only [List.getElem?_drop, getElem?_words, Nat.mul_add, Nat.add_assoc]

theorem words_take (bytes : List UInt8) (i : Nat) :
    words (bytes.take (2 * i)) = (words bytes).take i := by
  apply List.ext_getElem?
  intro j
  by_cases below : j < i
  · simp only [List.getElem?_take_of_lt below, getElem?_words,
      List.getElem?_take_of_lt (by omega : 2 * j < 2 * i),
      List.getElem?_take_of_lt (by omega : 2 * j + 1 < 2 * i)]
  · simp only [getElem?_words, List.getElem?_take_eq_none (by omega : 2 * i ≤ 2 * j),
      List.getElem?_take_eq_none (by omega : i ≤ j), Option.bind_none]

section Pieces
variable {α : Type}

private theorem piecesUpTo_eq (size bound : Nat) (xs : List α) (pos : 0 < size)
    (enough : xs.length ≤ bound) : piecesUpTo size bound xs = pieces size xs := by
  have room : ∀ first second (xs : List α), xs.length ≤ first → xs.length ≤ second →
      piecesUpTo size first xs = piecesUpTo size second xs := by
    intro first
    induction first with
    | zero =>
      intro second xs short _
      have none : xs = [] := List.length_eq_zero_iff.mp (by omega)
      subst none
      cases second <;> rfl
    | succ first ih =>
      intro second xs short fits
      cases xs with
      | nil => cases second <;> rfl
      | cons x xs =>
        cases second with
        | zero => simp at fits
        | succ second =>
          simp only [piecesUpTo]
          congr 1
          simp only [List.length_cons] at short fits
          apply ih <;> simp only [List.length_drop, List.length_cons] <;> omega
  exact room _ _ _ enough (Nat.le_refl _)

@[simp] theorem pieces_nil (size : Nat) : pieces size ([] : List α) = [] := rfl

theorem pieces_of_ne_nil (size : Nat) (xs : List α) (pos : 0 < size) (some : xs ≠ []) :
    pieces size xs = xs.take size :: pieces size (xs.drop size) := by
  cases xs with
  | nil => contradiction
  | cons x xs =>
    change (x :: xs).take size :: piecesUpTo size xs.length ((x :: xs).drop size) = _
    rw [piecesUpTo_eq size _ _ pos (by simp only [List.length_drop, List.length_cons]; omega)]

theorem pieces_of_length_le (size : Nat) {xs : List α} (some : xs ≠ []) (short : xs.length ≤ size) :
    pieces size xs = [xs] := by
  have pos : 0 < size := Nat.lt_of_lt_of_le (List.length_pos_iff.mpr some) short
  rw [pieces_of_ne_nil size xs pos some, List.take_of_length_le short,
    List.drop_eq_nil_of_le short, pieces_nil]

theorem getElem?_pieces (size : Nat) (xs : List α) (i : Nat) (pos : 0 < size) :
    (pieces size xs)[i]? =
      if i * size < xs.length then some ((xs.drop (i * size)).take size) else none := by
  induction i generalizing xs with
  | zero =>
    cases xs with
    | nil => rfl
    | cons x xs => simp [pieces_of_ne_nil size (x :: xs) pos (by simp)]
  | succ i ih =>
    cases xs with
    | nil => simp
    | cons x xs =>
      rw [pieces_of_ne_nil size _ pos (by simp), List.getElem?_cons_succ, ih, List.length_drop,
        List.drop_drop, Nat.succ_mul, Nat.add_comm size]
      congr 1
      simp only [List.length_cons]
      exact propext ⟨fun h => by omega, fun h => by omega⟩

theorem getElem?_mapIdx_pieces {β : Type} (size : Nat) (xs : List α) (f : Nat → List α → β) (i : Nat)
    (pos : 0 < size) :
    ((pieces size xs).mapIdx f)[i]? =
      if i * size < xs.length then some (f i ((xs.drop (i * size)).take size)) else none := by
  rw [List.getElem?_mapIdx, getElem?_pieces size xs i pos]
  split <;> rfl

theorem length_of_mem_pieces {size : Nat} (pos : 0 < size) {xs piece : List α}
    (member : piece ∈ pieces size xs) : piece.length ≤ size := by
  obtain ⟨i, found⟩ := List.mem_iff_getElem?.mp member
  rw [getElem?_pieces size xs i pos] at found
  split at found
  · cases found
    exact List.length_take_le size _
  · cases found

theorem length_pieces (size : Nat) (xs : List α) (pos : 0 < size) :
    (pieces size xs).length = (xs.length + (size - 1)) / size := by
  generalize count : xs.length = n
  induction n using Nat.strongRecOn generalizing xs with
  | _ n ih =>
    cases xs with
    | nil =>
      subst count
      simp [Nat.div_eq_of_lt (by omega : size - 1 < size)]
    | cons x xs =>
      have positive : 0 < n := by rw [← count]; simp
      have rest : ((x :: xs).drop size).length = n - size := by rw [List.length_drop, count]
      rw [pieces_of_ne_nil size _ pos (by simp), List.length_cons, ih _ (by omega) _ rest,
        ← Nat.add_div_right _ pos]
      by_cases short : n ≤ size
      · rw [Nat.sub_eq_zero_of_le short, Nat.div_eq_of_lt_le (k := 1) (by omega) (by omega),
          Nat.div_eq_of_lt_le (k := 1) (by omega) (by omega)]
      · congr 1
        omega

end Pieces

theorem sum16_ofNat (address : UInt16) (offset : Nat) (fits : address.toNat + offset < 0x10000) :
    sum16 address (UInt16.ofNat offset) = .ok (address + UInt16.ofNat offset) := by
  have plain : (UInt16.ofNat offset).toNat = offset := UInt16.toNat_ofNat_of_lt' (by simp [UInt16.size]; omega)
  rw [sum16, plain, if_pos fits]

theorem sum32_ofNat (address : UInt32) (offset : Nat) (fits : address.toNat + offset < 0x100000000) :
    sum32 address (UInt32.ofNat offset) = .ok (address + UInt32.ofNat offset) := by
  have plain : (UInt32.ofNat offset).toNat = offset := UInt32.toNat_ofNat_of_lt' (by simp [UInt32.size]; omega)
  rw [sum32, plain, if_pos fits]

end MouseControl
