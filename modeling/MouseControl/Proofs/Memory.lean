import MouseControl.Mouse.Memory

/-! Cells after words were stored one after another: the cells of the range that are not stuck hold the
new words, all others what they held. -/
namespace MouseControl.Memory

private theorem offset_succ (address : UInt32) (i : Nat) :
    address + UInt32.ofNat (i + 1) = address + 1 + UInt32.ofNat i := by
  rw [Nat.add_comm, UInt32.ofNat_add, UInt32.add_assoc]
  rfl

theorem offset_injective {address : UInt32} {i j : Nat} (left : i < 0x100000000) (right : j < 0x100000000)
    (same : address + UInt32.ofNat i = address + UInt32.ofNat j) : i = j := by
  have equal := congrArg UInt32.toNat same
  simp only [UInt32.toNat_add, UInt32.toNat_ofNat'] at equal
  omega

theorem storeWords_append (stuck : List UInt32) (address : UInt32) (first second : List UInt16)
    (memory : Memory) :
    storeWords stuck address (first ++ second) memory =
      storeWords stuck (address + UInt32.ofNat first.length) second
        (storeWords stuck address first memory) := by
  induction first generalizing address memory with
  | nil =>
    rw [List.length_nil, show UInt32.ofNat 0 = 0 from rfl, UInt32.add_zero]
    rfl
  | cons value first ih =>
    rw [List.cons_append, storeWords, ih, List.length_cons, offset_succ]
    rfl

theorem word_storeWords_outside {stuck : List UInt32} {address place : UInt32}
    {values : List UInt16} {memory : Memory}
    (outside : ∀ i < values.length, place = address + UInt32.ofNat i → place ∈ stuck) :
    (storeWords stuck address values memory).word place = memory.word place := by
  induction values generalizing address memory with
  | nil => rfl
  | cons value rest ih =>
    rw [storeWords, ih]
    · split
      · rfl
      · rename_i free
        have apart : address ≠ place := by
          rintro rfl
          exact free (outside 0 (by simp) (UInt32.add_zero _).symm)
        rw [word_store, if_neg apart]
    · intro i below same
      exact outside (i + 1) (by simpa using below) (by rw [offset_succ, same])

theorem word_storeWords_inside {stuck : List UInt32} {address : UInt32} {values : List UInt16}
    {memory : Memory} {i : Nat} {value : UInt16} (bound : values.length ≤ 0x100000000)
    (stored : values[i]? = some value) (free : address + UInt32.ofNat i ∉ stuck) :
    (storeWords stuck address values memory).word (address + UInt32.ofNat i) = value := by
  induction values generalizing address memory i with
  | nil => simp at stored
  | cons first rest ih =>
    rw [List.length_cons] at bound
    cases i with
    | zero =>
      have here : address + UInt32.ofNat 0 = address := UInt32.add_zero address
      rw [here] at free ⊢
      rw [storeWords, word_storeWords_outside, if_neg free, word_store, if_pos rfl]
      · simpa using stored
      -- No later cell of the range is the first one again.
      · intro j below same
        rw [← offset_succ, ← here, UInt32.add_assoc, ← UInt32.ofNat_add, Nat.zero_add] at same
        cases offset_injective (by decide) (by omega) same
    | succ i =>
      rw [offset_succ] at free ⊢
      rw [storeWords]
      exact ih (by omega) (by simpa using stored) free

theorem getElem?_load (memory : Memory) (address : UInt32) {count i : Nat} (below : i < count) :
    (memory.load address count)[i]? = some (memory.word (address + UInt32.ofNat i)) := by
  induction count generalizing address i with
  | zero => cases below
  | succ count ih =>
    cases i with
    | zero => rw [show address + UInt32.ofNat 0 = address from UInt32.add_zero address]; rfl
    | succ i =>
      rw [load, List.getElem?_cons_succ, ih (address + 1) (by omega), offset_succ]

theorem load_add (memory : Memory) (address : UInt32) (first second : Nat) :
    memory.load address (first + second) =
      memory.load address first ++ memory.load (address + UInt32.ofNat first) second := by
  induction first generalizing address with
  | zero =>
    rw [Nat.zero_add, show address + UInt32.ofNat 0 = address from UInt32.add_zero address]
    rfl
  | succ first ih => rw [Nat.add_right_comm, load, ih, offset_succ, load, List.cons_append]

theorem load_storeWords {address : UInt32} {values : List UInt16} {memory : Memory} {k count : Nat}
    (bound : values.length ≤ 0x100000000) (inside : k + count ≤ values.length) :
    (storeWords [] address values memory).load (address + UInt32.ofNat k) count =
      (values.drop k).take count := by
  apply List.ext_getElem?
  intro i
  by_cases below : i < count
  · have place : address + UInt32.ofNat k + UInt32.ofNat i = address + UInt32.ofNat (k + i) := by
      rw [UInt32.add_assoc, ← UInt32.ofNat_add]
    have stored := List.getElem?_eq_getElem (by omega : k + i < values.length)
    rw [getElem?_load _ _ below, place, word_storeWords_inside bound stored (by simp),
      List.getElem?_take_of_lt below, List.getElem?_drop, stored]
  · rw [List.getElem?_take_eq_none (by omega), List.getElem?_eq_none]
    rw [length_load]
    omega

end MouseControl.Memory
