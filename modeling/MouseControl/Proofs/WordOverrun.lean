import MouseControl.Proofs.CrashFree
import MouseControl.Proofs.WordAdmission

/-! Writes of words that go round the word space. Words that are miscounted can be let through, and the
offsets of their packets start over at zero after every round. From most addresses one of the sums on the
way then leaves 16 bits. There is no other way for an operation to crash after its first call. -/
namespace MouseControl
variable {σ : Type}

open Session
namespace Flash
variable {address : UInt16} {data : List UInt8} {verify : Bool} {index count : Nat}
  {chunks blocks : List (List UInt8)}

/-- A write that is let through although it leaves the space, from an address at which the sum for the
last packet of a round leaves 16 bits or, if it is read back, the sum for a word that differs. -/
def Overruns (address : UInt16) (data : List UInt8) (verify : Bool) : Prop :=
  Miscounted address data ∧ countedEnd address data ≤ 0x10000 ∧
    (if verify then 1 else 4) ≤ address.toNat

def Steady (address : UInt16) (index count : Nat) : Prop :=
  ∀ i < count, address.toNat + (index + i) * 28 % 0x10000 < 0x10000

private theorem steady_succ : Steady address index (count + 1) ↔
    address.toNat + index * 28 % 0x10000 < 0x10000 ∧ Steady address (index + 1) count := by
  constructor
  · intro steady
    refine ⟨steady 0 (by omega), fun i below => ?_⟩
    rw [Nat.add_assoc, Nat.add_comm 1]
    exact steady (i + 1) (by omega)
  · rintro ⟨here, later⟩ i below
    cases i with
    | zero => exact here
    | succ i =>
      rw [← Nat.add_assoc, Nat.add_right_comm]
      exact later i (by omega)

private theorem steady_of_small (small : address.toNat < 4) : Steady address index count := by
  intro i _
  -- The offsets are multiples of four.
  omega

private theorem sum16_wrapped (address : UInt16) (offset : Nat) :
    sum16 address (UInt16.ofNat offset) =
      if address.toNat + offset % 0x10000 < 0x10000 then .ok (address + UInt16.ofNat offset)
      else .error .overflow := by
  rw [sum16, UInt16.toNat_ofNat']

section Crash
variable (link : Link σ) (device : Device)

private theorem crashFree_within {α : Type} {session : Session σ α} (context : Error → Error)
    (fine : CrashFree session) : CrashFree (within context session) := by
  intro state crash same
  have never := fine state crash
  change (session state).1.mapError _ = _ at same
  rcases ended : (session state).1 with (error | other) | value
  · rw [ended] at same
    cases same
  · rw [ended] at same never
    cases same
    exact never rfl
  · rw [ended] at same
    cases same

private theorem sendWords_crashFree (steady : Steady address index chunks.length) :
    CrashFree (sendWords link device address index chunks) := by
  induction chunks generalizing index with
  | nil => exact crashFree_pure ()
  | cons chunk rest ih =>
    obtain ⟨here, later⟩ := steady_succ.mp steady
    rw [sendWords_cons, sum16_wrapped, wordsPerPacket_eq, if_pos here]
    exact (crashFree_guarded rfl).bind fun _ _ _ _ =>
      exchange_crashFree link device _ fun _ _ => ih later

private theorem checkBlock_crashFree {start : UInt16} {block : List UInt8}
    (room : start.toNat + 4 ≤ 0x10000) (short : block.length ≤ 8) (whole : block.length % 2 = 0) :
    CrashFree (checkBlock link device start block) := by
  refine (readEight_crashFree link device start).bind fun actual _ _ read => ?_
  have eight : actual.length = 8 := by
    obtain ⟨outcome, left, executed⟩ := execute_outcome link device
      (.query Opcode.flashRead8 (wordBytes start)) _
    rw [readEight_of_execute executed] at read
    cases outcome with
    | error error => cases read
    | ok region =>
      have long : region.length = 64 := execute_length executed
      cases read
      rw [List.length_take, List.length_drop, long, flashDataOffset_eq]
      rfl
  intro state crash same
  rcases compareWords_first start actual block 0 whole (by omega) (by omega) with
    ⟨fine, _⟩ | ⟨_, _, _, _, _, _, _, _, differs⟩
  · rw [fine] at same
    cases same
  · rw [differs] at same
    cases same

private theorem verifyBlocks_crashFree {total : Nat}
    (whole : ∀ block ∈ blocks, block.length ≤ 8 ∧ block.length % 2 = 0) :
    CrashFree (verifyBlocks link device 0 total index blocks) := by
  induction blocks generalizing index with
  | nil => exact crashFree_pure ()
  | cons block rest ih =>
    have room : (UInt16.ofNat (index * wordsPerRead)).toNat + 4 ≤ 0x10000 := by
      rw [UInt16.toNat_ofNat', wordsPerRead_eq]
      omega
    obtain ⟨short, even⟩ := whole block List.mem_cons_self
    rw [verifyBlocks, sum16_wrapped, UInt16.toNat_zero, Nat.zero_add,
      if_pos (Nat.mod_lt _ (by decide)), UInt16.zero_add]
    refine (crashFree_guarded rfl).bind fun start _ _ same => ?_
    cases same
    refine (crashFree_within _ (checkBlock_crashFree link device room short even)).bind ?_
    exact fun _ _ _ _ => ih fun other member => whole other (List.mem_cons_of_mem block member)

private theorem mem_pieces_whole (whole : data.length % 2 = 0) {block : List UInt8}
    (member : block ∈ pieces 8 data) : block.length ≤ 8 ∧ block.length % 2 = 0 := by
  obtain ⟨i, found⟩ := List.mem_iff_getElem?.mp member
  rw [getElem?_pieces 8 data i (by decide)] at found
  split at found
  · cases found
    rw [List.length_take, List.length_drop]
    omega
  · cases found

private theorem Miscounted.many (wrong : Miscounted address data)
    (near : countedEnd address data ≤ 0x10000) : 0x100000000 ≤ data.length / 2 := by
  obtain ⟨_, far, _⟩ := wrong
  rw [countedEnd] at near
  omega

theorem Miscounted.ne_nil (wrong : Miscounted address data) (near : countedEnd address data ≤ 0x10000) :
    data ≠ [] := by
  rintro rfl
  cases wrong.many near

private theorem writeWords_near (some : data ≠ []) (whole : data.length % 2 = 0)
    (near : countedEnd address data ≤ 0x10000) :
    writeWords link device address data verify = (do
      sendWords link device address 0 (pieces 56 data)
      if verify then verifyWords link device address data) := by
  have counted : address.toNat + data.length / 2 % 0x100000000 = countedEnd address data := rfl
  rw [writeWords_whole link device (mt List.length_eq_zero_iff.mp some) whole, counted,
    if_neg (by omega), if_neg (by rw [wordSpaceEnd_eq]; omega)]
  rfl

private theorem writeWords_near_crashFree (some : data ≠ []) (whole : data.length % 2 = 0)
    (near : countedEnd address data ≤ 0x10000) (safe : ¬ Overruns address data verify) :
    CrashFree (writeWords link device address data verify) := by
  by_cases inside : address.toNat + data.length / 2 ≤ 0x10000
  · exact writeWords_crashFree link device address (by omega) verify
  have wrong : Miscounted address data := ⟨whole, Nat.not_le.mp inside, .inl near⟩
  have low : ¬ (if verify then 1 else 4) ≤ address.toNat := fun high => safe ⟨wrong, near, high⟩
  have small : address.toNat < 4 := by
    cases verify <;> simp only [if_true, if_false, Bool.false_eq_true] at low <;> omega
  rw [writeWords_near link device some whole near]
  refine (sendWords_crashFree link device (steady_of_small small)).bind fun _ _ _ _ => ?_
  cases verify with
  | false => exact crashFree_pure ()
  | true =>
    rw [if_pos rfl] at low
    obtain rfl : address = 0 := UInt16.toNat_inj.mp (by rw [UInt16.toNat_zero]; omega)
    exact verifyBlocks_crashFree link device fun _ => mem_pieces_whole whole

private theorem writeWords_crash_untouched (safe : ¬ Overruns address data verify) {state left : σ}
    {crash : Crash} {made : List Contact}
    (crashed : writeWords link.traced device address data verify ⟨state, []⟩ =
      (.error (.crashed crash), ⟨left, made⟩)) : made = [] := by
  obtain ⟨_, _, _, ran, admission⟩ := writeWords_admission link device address data verify state
  rw [crashed] at ran
  cases ran
  cases admission with
  | crashed some whole long => rfl
  | begun some whole near begins =>
    have fine := writeWords_near_crashFree link.traced device some whole near safe ⟨state, []⟩ crash
    exact absurd (congrArg Prod.fst crashed) fine

end Crash

section Answered
variable {link : Link σ} {device : Device} {state : σ} {regions rest : List (List UInt8)}

theorem Overruns.touched (overruns : Overruns address data verify) (link : Link σ) (device : Device)
    (state : σ) : (writeWords link.traced device address data verify ⟨state, []⟩).2.contacts ≠ [] := by
  obtain ⟨wrong, near, _⟩ := overruns
  obtain ⟨_, _, _, ran, admission⟩ := writeWords_admission link device address data verify state
  rw [ran]
  rcases admission.miscounted wrong with ⟨_, begins⟩ | ⟨long, _⟩
  · exact begins.ne_nil
  · omega

end Answered

end Flash

def Deed.Overruns : Deed → Prop
  | writeWords address data verify => Flash.Overruns address data verify
  | _ => False

theorem Deed.crash_untouched {deed : Deed} (safe : ¬ deed.Overruns) {link : Link σ} {device : Device}
    {state left : σ} {crash : Crash} {made : List Contact}
    (crashed : deed.perform link.traced device ⟨state, []⟩ =
      (.error (.crashed crash), ⟨left, made⟩)) : made = [] := by
  have never (countable : deed.Countable) : made = [] :=
    absurd (congrArg Prod.fst crashed)
      (deed.perform_crashFree link.traced device countable ⟨state, []⟩ crash)
  cases deed with
  | writeWords address data verify => exact Flash.writeWords_crash_untouched link device safe crashed
  | _ => exact never trivial

end MouseControl
