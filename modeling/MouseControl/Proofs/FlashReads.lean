import MouseControl.Proofs.DwordWindow
import MouseControl.Proofs.WordStore

/-! The two ways to read flash. Both bring the cells from an address on, one by double words and one by
four words; where their ranges meet they bring the same bytes, and neither changes what the mouse
holds. -/
namespace MouseControl.Mouse
variable {mouse other : Mouse}

private theorem Willing.answers (willing : mouse.Willing) : mouse.failWrites.lookup mouse.writes = none ∧
    mouse.failReads.lookup mouse.reads = none := by
  rw [willing.failWrites, willing.failReads]
  exact ⟨rfl, rfl⟩

private theorem shown_holdings (same : other.holdings = mouse.holdings) (address : UInt32) (count : Nat) :
    other.shown address count = mouse.shown address count := by
  have flash : other.flash = mouse.flash := congrArg Holdings.flash same
  have corrupt : other.corrupt = mouse.corrupt := congrArg Holdings.corrupt same
  rw [shown, shown, flash, corrupt]

def shownBytes (mouse : Mouse) (place : UInt32) (count : Nat) : List UInt8 :=
  wordsBytes (mouse.shown place count)

private theorem shownBytes_add (mouse : Mouse) (place : UInt32) (first second : Nat) :
    mouse.shownBytes place (first + second) =
      mouse.shownBytes place first ++ mouse.shownBytes (place + UInt32.ofNat first) second := by
  rw [shownBytes, shown, Memory.load_add, List.map_append, wordsBytes, List.flatMap_append]
  rfl

private theorem shownBytes_blocks (mouse : Mouse) (place : UInt32) (count : Nat) :
    mouse.shownBytes place (4 * count) =
      (List.range count).flatMap fun j => mouse.shownBytes (place + UInt32.ofNat (4 * j)) 4 := by
  induction count with
  | zero => rfl
  | succ count ih =>
    rw [Nat.mul_succ, shownBytes_add, List.range_succ, List.flatMap_append, ← ih,
      List.flatMap_singleton]

end MouseControl.Mouse

namespace MouseControl.Flash
open Mouse

/-- From every willing mouse that holds what a mouse does, a session reads the bytes. It leaves the
mouse willing and all it holds as it was. -/
def Reads (session : Session Mouse (List UInt8)) (mouse : Mouse) (bytes : List UInt8) : Prop :=
  ∀ other : Mouse, other.Willing → other.holdings = mouse.holdings →
    ∃ left, session other = (.ok bytes, left) ∧ left.Willing ∧ left.holdings = mouse.holdings

private theorem readDwords_reads (device : Device) (mouse : Mouse) (address : UInt32) {count : Nat}
    (some : 1 ≤ count) (few : count ≤ 14) :
    Reads (readDwords Mouse.link device address (UInt8.ofNat count)) mouse
      (mouse.shownBytes (address * 2) (2 * count)) := by
  intro other willing same
  have amount : (UInt8.ofNat count).toNat = count := by
    rw [UInt8.toNat_ofNat']
    omega
  have positive : 0 < (UInt8.ofNat count).toNat := by rwa [amount]
  have within : (UInt8.ofNat count).toNat ≤ 14 := by rwa [amount]
  obtain ⟨left, read, held⟩ := readDwords_shows device address positive within willing.queue
    willing.answers.1 willing.answers.2
  have still := perform_willing device willing (.readDwords address (UInt8.ofNat count))
  simp only [Deed.perform, read] at still
  rw [amount, shown_holdings same] at read
  exact ⟨left, read, still, held.trans same⟩

private theorem readEight_reads (device : Device) (mouse : Mouse) (address : UInt16) :
    Reads (readEight Mouse.link device address) mouse (mouse.shownBytes address.toUInt32 4) := by
  intro other willing same
  obtain ⟨outcome, left, executed⟩ :=
    execute_outcome Mouse.link device (.query Opcode.flashRead8 (wordBytes address)) other
  have read := readEight_of_execute executed
  have still := perform_willing device willing (.readEight address)
  simp only [Deed.perform, read] at still
  rw [execute_mouse device (eightRequest_fits address) willing.queue, willing.answers.1,
    willing.answers.2, Prod.mk.injEq] at executed
  obtain ⟨brought, after⟩ := executed
  cases outcome with
  | error error => cases brought
  | ok region =>
    refine ⟨left, ?_, still, ?_⟩
    · rw [read, ← Except.ok.inj brought, shownBytes, ← shown_holdings same, ← perform_eight]
      rfl
    · rw [← same, ← after]
      exact answering_holdings other (.query Opcode.flashRead8 (wordBytes address))

private theorem toUInt32_double {address : UInt32} {offset : Nat}
    (inside : 2 * address.toNat + offset ≤ 0xFFFF) :
    (UInt16.ofNat (2 * address.toNat + offset)).toUInt32 = address * 2 + UInt32.ofNat offset := by
  apply UInt32.toNat_inj.mp
  rw [UInt16.toNat_toUInt32, UInt16.toNat_ofNat', UInt32.toNat_add, UInt32.toNat_mul,
    UInt32.toNat_ofNat']
  change _ = (address.toNat * 2 % 4294967296 + offset % 4294967296) % 4294967296
  omega

/-- Double words read in one go are those read in two, around the end of the addresses too; an even
number of them is half as many blocks of eight bytes, where these have an address. No read changes what
the mouse holds. -/
theorem flash_reads_agree (device : Device) (mouse : Mouse) (address : UInt32) :
    (∀ m n : Nat, 1 ≤ m → 1 ≤ n → m + n ≤ 14 →
      let first := mouse.shownBytes (address * 2) (2 * m)
      let second := mouse.shownBytes ((address + UInt32.ofNat m) * 2) (2 * n)
      Reads (readDwords Mouse.link device address (UInt8.ofNat m)) mouse first ∧
      Reads (readDwords Mouse.link device (address + UInt32.ofNat m) (UInt8.ofNat n)) mouse second ∧
      Reads (readDwords Mouse.link device address (UInt8.ofNat (m + n))) mouse (first ++ second)) ∧
    ∀ c : Nat, 1 ≤ c → c ≤ 7 → 2 * address.toNat + 4 * (c - 1) ≤ 0xFFFF →
      let block := fun j => mouse.shownBytes (address * 2 + UInt32.ofNat (4 * j)) 4
      (∀ j < c, Reads (readEight Mouse.link device (UInt16.ofNat (2 * address.toNat + 4 * j))) mouse
        (block j)) ∧
      Reads (readDwords Mouse.link device address (UInt8.ofNat (2 * c))) mouse
        ((List.range c).flatMap block) := by
  constructor
  · intro m n some more few first second
    refine ⟨readDwords_reads device mouse address some (by omega),
      readDwords_reads device mouse (address + UInt32.ofNat m) more (by omega), ?_⟩
    have whole := readDwords_reads device mouse address (show 1 ≤ m + n by omega) few
    rwa [Nat.mul_add, shownBytes_add, ← dwordCell_offset] at whole
  · intro c some few inside block
    constructor
    · intro j below
      have read := readEight_reads device mouse (UInt16.ofNat (2 * address.toNat + 4 * j))
      rwa [toUInt32_double (by omega)] at read
    · have whole := readDwords_reads device mouse address (show 1 ≤ 2 * c by omega) (by omega)
      rwa [show 2 * (2 * c) = 4 * c by omega, shownBytes_blocks] at whole

-- The last fourteen double words, and seven blocks of which the last begins two words before the end of
-- the words.
theorem flash_reads_agree_at_the_ends :
    let device : Device := ⟨0x09DA, 0x7F1B, "Bloody T50", ""⟩
    let mouse := { Mouse.fresh with flash := Memory.blank.store 0x10000 0x0102, corrupt := 0x8001 }
    mouse.Willing ∧
    (∃ first second : List UInt8,
      Reads (readDwords Mouse.link device 0xFFFFFFF2 5) mouse first ∧
      Reads (readDwords Mouse.link device 0xFFFFFFF7 9) mouse second ∧
      Reads (readDwords Mouse.link device 0xFFFFFFF2 14) mouse (first ++ second)) ∧
    2 * (0x7FF3 : UInt32).toNat + 4 * (7 - 1) ≤ 0xFFFF ∧
    ∃ block : Nat → List UInt8,
      (∀ j < 7, Reads (readEight Mouse.link device (UInt16.ofNat (0xFFE6 + 4 * j))) mouse (block j)) ∧
      Reads (readDwords Mouse.link device 0x7FF3 14) mouse ((List.range 7).flatMap block) := by
  intro device mouse
  have inside : 2 * (0x7FF3 : UInt32).toNat + 4 * (7 - 1) ≤ 0xFFFF := by decide
  exact ⟨⟨rfl, rfl, rfl⟩,
    ⟨_, _, (flash_reads_agree device mouse 0xFFFFFFF2).1 5 9 (by decide) (by decide) (by decide)⟩,
    inside, _, (flash_reads_agree device mouse 0x7FF3).2 7 (by decide) (by decide) inside⟩

end MouseControl.Flash
