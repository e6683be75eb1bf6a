import Std.Data.HashMap
import MouseControl.Word

/-! Flash cells: a word at every 32-bit address, all ones where nothing was stored. -/
namespace MouseControl

structure Memory where
  cells : Std.HashMap UInt32 UInt16

namespace Memory

def erased : UInt16 := 0xFFFF

def blank : Memory := ⟨∅⟩

def word (memory : Memory) (address : UInt32) : UInt16 := memory.cells.getD address erased

def store (memory : Memory) (address : UInt32) (value : UInt16) : Memory :=
  ⟨memory.cells.insert address value⟩

/-- Stores words one after another, around the end of the address space; a stuck cell keeps its
word. -/
def storeWords (stuck : List UInt32) : UInt32 → List UInt16 → Memory → Memory
  | _, [], memory => memory
  | address, value :: rest, memory =>
    storeWords stuck (address + 1) rest
      (if address ∈ stuck then memory else memory.store address value)

def load (memory : Memory) : UInt32 → Nat → List UInt16
  | _, 0 => []
  | address, count + 1 => memory.word address :: load memory (address + 1) count

theorem word_blank (address : UInt32) : blank.word address = erased := by
  simp [word, blank]

theorem word_store (memory : Memory) (address other : UInt32) (value : UInt16) :
    (memory.store address value).word other = if address = other then value else memory.word other := by
  simp [word, store, Std.HashMap.getD_insert]

theorem length_load (memory : Memory) (address : UInt32) (count : Nat) :
    (memory.load address count).length = count := by
  induction count generalizing address with
  | zero => rfl
  | succ count ih => simp [load, ih]

end Memory

end MouseControl
