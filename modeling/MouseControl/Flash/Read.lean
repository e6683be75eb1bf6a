import MouseControl.Check
import MouseControl.Exchange
import MouseControl.Word

/-! Reading flash memory. Words have 16-bit addresses, double words 32-bit addresses. -/
namespace MouseControl.Flash
variable {σ : Type} (link : Link σ) (device : Device)

def eightBytes (region : List UInt8) : Except Crash (List UInt8) := do
  let data ← slice region flashDataOffset (wordsPerRead * wordLength)
  replace (List.replicate 8 0) 0 8 data

theorem eightBytes_ok {region : List UInt8} (long : 16 ≤ region.length) :
    eightBytes region = .ok ((region.drop flashDataOffset).take 8) := by
  have inside : flashDataOffset + wordsPerRead * wordLength ≤ region.length := long
  have full : ((region.drop flashDataOffset).take 8).length = 8 := by
    rw [List.length_take, List.length_drop]
    change min 8 (region.length - 8) = 8
    omega
  rw [eightBytes, slice_ok inside]
  change replace (List.replicate 8 0) 0 8 ((region.drop flashDataOffset).take 8) = _
  rw [replace_ok (by decide) full]
  simp

def readEight (address : UInt16) : Session σ (List UInt8) := do
  let region ← execute link device (.query Opcode.flashRead8 (wordBytes address))
  Session.guarded (eightBytes region)

def readDwords (address : UInt32) (count : UInt8) : Session σ (List UInt8) := do
  let count ← Session.check (checkDwordCount count)
  let region ← execute link device
    (.query Opcode.flashReadDwords (dwordBytes address ++ [count]))
  Session.guarded (slice region flashDataOffset (count.toNat * dwordLength))

end MouseControl.Flash
