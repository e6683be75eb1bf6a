/-! Checked arithmetic and checked access. A sum or difference that leaves its width, an access past
the end of a block, a copy between windows of different lengths, a division by zero or a block too
large to hold ends the program at once: such a crash is a third outcome, beside success and a reported
error. -/
namespace MouseControl

inductive Crash where
  | overflow
  | outOfBounds
  | lengthMismatch
  | zeroDivisor
  /-- A block larger than the address space can hold. -/
  | capacity
deriving DecidableEq, Repr

def sum8 (a b : UInt8) : Except Crash UInt8 :=
  if a.toNat + b.toNat < 0x100 then .ok (a + b) else .error .overflow

def difference8 (a b : UInt8) : Except Crash UInt8 :=
  if b.toNat ≤ a.toNat then .ok (a - b) else .error .overflow

def sum16 (a b : UInt16) : Except Crash UInt16 :=
  if a.toNat + b.toNat < 0x10000 then .ok (a + b) else .error .overflow

def sum32 (a b : UInt32) : Except Crash UInt32 :=
  if a.toNat + b.toNat < 0x100000000 then .ok (a + b) else .error .overflow

def sizeSum (a b : Nat) : Except Crash Nat :=
  if a + b < 0x10000000000000000 then .ok (a + b) else .error .overflow

def sizeDifference (a b : Nat) : Except Crash Nat :=
  if b ≤ a then .ok (a - b) else .error .overflow

def byteAt (bytes : List UInt8) (index : Nat) : Except Crash UInt8 :=
  match bytes[index]? with
  | some byte => .ok byte
  | none => .error .outOfBounds

def slice (bytes : List UInt8) (start length : Nat) : Except Crash (List UInt8) :=
  if start + length ≤ bytes.length then .ok ((bytes.drop start).take length)
  else .error .outOfBounds

/-- A block with the bytes of a window replaced, a crash when the window reaches past the end or has
another length than the bytes. -/
def replace (block : List UInt8) (start length : Nat) (bytes : List UInt8) :
    Except Crash (List UInt8) :=
  if block.length < start + length then .error .outOfBounds
  else if bytes.length = length then .ok (block.take start ++ bytes ++ block.drop (start + length))
  else .error .lengthMismatch

theorem sizeSum_ok {a b : Nat} (small : a + b < 0x10000000000000000) : sizeSum a b = .ok (a + b) :=
  if_pos small

theorem byteAt_ok {bytes : List UInt8} {index : Nat} (inside : index < bytes.length) :
    byteAt bytes index = .ok bytes[index] := by
  rw [byteAt, List.getElem?_eq_getElem inside]

theorem slice_ok {bytes : List UInt8} {start length : Nat} (inside : start + length ≤ bytes.length) :
    slice bytes start length = .ok ((bytes.drop start).take length) := if_pos inside

theorem replace_ok {block bytes : List UInt8} {start length : Nat}
    (inside : start + length ≤ block.length) (same : bytes.length = length) :
    replace block start length bytes =
      .ok (block.take start ++ bytes ++ block.drop (start + length)) := by
  rw [replace, if_neg (Nat.not_lt.mpr inside), if_pos same]

end MouseControl
