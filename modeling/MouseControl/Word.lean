/-! Little-endian words and double words, and the cutting of a block into pieces. -/
namespace MouseControl

def wordOf (low high : UInt8) : UInt16 :=
  low.toUInt16 ||| (high.toUInt16 <<< 8)

def wordBytes (word : UInt16) : List UInt8 :=
  [word.toUInt8, (word >>> 8).toUInt8]

def dwordOf (b₀ b₁ b₂ b₃ : UInt8) : UInt32 :=
  b₀.toUInt32 ||| (b₁.toUInt32 <<< 8) ||| (b₂.toUInt32 <<< 16) ||| (b₃.toUInt32 <<< 24)

def dwordBytes (dword : UInt32) : List UInt8 :=
  [dword.toUInt8, (dword >>> 8).toUInt8, (dword >>> 16).toUInt8, (dword >>> 24).toUInt8]

/-- The words of a block, low byte first; an odd last byte is left out. -/
def words : List UInt8 → List UInt16
  | low :: high :: rest => wordOf low high :: words rest
  | _ => []

def wordsBytes (ws : List UInt16) : List UInt8 :=
  ws.flatMap wordBytes

def piecesUpTo {α : Type} (size : Nat) : Nat → List α → List (List α)
  | 0, _ => []
  | _ + 1, [] => []
  | bound + 1, x :: xs => (x :: xs).take size :: piecesUpTo size bound ((x :: xs).drop size)

/-- A block cut into pieces of the given size, of which only the last may be shorter. -/
def pieces {α : Type} (size : Nat) (xs : List α) : List (List α) :=
  piecesUpTo size xs.length xs

end MouseControl
