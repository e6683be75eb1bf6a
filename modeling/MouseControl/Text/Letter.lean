/-! Letter case as far as ASCII letters take part in it. The characters whose lower case has an ASCII
letter in it are the 26 capital letters, the Kelvin sign and the capital I with a dot, which becomes
an i and a combining dot. Folding these alone, a text equals an ASCII word exactly when its full
lower case does, and contains one exactly when its full lower case does. -/
namespace MouseControl.Text

/-- The lower case of a character if that has an ASCII letter in it, else the character itself. -/
def foldChar (c : Char) : List Char :=
  if c = '\u212a' then ['k']
  else if c = '\u0130' then ['i', '\u0307']
  else [c.toLower]

def foldCase (text : List Char) : List Char :=
  text.flatMap foldChar

def holds (pattern : List Char) : List Char → Bool
  | [] => pattern.isEmpty
  | c :: rest => pattern.isPrefixOf (c :: rest) || holds pattern rest

end MouseControl.Text
