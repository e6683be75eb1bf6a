import MouseControl.Text.Numeral

/-! Writing JSON: strings with the short escapes, and objects of numbers and strings on one line or
with two blanks of indentation a level. -/
namespace MouseControl.Json
open Text

def escaped (c : Char) : String :=
  match c with
  | '"' => "\\\""
  | '\\' => "\\\\"
  | '\n' => "\\n"
  | '\r' => "\\r"
  | '\t' => "\\t"
  | c =>
    if c.toNat = 0x08 then "\\b"
    else if c.toNat = 0x0C then "\\f"
    else if c.toNat < 0x20 then "\\u" ++ lowerHex 4 c.toNat
    else c.toString

def quoted (text : String) : String :=
  "\"" ++ String.join (text.toList.map escaped) ++ "\""

inductive Scalar where
  | number (n : Nat)
  | text (content : String)
deriving DecidableEq, Repr

def Scalar.render : Scalar → String
  | number n => decimal n
  | text content => quoted content

def compact (members : List (String × Scalar)) : String :=
  "\x7b" ++ ",".intercalate (members.map fun (name, value) => quoted name ++ ":" ++ value.render) ++
    "\x7d"

def pretty (indent : String) (members : List (String × Scalar)) : String :=
  "\x7b\n" ++
    ",\n".intercalate
      (members.map fun (name, value) => indent ++ "  " ++ quoted name ++ ": " ++ value.render) ++
    "\n" ++ indent ++ "\x7d"

def prettyList : List (List (String × Scalar)) → String
  | [] => "[]"
  | objects => "[\n" ++ ",\n".intercalate (objects.map fun o => "  " ++ pretty "  " o) ++ "\n]"

end MouseControl.Json
