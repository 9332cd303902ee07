import ArtifactTrust.Json.Outline

/-!
# JSON that is written

What is written here is made of texts, integers, arrays, objects and `null`. `Value.render` writes a value without any
space. In a string only the quote, the backslash and the characters below U+0020 are escaped.
-/

namespace ArtifactTrust.Json

/-- A value to write. -/
inductive Value where
  | null
  | text (s : String)
  | number (n : Int)
  | array (items : List Value)
  | object (members : List (String × Value))

/-- A character of a string as it is written. -/
def escape (c : Char) : List Char :=
  if c = '"' then ['\\', '"']
  else if c = '\\' then ['\\', '\\']
  else if c = '\x08' then ['\\', 'b']
  else if c = '\x0c' then ['\\', 'f']
  else if c = '\n' then ['\\', 'n']
  else if c = '\r' then ['\\', 'r']
  else if c = '\t' then ['\\', 't']
  else if c.toNat < 0x20 then ['\\', 'u', '0', '0', Ascii.hexDigit (c.toNat / 16), Ascii.hexDigit (c.toNat % 16)]
  else [c]

/-- A string with its quotes. -/
def quoted (s : String) : List Char := '"' :: s.toList.flatMap escape ++ ['"']

/-- Pieces with commas between them. -/
def separated : List (List Char) → List Char
  | [] => []
  | [p] => p
  | p :: ps => p ++ ',' :: separated ps

namespace Value

mutual

/-- The characters of a value. -/
def chars : Value → List Char
  | null => ['n', 'u', 'l', 'l']
  | text s => quoted s
  | number n => (toString n).toList
  | array items => '[' :: separated (itemChars items) ++ [']']
  | object members => '\x7b' :: separated (memberChars members) ++ ['\x7d']

/-- The characters of each item. -/
def itemChars : List Value → List (List Char)
  | [] => []
  | v :: vs => chars v :: itemChars vs

/-- The characters of each member. -/
def memberChars : List (String × Value) → List (List Char)
  | [] => []
  | (key, v) :: ms => (quoted key ++ ':' :: chars v) :: memberChars ms

end

/-- A value as text. -/
def render (v : Value) : String := String.ofList (chars v)

end Value

end ArtifactTrust.Json
