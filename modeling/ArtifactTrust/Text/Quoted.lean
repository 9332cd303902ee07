import ArtifactTrust.Text.Ascii
import ArtifactTrust.Text.Property

/-!
# Quoted text

Messages show a text from outside in quotes, in a form that cannot be mistaken: a character that is not visible or
that joins the one before it is shown by its code point.
-/

namespace ArtifactTrust.Quoted

/-- The blank, and the assigned characters that are neither separators nor control something. -/
def isVisible (c : Char) : Bool :=
  c == ' ' ||
    (Category.letter ++ Category.mark ++ Category.number ++ Category.punctuation ++ Category.symbol).contains c.toNat

/-- A character by its code point, in hexadecimal and braces. -/
def codePoint (c : Char) : List Char := ['\\', 'u', '\x7b'] ++ Nat.toDigits 16 c.toNat ++ ['\x7d']

/-- A character of a quoted text. -/
def escape (c : Char) : List Char :=
  if c = '\x00' then ['\\', '0']
  else if c = '\t' then ['\\', 't']
  else if c = '\r' then ['\\', 'r']
  else if c = '\n' then ['\\', 'n']
  else if c = '\\' then ['\\', '\\']
  else if c = '"' then ['\\', '"']
  else if Property.extending.contains c.toNat then codePoint c
  else if isVisible c then [c]
  else codePoint c

/-- A text in quotes. -/
def quote (s : String) : String := String.ofList ('"' :: s.toList.flatMap escape ++ ['"'])

end ArtifactTrust.Quoted
