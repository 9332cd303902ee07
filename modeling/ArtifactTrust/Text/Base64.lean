import ArtifactTrust.Bytes

/-!
# Base64

The standard alphabet with mandatory padding. Every octet string has exactly one accepted text: reading refuses missing or
surplus padding, white space, and a last group whose unused bits are not zero.
-/

namespace ArtifactTrust.Base64

/-- The letter of a number below 64. -/
def letter (n : Nat) : Char :=
  if n < 26 then Char.ofNat ('A'.toNat + n)
  else if n < 52 then Char.ofNat ('a'.toNat + (n - 26))
  else if n < 62 then Char.ofNat ('0'.toNat + (n - 52))
  else if n = 62 then '+' else '/'

/-- The number of a letter. -/
def value? (c : Char) : Option Nat :=
  if 'A' ≤ c ∧ c ≤ 'Z' then some (c.toNat - 'A'.toNat)
  else if 'a' ≤ c ∧ c ≤ 'z' then some (c.toNat - 'a'.toNat + 26)
  else if '0' ≤ c ∧ c ≤ '9' then some (c.toNat - '0'.toNat + 52)
  else if c = '+' then some 62
  else if c = '/' then some 63
  else none

/-- The letters of an octet string: four for three octets, and a padded group of four for what is left over. -/
def letters : Bytes → List Char
  | [] => []
  | [a] => [letter (a.toNat / 4), letter (a.toNat % 4 * 16), '=', '=']
  | [a, b] => [letter (a.toNat / 4), letter (a.toNat % 4 * 16 + b.toNat / 16), letter (b.toNat % 16 * 4), '=']
  | a :: b :: c :: rest =>
    letter (a.toNat / 4) :: letter (a.toNat % 4 * 16 + b.toNat / 16) ::
      letter (b.toNat % 16 * 4 + c.toNat / 64) :: letter (c.toNat % 64) :: letters rest

/-- An octet string in base64. -/
def encode (b : Bytes) : String := String.ofList (letters b)

/-- The three octets of four letter values. -/
def triple (p q r s : Nat) : Bytes :=
  [UInt8.ofNat (p * 4 + q / 16), UInt8.ofNat (q % 16 * 16 + r / 4), UInt8.ofNat (r % 4 * 64 + s)]

/-- The octets of a last group of four characters, which may end in padding. -/
def lastGroup? (a b c d : Char) : Option Bytes := do
  let p ← value? a
  let q ← value? b
  if c = '=' then
    if d = '=' ∧ q % 16 = 0 then some [UInt8.ofNat (p * 4 + q / 16)] else none
  else do
    let r ← value? c
    if d = '=' then
      if r % 4 = 0 then some [UInt8.ofNat (p * 4 + q / 16), UInt8.ofNat (q % 16 * 16 + r / 4)] else none
    else do
      let s ← value? d
      some (triple p q r s)

/-- The octets that a list of characters denotes. -/
def ofLetters? : List Char → Option Bytes
  | [] => some []
  | [a, b, c, d] => lastGroup? a b c d
  | a :: b :: c :: d :: rest => do
    let p ← value? a
    let q ← value? b
    let r ← value? c
    let s ← value? d
    let more ← ofLetters? rest
    return triple p q r s ++ more
  | _ => none

/-- The octets that a text denotes in base64. -/
def decode? (s : String) : Option Bytes := ofLetters? s.toList

end ArtifactTrust.Base64
