/-!
# Letters, digits and white space

The text formats here (hexadecimal, decimal, dates, algorithm names) are defined on ASCII. A character outside ASCII is never
a digit or a letter in this sense. Documents carry integers of 64 bits as decimal texts (`Int64Text`), since a JSON number may be
rounded to a double on its way. White space is that of Unicode (`Text.isBlank`).
-/

namespace ArtifactTrust.Ascii

/-- The value of a decimal digit. -/
def digit? (c : Char) : Option Nat :=
  if '0' ≤ c ∧ c ≤ '9' then some (c.toNat - '0'.toNat) else none

/-- Whether a character is a decimal digit. -/
def isDigit (c : Char) : Bool := decide ('0' ≤ c ∧ c ≤ '9')

/-- The value of a hexadecimal digit, in either case. -/
def hexDigit? (c : Char) : Option Nat :=
  if '0' ≤ c ∧ c ≤ '9' then some (c.toNat - '0'.toNat)
  else if 'a' ≤ c ∧ c ≤ 'f' then some (c.toNat - 'a'.toNat + 10)
  else if 'A' ≤ c ∧ c ≤ 'F' then some (c.toNat - 'A'.toNat + 10)
  else none

/-- The hexadecimal digit of a number below 16, in lower case. -/
def hexDigit (n : Nat) : Char :=
  if n < 10 then Char.ofNat ('0'.toNat + n) else Char.ofNat ('a'.toNat + (n - 10))

/-- A capital ASCII letter as its small letter, every other character as itself. -/
def lower (c : Char) : Char :=
  if 'A' ≤ c ∧ c ≤ 'Z' then Char.ofNat (c.toNat + 32) else c

/-- Whether two texts agree up to the case of ASCII letters. -/
def sameIgnoringCase (a b : String) : Bool := a.toList.map lower == b.toList.map lower

/-- The number that a list of digits denotes, if each of them is one. The empty list denotes nothing. -/
def number? (cs : List Char) : Option Nat :=
  if cs.isEmpty then none
  else cs.foldl (fun n c => n.bind fun n => (digit? c).map fun d => n * 10 + d) (some 0)

/-- A number in decimal, with zeros in front up to a width. -/
def padded (width n : Nat) : List Char :=
  let digits := Nat.toDigits 10 n
  List.replicate (width - digits.length) '0' ++ digits

end ArtifactTrust.Ascii

namespace ArtifactTrust.Int64Text

/-- The integer of a text: an optional sign and at least one digit, in the range of 64 bits. Zeros may stand in front. -/
def parse? (s : String) : Option Int64 := do
  let (negative, digits) := match s.toList with
    | '-' :: rest => (true, rest)
    | '+' :: rest => (false, rest)
    | cs => (false, cs)
  let n ← Ascii.number? digits
  let i : Int := if negative then -n else n
  if -0x8000000000000000 ≤ i ∧ i < 0x8000000000000000 then some (Int64.ofInt i) else none

/-- An integer in decimal. -/
def render (n : Int64) : String := toString n.toInt

end ArtifactTrust.Int64Text

namespace ArtifactTrust.Text

/-- Whether a character has the Unicode property White_Space. -/
def isBlank (c : Char) : Bool :=
  let n := c.toNat
  (9 ≤ n && n ≤ 13) || n == 0x20 || n == 0x85 || n == 0xa0 || n == 0x1680 || (0x2000 ≤ n && n ≤ 0x200a) ||
    n == 0x2028 || n == 0x2029 || n == 0x202f || n == 0x205f || n == 0x3000

/-- A text without the white space in front. -/
def skipBlanks (cs : List Char) : List Char := cs.dropWhile isBlank

end ArtifactTrust.Text
