import ArtifactTrust.Bytes
import ArtifactTrust.Text.Ascii

/-!
# Hexadecimal text

Two digits for each octet. Writing uses small letters, reading takes either case and refuses an odd number of digits.
-/

namespace ArtifactTrust.Hex

/-- The two digits of an octet. -/
def octet (b : UInt8) : List Char := [Ascii.hexDigit (b.toNat / 16), Ascii.hexDigit (b.toNat % 16)]

/-- The digits of an octet string. -/
def digits (b : Bytes) : List Char := b.flatMap octet

/-- An octet string in hexadecimal. -/
def encode (b : Bytes) : String := String.ofList (digits b)

/-- The octets that a list of digits denotes, if there is an even number of them and each is one. -/
def ofDigits? : List Char → Option Bytes
  | [] => some []
  | [_] => none
  | high :: low :: rest => do
    let h ← Ascii.hexDigit? high
    let l ← Ascii.hexDigit? low
    let b ← ofDigits? rest
    return UInt8.ofNat (16 * h + l) :: b

/-- The octets that a text denotes in hexadecimal. -/
def decode? (s : String) : Option Bytes := ofDigits? s.toList

end ArtifactTrust.Hex
