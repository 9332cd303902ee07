import ArtifactTrust.Bytes
import ArtifactTrust.Json.Codec

/-!
# JSON in octets

Octets that hold JSON need not be text throughout: a string that is passed over may hold anything. So each octet that
belongs to no character is replaced (`Octets.legible`): in a string by something that no string may hold but that does
no harm where it is passed over, elsewhere by something that is no JSON. `Codec.parseOctets` reads a value from
octets.
-/

namespace ArtifactTrust.Json

namespace Octets

/-- The character that octets begin with, and the octets after it. -/
def firstChar? (b : Bytes) : Option (Char × Bytes) :=
  [1, 2, 3, 4].findSome? fun n =>
    match (Bytes.text? (b.take n)).map String.toList with
    | some [c] => some (c, b.drop n)
    | _ => none

/-- Where a character stands: between strings, in a string, or after a backslash in a string. -/
inductive Spot where
  | between | inString | escaped
  deriving DecidableEq, Repr

/-- Where the character after a character stands. -/
def Spot.after : Spot → Char → Spot
  | .between, c => if c = '"' then .inString else .between
  | .inString, c => if c = '"' then .between else if c = '\\' then .escaped else .inString
  | .escaped, _ => .inString

/-- What stands for an octet that belongs to no character. In a string it is a leading surrogate with no trailing one
after it. -/
def Spot.standIn : Spot → List Char
  | .inString => "\\ud800\\u0041".toList
  | _ => ['\x00']

/-- The characters of octets, with stand-ins. The fuel bounds the number of octets. -/
def characters : Nat → Spot → Bytes → List Char
  | 0, _, _ => []
  | _, _, [] => []
  | fuel + 1, spot, octet :: rest =>
    match firstChar? (octet :: rest) with
    | some (c, rest) => c :: characters fuel (spot.after c) rest
    | none => spot.standIn ++ characters fuel spot rest

/-- The text of octets, with stand-ins for the octets that belong to no character. -/
def legible (b : Bytes) : String := String.ofList (characters b.length .between b)

end Octets

/-- The value that octets hold, nothing but white space after it. -/
def Codec.parseOctets {α : Type} (c : Codec α) (b : Bytes) : Except Cause α := c.parse (Octets.legible b)

end ArtifactTrust.Json
