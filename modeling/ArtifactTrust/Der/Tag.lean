import ArtifactTrust.Bytes
import ArtifactTrust.Text.Hex

/-!
# Identifier octets

A tag is one octet: two bits of class, one that tells constructed from primitive, and a number of five bits, which make up the
octet again (`Tag.toDer`). Two kinds of octet are no tag: a number of 31 announces a longer form that is not read here, and the
universal number 0 is reserved. The type `Tag` holds exactly the others.
-/

namespace ArtifactTrust.Der

/-- The four classes of tags. -/
inductive TagClass where
  | universal | application | contextSpecific | privateUse
  deriving DecidableEq, Repr

/-- The two bits of a class, as a number. -/
def TagClass.bits : TagClass → Nat
  | .universal => 0
  | .application => 1
  | .contextSpecific => 2
  | .privateUse => 3

/-- Why an octet is no tag. -/
inductive TagFault where
  | longForm (octet : UInt8)
  | reserved (octet : UInt8)
  deriving DecidableEq, Repr

/-- An identifier octet in the short form. -/
structure Tag where
  octet : UInt8
  shortForm : octet &&& 0x1f ≠ 0x1f
  notReserved : octet &&& 0xdf ≠ 0
  deriving DecidableEq

/-- The tag that an octet is. -/
def Tag.ofOctet (octet : UInt8) : Except TagFault Tag :=
  if shortForm : octet &&& 0x1f ≠ 0x1f then
    if notReserved : octet &&& 0xdf ≠ 0 then .ok ⟨octet, shortForm, notReserved⟩
    else .error (.reserved octet)
  else .error (.longForm octet)

namespace Tag

/-- The tag with a context-specific number. The number is laid over the class bits, so one above 31 asks for another tag. -/
def contextSpecific (number : UInt8) (constructed : Bool) : Except TagFault Tag :=
  ofOctet (0x80 ||| (if constructed then 0x20 else 0) ||| number)

/-- The five bits of the number. -/
def number (t : Tag) : UInt8 := t.octet &&& 0x1f

/-- Whether the content is a sequence of elements. -/
def isConstructed (t : Tag) : Bool := t.octet &&& 0x20 != 0

/-- The class of the tag. -/
def tagClass (t : Tag) : TagClass :=
  if t.octet < 0x40 then .universal
  else if t.octet < 0x80 then .application
  else if t.octet < 0xc0 then .contextSpecific
  else .privateUse

/-- The octet that the number, the bit for constructed and the class make up. -/
def toDer (t : Tag) : UInt8 := t.number ||| t.isConstructed.toUInt8 <<< 5 ||| UInt8.ofNat t.tagClass.bits <<< 6

/-- Whether the tag is universal with this number, primitive or constructed. -/
def isUniversal (t : Tag) (number : UInt8) : Bool := t.tagClass == .universal && t.number == number

/-- Whether the tag is context-specific with this number, primitive or constructed. -/
def isContext (t : Tag) (number : UInt8) : Bool := t.tagClass == .contextSpecific && t.number == number

/-- BOOLEAN. -/
def isBoolean (t : Tag) : Bool := t.isUniversal 0x01
/-- INTEGER. -/
def isInteger (t : Tag) : Bool := t.isUniversal 0x02
/-- BIT STRING. -/
def isBitString (t : Tag) : Bool := t.isUniversal 0x03
/-- OCTET STRING. -/
def isOctetString (t : Tag) : Bool := t.isUniversal 0x04
/-- OBJECT IDENTIFIER. -/
def isOid (t : Tag) : Bool := t.isUniversal 0x06
/-- SEQUENCE. -/
def isSequence (t : Tag) : Bool := t.isUniversal 0x10
/-- UTCTime, with two digits of the year. -/
def isUtcTime (t : Tag) : Bool := t.isUniversal 0x17
/-- GeneralizedTime, with four digits of the year. -/
def isGeneralizedTime (t : Tag) : Bool := t.isUniversal 0x18
/-- UTF8String, PrintableString or IA5String. -/
def isText (t : Tag) : Bool := t.isUniversal 0x0c || t.isUniversal 0x13 || t.isUniversal 0x16

/-- The tag of a SEQUENCE. -/
def sequence : Tag := ⟨0x30, by decide, by decide⟩

/-- The octet of a tag as messages show it. -/
def octetText (octet : UInt8) : String := "0x" ++ Hex.encode [octet]

/-- A tag as messages show it. -/
def text (t : Tag) : String := octetText t.octet

end Tag

end ArtifactTrust.Der
