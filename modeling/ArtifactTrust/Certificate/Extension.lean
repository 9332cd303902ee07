import ArtifactTrust.Key.PublicKey

/-!
# Certificate extensions

An extension is an object identifier, a mark whether it is critical, and an OCTET STRING with a value. The values of some
extensions have a meaning here: basic constraints, key usage, alternative names of the subject, key identifiers, the list of
signed certificate timestamps, and the issuer of the identity. A value is DER inside the OCTET STRING: its first element
(`Extension.inner`).
-/

namespace ArtifactTrust

namespace Oid

/-- The use of the key. -/
def keyUsage : Oid := "2.5.29.15"
/-- Alternative names of the subject. -/
def alternativeNames : Oid := "2.5.29.17"
/-- Basic constraints. -/
def basicConstraints : Oid := "2.5.29.19"
/-- The identifier of the subject's key. -/
def subjectKeyId : Oid := "2.5.29.14"
/-- The identifier of the issuer's key. -/
def authorityKeyId : Oid := "2.5.29.35"
/-- The list of signed certificate timestamps. -/
def timestampList : Oid := "1.3.6.1.4.1.11129.2.4.2"
/-- The issuer of the identity, as plain octets. -/
def identityIssuer : Oid := "1.3.6.1.4.1.57264.1.1"
/-- The issuer of the identity, as a DER string. -/
def identityIssuerText : Oid := "1.3.6.1.4.1.57264.1.8"

end Oid

/-- An extension. -/
structure Extension where
  oid : Oid
  critical : Bool
  value : Der.Element

namespace Extension

/-- The extension of an element of two or three elements: the identifier, the mark unless it is left out, the value. -/
def ofElement (e : Der.Element) : Except CryptoError Extension := do
  let (oid, critical, value) ← match e.children with
    | [oid, value] => pure (oid, false, value)
    | [oid, critical, value] => do pure (oid, ← PublicKey.reading critical.boolean, value)
    | children => .error (.certificate (.extensionElements children.length))
  if value.tag.isOctetString then return ⟨← PublicKey.reading oid.oid, critical, value⟩
  else .error (.certificate (.extensionValueTag value.tag))

/-- The octets of the value. -/
def content (x : Extension) : Bytes := x.value.content

/-- The first element in the value. -/
def inner (x : Extension) : Except CryptoError Der.Element :=
  match x.value.children with
  | e :: _ => .ok e
  | [] => .error (.certificate (.valueNotDer x.oid))

end Extension

/-! ## Basic constraints and key usage -/

/-- Whether the subject is a certificate authority, and how many authorities may follow below it. -/
structure BasicConstraints where
  authority : Bool
  pathLength : Option Int
  deriving DecidableEq, Repr

namespace BasicConstraints

/-- Takes one element of the sequence: a BOOLEAN or an INTEGER. Others are passed over, and the last of a kind counts. -/
def take (b : BasicConstraints) (e : Der.Element) : Except CryptoError BasicConstraints :=
  if e.tag.isBoolean then do return { b with authority := ← PublicKey.reading e.boolean }
  else if e.tag.isInteger then do return { b with pathLength := some (← PublicKey.reading e.integer) }
  else .ok b

/-- The constraints of an extension. -/
def ofExtension (x : Extension) : Except CryptoError BasicConstraints := do
  (← x.inner).children.foldlM take ⟨false, none⟩

end BasicConstraints

/-- The bits of a key usage. -/
structure KeyUsage where
  bits : List Bool
  deriving DecidableEq, Repr

namespace KeyUsage

/-- The usage of an extension. -/
def ofExtension (x : Extension) : Except CryptoError KeyUsage := do return ⟨← PublicKey.reading (← x.inner).bits⟩

/-- A bit of the usage, unset where there are fewer bits. -/
def bit (u : KeyUsage) (place : Nat) : Bool := u.bits[place]? == some true

/-- Whether the key makes signatures over documents. -/
def digitalSignature (u : KeyUsage) : Bool := u.bit 0

/-- Whether the key signs certificates. -/
def certificateSigning (u : KeyUsage) : Bool := u.bit 5

/-- Whether the key signs revocation lists. -/
def revocationSigning (u : KeyUsage) : Bool := u.bit 6

end KeyUsage

/-! ## Alternative names -/

/-- A name of the subject. Names of other forms are kept by the number of their tag. -/
inductive GeneralName where
  | other (oid : Oid) (value : Der.Element)
  | email (text : String)
  | dns (text : String)
  | uri (text : String)
  | unsupported (number : UInt8)

namespace GeneralName

/-- The text of a name. -/
def textOf (e : Der.Element) : Except CryptoError String :=
  match Bytes.text? e.content with
  | some text => .ok text
  | none => .error (.certificate .nameOctets)

/-- A name of a form of its own: its identifier, and a value in a wrapping of number 0. -/
def ofOther (e : Der.Element) : Except CryptoError GeneralName :=
  match e.children with
  | [oid, wrapping] =>
    if wrapping.tag.isContext 0 then
      match wrapping.children with
      | value :: _ => do return other (← PublicKey.reading oid.oid) value
      | [] => .error (.certificate .emptyOtherName)
    else .error (.certificate .malformedOtherName)
  | _ => .error (.certificate .malformedOtherName)

/-- The name in an element, whose number tells the form. -/
def ofElement (e : Der.Element) : Except CryptoError GeneralName :=
  if e.tag.isContext 0 then ofOther e
  else if e.tag.isContext 1 then (textOf e).map email
  else if e.tag.isContext 2 then (textOf e).map dns
  else if e.tag.isContext 6 then (textOf e).map uri
  else .ok (unsupported e.tag.number)

/-- The text of a mail address. -/
def email? : GeneralName → Option String
  | email text => some text
  | _ => none

/-- The text of a URI. -/
def uri? : GeneralName → Option String
  | uri text => some text
  | _ => none

/-- The text of a name of a form of its own. -/
def other? (wanted : Oid) : GeneralName → Option String
  | other oid value => if oid = wanted then value.text.toOption else none
  | _ => none

end GeneralName

/-- The names of a subject. -/
structure AlternativeNames where
  names : List GeneralName

namespace AlternativeNames

/-- The names of an extension. -/
def ofExtension (x : Extension) : Except CryptoError AlternativeNames := do
  return ⟨← (← x.inner).children.mapM GeneralName.ofElement⟩

/-- The first mail address. -/
def email (a : AlternativeNames) : Option String := a.names.findSome? GeneralName.email?

/-- The first URI. -/
def uri (a : AlternativeNames) : Option String := a.names.findSome? GeneralName.uri?

/-- The identity of the subject: the first mail address, without one the first URI. -/
def identity (a : AlternativeNames) : Option String := a.email.orElse fun _ => a.uri

/-- The text of the first name of a form of its own that has one. -/
def other (a : AlternativeNames) (oid : Oid) : Option String := a.names.findSome? (GeneralName.other? oid)

end AlternativeNames

/-! ## Key identifiers and timestamps -/

namespace Extension

/-- The content of an OCTET STRING in the value. -/
def innerOctets (x : Extension) (otherwise : Der.Tag → CertificateFault) : Except CryptoError Bytes := do
  let e ← x.inner
  if e.tag.isOctetString then return e.content else .error (.certificate (otherwise e.tag))

/-- The identifier of the issuer's key, if the value has one. -/
def authorityKeyId (x : Extension) : Except CryptoError (Option Bytes) := do
  return ((← x.inner).children.find? fun e => e.tag.isContext 0).map (·.content)

/-- The identifier of the subject's key. -/
def subjectKeyId (x : Extension) : Except CryptoError Bytes := x.innerOctets .keyIdentifierTag

/-- The encoded list of signed certificate timestamps. -/
def timestampList (x : Extension) : Except CryptoError Bytes := x.innerOctets .timestampListTag

end Extension

end ArtifactTrust
