import ArtifactTrust.Certificate.Extension
import ArtifactTrust.Time.Window

/-!
# Certificates

A certificate is a SEQUENCE of three elements: what is certified, the signature algorithm, and the signature.
`Certificate.parse` reads one and checks its structure; an extension that is marked critical has to be one of those that the
caller knows. Two certificates are the same when what they certify is the same, octet for octet (`Certificate.same`).
-/

namespace ArtifactTrust

/-- A certificate. `body` is what is certified, and `algorithm` the element that names the signature algorithm
`signatureOid`. -/
structure Certificate where
  root : Der.Element
  body : Der.Element
  algorithm : Der.Element
  signature : Bytes
  version : Int
  serial : Bytes
  issuer : Der.Element
  subject : Der.Element
  notBefore : Instant
  notAfter : Instant
  key : PublicKey
  signatureOid : Oid
  extensions : List Extension
  constraints : Option BasicConstraints
  usage : Option KeyUsage
  names : Option AlternativeNames
  authorityKeyId : Option Bytes
  subjectKeyId : Option Bytes

namespace Certificate

/-- The extensions whose meaning is known, so that they may be critical. -/
def recognized : List Oid := [Oid.keyUsage, Oid.basicConstraints, Oid.alternativeNames]

/-! ## Reading -/

/-- The fields after the version, and the version. It is left out in the first version, and one less than the version where
it is given. -/
def splitVersion (fields : List Der.Element) : Except CryptoError (Int × List Der.Element) :=
  match fields with
  | [] => .ok (1, [])
  | first :: rest =>
    if first.tag.isContext 0 then
      match first.children with
      | [] => .error (.certificate .emptyVersion)
      | e :: _ => do
        let number ← PublicKey.reading e.integer
        if 0 ≤ number ∧ number ≤ 2 then return (number + 1, rest) else .error (.certificate (.version number))
    else .ok (1, fields)

/-- The first and the last instant of validity. -/
def readValidity (e : Der.Element) : Except CryptoError (Instant × Instant) :=
  match e.children with
  | [first, last] => do
    let notBefore ← PublicKey.reading first.time
    let notAfter ← PublicKey.reading last.time
    return (notBefore, notAfter)
  | _ => .error (.certificate .validity)

/-- The object identifier of the signature algorithm. -/
def readAlgorithm (e : Der.Element) : Except CryptoError Oid :=
  match e.children with
  | oid :: _ => PublicKey.reading oid.oid
  | [] => .error (.certificate .emptyAlgorithm)

/-- The extensions in the first field of number 3. -/
def readExtensions (fields : List Der.Element) : Except CryptoError (List Extension) :=
  match fields.find? fun f => f.tag.isContext 3 with
  | none => .ok []
  | some field => match field.children with
    | [] => .error (.certificate .emptyExtensions)
    | sequence :: _ => sequence.children.mapM Extension.ofElement

/-- Goes over the extensions in their order: one that is critical has to be recognized, and none may be one of those before
it. -/
def checkExtensions (recognized : List Oid) (before : List Oid) : List Extension → Except CryptoError Unit
  | [] => .ok ()
  | x :: rest =>
    if x.critical ∧ x.oid ∉ recognized then .error (.certificate (.unrecognizedCritical x.oid))
    else if x.oid ∈ before then .error (.certificate (.duplicateExtension x.oid))
    else checkExtensions recognized (x.oid :: before) rest

/-- What an extension means, if there is one with an identifier. -/
def view {α : Type} (extensions : List Extension) (oid : Oid) (meaning : Extension → Except CryptoError α) :
    Except CryptoError (Option α) :=
  match extensions.find? fun x => x.oid = oid with
  | some x => (meaning x).map some
  | none => .ok none

/-- Reads a certificate. Extensions other than the recognized ones must not be critical. -/
def parseRecognizing (recognized : List Oid) (der : Bytes) : Except CryptoError Certificate := do
  let root ← PublicKey.reading (Der.Element.parse der)
  match root.children with
  | [body, algorithm, signatureElement] =>
    if !(body.tag.isSequence && signatureElement.tag.isBitString) then .error (.certificate .malformed)
    let signature ← PublicKey.reading signatureElement.wholeOctets
    let (version, fields) ← splitVersion body.children
    match fields with
    | serial :: _ :: issuer :: validity :: subject :: keyInfo :: _ => do
      let (notBefore, notAfter) ← readValidity validity
      let key ← PublicKey.ofElement keyInfo
      let signatureOid ← readAlgorithm algorithm
      let extensions ← readExtensions body.children
      checkExtensions recognized [] extensions
      let constraints ← view extensions Oid.basicConstraints BasicConstraints.ofExtension
      let usage ← view extensions Oid.keyUsage KeyUsage.ofExtension
      let names ← view extensions Oid.alternativeNames AlternativeNames.ofExtension
      let authorityKeyId ← view extensions Oid.authorityKeyId Extension.authorityKeyId
      let subjectKeyId ← view extensions Oid.subjectKeyId Extension.subjectKeyId
      return { root, body, algorithm, signature, version, serial := serial.content, issuer, subject, notBefore, notAfter
               key, signatureOid, extensions, constraints, usage, names, authorityKeyId := authorityKeyId.join
               subjectKeyId }
    | _ => .error (.certificate (.fieldCount body.children.length))
  | children => .error (.certificate (.rootElements children.length))

/-- Reads a certificate. -/
def parse (der : Bytes) : Except CryptoError Certificate := parseRecognizing recognized der

/-- The label of certificate blocks. -/
def label : String := "CERTIFICATE"

/-- The certificate in the first PEM block of a text. -/
def ofPem (text : String) : Except CryptoError Certificate := do parse (← (Pem.contentOf label text).mapError .pem)

/-- The certificates in the PEM blocks of a text. Blocks with other labels are passed over, but have to be well formed
too. -/
def chainOfPem (text : String) : Except CryptoError (List Certificate) :=
  match Pem.readAll? (Bytes.ofText text) with
  | none => .error (.pem .noBlock)
  | some blocks => (blocks.filter fun b => b.label = label).mapM fun b => parse b.content

/-! ## Facts of a certificate -/

/-- The octets of the certificate. -/
def der (c : Certificate) : Bytes := c.root.octets

/-- The octets of what is certified, which the signature is over. -/
def signedBytes (c : Certificate) : Bytes := c.body.octets

/-- The certificate as a PEM block. -/
def pem (c : Certificate) : String := Pem.Block.render ⟨label, c.der⟩

/-- Whether two certificates certify the same. -/
def same (a b : Certificate) : Bool := a.signedBytes == b.signedBytes

/-- The extension with an identifier. -/
def extension? (c : Certificate) (oid : Oid) : Option Extension := c.extensions.find? fun x => x.oid = oid

/-- The instants from `notBefore` to `notAfter`. -/
def validity (c : Certificate) : TimeWindow := ⟨some c.notBefore, some c.notAfter⟩

/-- Whether the certificate is valid at an instant. -/
def isValidAt (c : Certificate) (t : Instant) : Bool := c.validity.contains t

/-- Whether the certificate is one of an authority: it says so, and its key signs certificates if it has a stated usage. -/
def isAuthority (c : Certificate) : Bool := c.constraints.any (·.authority) && c.usage.all (·.certificateSigning)

/-- Whether issuer and subject have the same name. -/
def isSelfIssued (c : Certificate) : Bool := c.issuer == c.subject

/-- The identity of the subject. -/
def identity (c : Certificate) : Option String := c.names.bind (·.identity)

/-- The encoded list of signed certificate timestamps. -/
def timestampList (c : Certificate) : Except CryptoError (Option Bytes) :=
  view c.extensions Oid.timestampList Extension.timestampList

/-- The issuer of the identity: the text of the first element in the extension that holds a DER string, otherwise the
octets of the extension that holds plain ones, as far as they are text. -/
def identityIssuer (c : Certificate) : Option String :=
  ((c.extension? Oid.identityIssuerText).bind fun x => x.value.children.head?.bind fun e => e.text.toOption).orElse fun _ =>
    (c.extension? Oid.identityIssuer).bind fun x => Bytes.text? x.content

end Certificate

end ArtifactTrust
