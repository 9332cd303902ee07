import ArtifactTrust.Der.Content
import ArtifactTrust.Signature.Scheme
import ArtifactTrust.Text.Pem

/-!
# What can be wrong with keys, signatures and certificates

Each cause is a constructor of its own, and `CryptoError.message` words it.
-/

namespace ArtifactTrust

/-- Why a signature check gives no success. -/
inductive SignatureFault where
  | invalid (scheme : Scheme)
  | digestSize (size : Nat)
  deriving DecidableEq, Repr

/-- Why an element is no public key. -/
inductive KeyFault where
  | elements
  | missingAlgorithm
  | missingCurve
  deriving DecidableEq, Repr

/-- What is well formed and not supported. -/
inductive Unsupported where
  | curve (oid : Oid)
  | keyAlgorithm (oid : Oid)
  | overDigest (scheme : Scheme)
  | ed25519OverDigest
  | certificateSignature (oid : Oid) (key : KeyKind)
  deriving DecidableEq, Repr

/-- Why an element is no certificate that can be used. -/
inductive CertificateFault where
  | rootElements (count : Nat)
  | malformed
  | emptyVersion
  | version (number : Int)
  | fieldCount (count : Nat)
  | validity
  | emptyAlgorithm
  | emptyExtensions
  | extensionElements (count : Nat)
  | extensionValueTag (tag : Der.Tag)
  | unrecognizedCritical (oid : Oid)
  | duplicateExtension (oid : Oid)
  | valueNotDer (oid : Oid)
  | malformedOtherName
  | emptyOtherName
  | nameOctets
  | keyIdentifierTag (tag : Der.Tag)
  | timestampListTag (tag : Der.Tag)
  deriving DecidableEq

/-- Why a key, a signature or a certificate cannot be used. -/
inductive CryptoError where
  | signature (fault : SignatureFault)
  | key (fault : KeyFault)
  | unsupported (what : Unsupported)
  | pem (fault : Pem.Fault)
  | der (cause : Der.Error)
  | certificate (fault : CertificateFault)
  deriving DecidableEq

/-- The words for a failed signature check. -/
def SignatureFault.message : SignatureFault → String
  | .invalid scheme => scheme.name ++ " signature invalid"
  | .digestSize size => s!"prehashed verification requires a 32-byte digest, got {size}"

/-- The words for an element that is no public key. -/
def KeyFault.message : KeyFault → String
  | .elements => "SubjectPublicKeyInfo must have two elements"
  | .missingAlgorithm => "missing public key algorithm"
  | .missingCurve => "EC key without curve"

/-- The words for what is not supported. -/
def Unsupported.message : Unsupported → String
  | .curve oid => "EC curve " ++ oid
  | .keyAlgorithm oid => "public key algorithm " ++ oid
  | .overDigest scheme => scheme.name ++ " cannot be checked against a SHA-256 digest"
  | .ed25519OverDigest => "Ed25519 signatures cannot be checked against a digest"
  | .certificateSignature oid key => "signature algorithm " ++ oid ++ " with " ++ key.name ++ " key"

/-- The words for an element that is no certificate. -/
def CertificateFault.message : CertificateFault → String
  | .rootElements count => s!"certificate has {count} top-level elements, expected 3"
  | .malformed => "malformed certificate structure"
  | .emptyVersion => "empty version"
  | .version number => s!"unknown certificate version {number}"
  | .fieldCount count => s!"TBSCertificate has {count} elements"
  | .validity => "validity must have two elements"
  | .emptyAlgorithm => "empty signature algorithm"
  | .emptyExtensions => "empty extensions wrapper"
  | .extensionElements count => s!"extension has {count} elements"
  | .extensionValueTag tag => "extension value has tag " ++ tag.text ++ ", expected OCTET STRING"
  | .unrecognizedCritical oid => "unrecognized critical extension " ++ oid
  | .duplicateExtension oid => "duplicate extension " ++ oid
  | .valueNotDer oid => "extension " ++ oid ++ " value is not DER"
  | .malformedOtherName => "malformed otherName"
  | .emptyOtherName => "empty otherName value"
  | .nameOctets => "SAN is not UTF-8: ill-formed octets"
  | .keyIdentifierTag tag => "subjectKeyIdentifier has tag " ++ tag.text
  | .timestampListTag tag => "SCT list extension has tag " ++ tag.text

/-- The words for an error. -/
def CryptoError.message : CryptoError → String
  | .signature fault => "Verification error: " ++ fault.message
  | .key fault => "Invalid key format: " ++ fault.message
  | .unsupported what => "Unsupported algorithm: " ++ what.message
  | .pem .noBlock => "PEM error: no block can be read"
  | .pem (.label wanted found) => s!"PEM error: expected {wanted} block, got {found}"
  | .der cause => "ASN.1 error: " ++ cause.message
  | .certificate fault => "Certificate error: " ++ fault.message

end ArtifactTrust
