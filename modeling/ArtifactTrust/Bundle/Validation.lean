import ArtifactTrust.Bundle.Basic

/-!
# The structure of a bundle

Rules that a bundle keeps before any signature is looked at. Every broken rule is reported, by the path of the member that
breaks it: first the media type, then the content, then the signer, then the entries in their order (`Bundle.brokenRules`).
-/

namespace ArtifactTrust

/-- The rules that a bundle can break, those of a certificate or an entry with its place. -/
inductive BrokenRule where
  | mediaType
  | content
  | messageSignature
  | digestAlgorithm
  | payload
  | payloadType
  | envelopeSignature
  | signatureCount
  | chainForbidden
  | emptyChain
  | chainCertificate (place : Nat)
  | certificate
  | logId (place : Nat)
  | kindVersion (place : Nat)
  | body (place : Nat)
  | promise (place : Nat)
  | proof (place : Nat)
  | checkpoint (place : Nat)
  deriving DecidableEq, Repr

namespace BrokenRule

/-- The path of a member of an entry. -/
def entryPath (place : Nat) (member : String) : String := s!"verificationMaterial.tlogEntries[{place}]." ++ member

/-- The path of the member that breaks a rule. -/
def path : BrokenRule → String
  | mediaType => "mediaType"
  | content => "content"
  | messageSignature => "messageSignature.signature"
  | digestAlgorithm => "messageSignature.messageDigest.algorithm"
  | payload => "dsseEnvelope.payload"
  | payloadType => "dsseEnvelope.payloadType"
  | envelopeSignature => "dsseEnvelope.signatures[0].sig"
  | signatureCount => "dsseEnvelope.signatures"
  | chainForbidden => "verificationMaterial.x509CertificateChain"
  | emptyChain => "verificationMaterial.x509CertificateChain.certificates"
  | chainCertificate place => s!"verificationMaterial.x509CertificateChain.certificates[{place}].rawBytes"
  | certificate => "verificationMaterial.certificate.rawBytes"
  | logId place => entryPath place "logId"
  | kindVersion place => entryPath place "kindVersion"
  | body place => entryPath place "canonicalizedBody"
  | promise place => entryPath place "inclusionPromise"
  | proof place => entryPath place "inclusionProof"
  | checkpoint place => entryPath place "inclusionProof.checkpoint"

end BrokenRule

/-- Which promises of a log are required: the signed promise of the entries of version 0.1, the proof of later ones. -/
structure ValidationOptions where
  promiseRequired : Bool
  proofRequired : Bool
  deriving DecidableEq, Repr

/-- A rule, if it is broken. -/
def BrokenRule.when (broken : Bool) (rule : BrokenRule) : List BrokenRule := if broken then [rule] else []

open BrokenRule (when)

/-- The rules that the content breaks. -/
def SignedContent.brokenRules : Option SignedContent → List BrokenRule
  | none => [.content]
  | some (.message s) =>
    when s.signature.isEmpty .messageSignature ++
      when (s.digest.any fun d => d.algorithm != .sha256) .digestAlgorithm
  | some (.envelope e) =>
    when e.payload.isEmpty .payload ++ when e.payloadType.isEmpty .payloadType ++
      match e.signatures with
      | [s] => when s.signature.isEmpty .envelopeSignature
      | _ => [.signatureCount]

/-- The rules that the signer breaks. -/
def SignerSource.brokenRules (version : Option BundleVersion) : SignerSource → List BrokenRule
  | .certificate der => when der.isEmpty .certificate
  | .chain ders =>
    when (version == some .v03) .chainForbidden ++ when ders.isEmpty .emptyChain ++
      (ders.zipIdx.flatMap fun (der, place) => when der.isEmpty (.chainCertificate place))
  | .keyHint _ => []

/-- The rules that an entry breaks. Those of a version do not apply where the version is unknown. -/
def LogEntry.brokenRules (version : Option BundleVersion) (options : ValidationOptions) (e : LogEntry) (place : Nat) :
    List BrokenRule :=
  when e.logId.isNone (.logId place) ++ when e.kindVersion.isNone (.kindVersion place) ++
    when e.body.isEmpty (.body place) ++
    match version with
    | none => []
    | some .v01 => when (options.promiseRequired && e.promise.isNone) (.promise place)
    | some _ =>
      match e.proof with
      | none => when options.proofRequired (.proof place)
      | some proof => when proof.checkpoint.isEmpty (.checkpoint place)

/-- All rules that a bundle breaks. -/
def Bundle.brokenRules (options : ValidationOptions) (b : Bundle) : List BrokenRule :=
  when b.version?.isNone .mediaType ++ SignedContent.brokenRules b.content ++
    b.material.signer.brokenRules b.version? ++
    (b.entries.zipIdx.flatMap fun (e, place) => e.brokenRules b.version? options place)

/-- The words for the broken rules of a bundle. -/
def BrokenRule.message (rules : List BrokenRule) : String :=
  "Bundle validation error: missing or invalid " ++ ", ".intercalate (rules.map path)

end ArtifactTrust
