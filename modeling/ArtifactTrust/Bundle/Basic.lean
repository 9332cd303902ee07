import ArtifactTrust.Bundle.Envelope
import ArtifactTrust.Log.Entry

/-!
# Bundles

A bundle travels beside an artifact and holds what is needed to verify it: the signature or a signed envelope, the signer's
certificates or a hint at a key, and the log entries that recorded the signing. `Bundle.parse` reads one from JSON and
`Bundle.codec` writes it again.

How the signer is identified is told by the name of a member: `certificate`, `x509CertificateChain` or `publicKey`. Of
several, the first one in the document counts.
-/

namespace ArtifactTrust

/-- The versions of the bundle format. -/
inductive BundleVersion where
  | v01 | v02 | v03
  deriving DecidableEq, Repr

namespace BundleVersion

/-- The media type of a version. -/
def mediaType : BundleVersion → String
  | v01 => "application/vnd.dev.sigstore.bundle+json;version=0.1"
  | v02 => "application/vnd.dev.sigstore.bundle+json;version=0.2"
  | v03 => "application/vnd.dev.sigstore.bundle.v0.3+json"

/-- The version that a media type names. Version 0.3 may be written in the older form too. -/
def ofMediaType? (s : String) : Option BundleVersion :=
  if s = v01.mediaType then some v01
  else if s = v02.mediaType then some v02
  else if s = v03.mediaType ∨ s = "application/vnd.dev.sigstore.bundle+json;version=0.3" then some v03
  else none

end BundleVersion

/-- A digest and its algorithm. -/
structure MessageDigest where
  algorithm : DigestAlgorithm
  digest : Sha256Value
  deriving DecidableEq

/-- A signature over the artifact, with the digest that the signer recorded. -/
structure MessageSignature where
  digest : Option MessageDigest
  signature : Bytes
  deriving DecidableEq

/-- What was signed: the artifact itself, or an envelope about it. -/
inductive SignedContent where
  | message (signature : MessageSignature)
  | envelope (envelope : Envelope)
  deriving DecidableEq

/-- How the signer is identified: the signing certificate alone, a chain with it in front, or a hint at a key that the
verifier holds. -/
inductive SignerSource where
  | certificate (der : Bytes)
  | chain (ders : List Bytes)
  | keyHint (hint : String)
  deriving DecidableEq, Repr

/-- The signer and the log entries. -/
structure VerificationMaterial where
  signer : SignerSource
  entries : List LogEntry
  deriving DecidableEq

/-- A bundle. The media type is kept as it was written, whether or not it names a version. -/
structure Bundle where
  mediaType : String
  material : VerificationMaterial
  content : Option SignedContent
  deriving DecidableEq

namespace Bundle

/-- The version that the media type names. -/
def version? (b : Bundle) : Option BundleVersion := BundleVersion.ofMediaType? b.mediaType

/-- The certificates of the bundle, the signer's first. -/
def certificates (b : Bundle) : List Bytes :=
  match b.material.signer with
  | .certificate der => [der]
  | .chain ders => ders
  | .keyHint _ => []

/-- The log entries of the bundle. -/
def entries (b : Bundle) : List LogEntry := b.material.entries

end Bundle

open Json

/-- Both parts are required. -/
def MessageDigest.codec : Codec MessageDigest :=
  ((Fields.required "algorithm" .digestAlgorithm (·.algorithm)).and
    (Fields.required "digest" .sha256 (·.digest))).codec
    fun (algorithm, digest) => ⟨algorithm, digest⟩

/-- Both parts may be missing. -/
def MessageSignature.codec : Codec MessageSignature :=
  ((Fields.optional "messageDigest" MessageDigest.codec (·.digest)).and
    (Fields.withDefault "signature" .octets [] (·.signature))).codec
    fun (digest, signature) => ⟨digest, signature⟩

/-- An object around the octets of a certificate. -/
def certificateCodec : Codec Bytes := (Fields.withDefault "rawBytes" .octets [] id).codec id

namespace SignerSource

/-- An object around a list of certificates. -/
def chainCodec : Codec (List Bytes) := (Fields.withDefault "certificates" (.list certificateCodec) [] id).codec id

/-- An object around a hint. -/
def hintCodec : Codec String := (Fields.withDefault "hint" .text "" id).codec id

/-- The signer that a member of the material tells of, if it is one that does. -/
def ofMember? (p : Place) (key : String) (o : Outline) : Option (Except Cause SignerSource) :=
  if key = "certificate" then some ((certificateCodec.read p o).map .certificate)
  else if key = "x509CertificateChain" then some ((chainCodec.read p o).map .chain)
  else if key = "publicKey" then some ((hintCodec.read p o).map .keyHint)
  else none

/-- The member that tells of a signer. -/
def member : SignerSource → String × Value
  | certificate der => ("certificate", certificateCodec.write der)
  | chain ders => ("x509CertificateChain", chainCodec.write ders)
  | keyHint hint => ("publicKey", hintCodec.write hint)

end SignerSource

namespace VerificationMaterial

/-- The entries of the material, which may be `null`. -/
def entriesCodec : Codec (Option (List LogEntry)) := Codec.orNull (.list LogEntry.codec)

/-- Walks over the members of the material. The entries are read where they stand; every other member is read to its end and
kept, as it may tell of the signer. -/
def gather (p : Place) (ending : Option Cause) (entries : Option (List LogEntry)) (kept : List (String × Outline)) :
    List (Outline × Outline) → Except Cause (List LogEntry × List (String × Outline))
  | [] => (closed ending).map fun _ => (entries.getD [], kept.reverse)
  | (key, o) :: rest => do
    let name ← key.memberName o
    if name = "tlogEntries" then
      if entries.isSome then .error .mismatch
      else do
        let es ← entriesCodec.read p o
        gather p ending (some (es.getD [])) kept rest
    else do
      o.readAll p.depth
      gather p ending entries ((name, o) :: kept) rest

/-- Reads the material from an object. The signer is read last, from the first member that tells of one. -/
def read (p : Place) : Outline → Except Cause VerificationMaterial
  | .object members ending => do
    let (entries, kept) ← gather p.deeper ending none [] members
    match kept.findSome? fun (key, o) => SignerSource.ofMember? { p with buffered := true } key o with
    | some signer => return ⟨← signer, entries⟩
    | none => .error .mismatch
  | o => wrongKind o

/-- The signer's member comes first. -/
def write (m : VerificationMaterial) : Value :=
  .object [m.signer.member, ("tlogEntries", .array (m.entries.map LogEntry.codec.write))]

/-- How the material is read and written. -/
def codec : Codec VerificationMaterial := ⟨read, write⟩

end VerificationMaterial

namespace SignedContent

/-- The member that tells what was signed. -/
def member : SignedContent → String × Value
  | message signature => ("messageSignature", MessageSignature.codec.write signature)
  | envelope e => ("dsseEnvelope", Envelope.codec.write e)

end SignedContent

namespace Bundle

/-- What a bundle is read from. A document without a media type is of version 0.1. The content is written by `write`
below. -/
def fields : Fields Bundle (String × VerificationMaterial × Option MessageSignature × Option Envelope) :=
  (Fields.withDefault "mediaType" .text BundleVersion.v01.mediaType (·.mediaType)).and
    ((Fields.required "verificationMaterial" VerificationMaterial.codec (·.material)).and
      ((Fields.one "messageSignature" MessageSignature.codec.orNull.read (some none) fun _ => none).and
        (Fields.one "dsseEnvelope" Envelope.codec.orNull.read (some none) fun _ => none)))

/-- Reads a bundle. One with both kinds of content is refused. -/
def read (p : Place) (o : Outline) : Except Cause Bundle := do
  let (mediaType, material, message, envelope) ← fields.read p o
  match message, envelope with
  | some _, some _ => .error .mismatch
  | some s, none => return ⟨mediaType, material, some (.message s)⟩
  | none, some e => return ⟨mediaType, material, some (.envelope e)⟩
  | none, none => return ⟨mediaType, material, none⟩

/-- Writes a bundle, the content last. -/
def write (b : Bundle) : Value := .object (fields.write b ++ (b.content.map SignedContent.member).toList)

/-- How a bundle is read and written. -/
def codec : Codec Bundle := ⟨read, write⟩

/-- The bundle of a JSON text. -/
def parse (text : String) : Except Cause Bundle := codec.parse text

end Bundle

end ArtifactTrust
