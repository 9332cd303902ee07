import ArtifactTrust.Log.Entry

/-!
# Bodies of log entries

The body of a log entry is JSON. Its kind and version tell what it records: an artifact's digest and signature
(`ArtifactRecord`), a signed envelope by digests (`EnvelopeRecord`), or a signed envelope in full (`StatementRecord`).
What the body says of itself, its `kind` and `apiVersion`, is kept beside the record (`EntryBody`), and texts inside
records are kept as they are written. `EntryBody.parse` reads the body of an entry of a given kind and version.
-/

namespace ArtifactTrust

/-- A digest as a body records it: the name of the algorithm, and hexadecimal. -/
structure RecordedDigest where
  algorithm : String
  value : String
  deriving DecidableEq, Repr

/-- A signature and who can verify it, both in base64. The verifier is a certificate or a key in PEM. -/
structure RecordedSignature where
  signature : String
  verifier : String
  deriving DecidableEq, Repr

/-- An artifact's digest and the signature over the artifact. -/
structure ArtifactRecord where
  digest : RecordedDigest
  signature : RecordedSignature
  deriving DecidableEq, Repr

/-- The digests of an envelope and of its payload, and the envelope's signatures. -/
structure EnvelopeRecord where
  envelopeDigest : Option RecordedDigest
  payloadDigest : RecordedDigest
  signatures : List RecordedSignature
  deriving DecidableEq, Repr

/-- An envelope with its payload, in base64, and its signatures. A verifier may be left out. -/
structure StatementRecord where
  payloadType : String
  payload : String
  signatures : List RecordedSignature
  deriving DecidableEq, Repr

/-- What a body records. -/
inductive EntryRecord where
  | artifact (record : ArtifactRecord)
  | envelope (record : EnvelopeRecord)
  | statement (record : StatementRecord)
  deriving DecidableEq, Repr

/-- A body: what it says of itself, and what it records. -/
structure EntryBody where
  apiVersion : String
  kind : String
  record : EntryRecord
  deriving DecidableEq, Repr

/-- Why a body cannot be read, or a text in it cannot be decoded. -/
inductive BodyError where
  | base64
  | notText
  | payload
  | signature
  | schema (asked : KindVersion) (cause : Json.Cause)
  | unsupported (asked : KindVersion)
  deriving DecidableEq, Repr

/-- The words for why a body cannot be read. -/
def BodyError.message : BodyError → String
  | .base64 => "invalid entry body: failed to decode body: not base64"
  | .notText => "invalid entry body: body is not valid UTF-8: ill-formed octets"
  | .payload => "invalid entry body: invalid base64 payload: not base64"
  | .signature => "invalid entry body: invalid base64 signature: not base64"
  | .schema asked cause => s!"failed to parse {asked.kind} v{asked.version} body: " ++ cause.message
  | .unsupported asked => s!"unsupported entry kind/version: {asked.kind}/{asked.version}"

open Json

/-- Both parts are required. -/
def RecordedDigest.codec : Codec RecordedDigest :=
  ((Fields.required "algorithm" .text (·.algorithm)).and (Fields.required "value" .text (·.value))).codec
    fun (algorithm, value) => ⟨algorithm, value⟩

namespace RecordedSignature

/-- The signature of an artifact, with the verifier in an object of its own. -/
def ofArtifact : Codec RecordedSignature :=
  ((Fields.required "content" .text (·.signature)).and
    (Fields.required "publicKey" (.wrapped "content" .text) (·.verifier))).codec
    fun (signature, verifier) => ⟨signature, verifier⟩

/-- A signature of an envelope known by its digests. -/
def ofEnvelope : Codec RecordedSignature :=
  ((Fields.required "signature" .text (·.signature)).and (Fields.required "verifier" .text (·.verifier))).codec
    fun (signature, verifier) => ⟨signature, verifier⟩

/-- A signature of an envelope in full. -/
def ofStatement : Codec RecordedSignature :=
  ((Fields.required "sig" .text (·.signature)).and (Fields.withDefault "publicKey" .text "" (·.verifier))).codec
    fun (signature, verifier) => ⟨signature, verifier⟩

/-- The octets of the signature. -/
def octets (s : RecordedSignature) : Except BodyError Bytes :=
  match Base64.decode? s.signature with
  | some b => .ok b
  | none => .error .signature

end RecordedSignature

/-- The digest stands in an object of its own. -/
def ArtifactRecord.codec : Codec ArtifactRecord :=
  ((Fields.required "data" (.wrapped "hash" RecordedDigest.codec) (·.digest)).and
    (Fields.required "signature" RecordedSignature.ofArtifact (·.signature))).codec
    fun (digest, signature) => ⟨digest, signature⟩

/-- The digest of the payload is required. -/
def EnvelopeRecord.codec : Codec EnvelopeRecord :=
  ((Fields.optional "envelopeHash" RecordedDigest.codec (·.envelopeDigest)).and
    ((Fields.required "payloadHash" RecordedDigest.codec (·.payloadDigest)).and
      (Fields.withDefault "signatures" (.list RecordedSignature.ofEnvelope) [] (·.signatures)))).codec
    fun (envelopeDigest, payloadDigest, signatures) => ⟨envelopeDigest, payloadDigest, signatures⟩

namespace StatementRecord

/-- The payload and the signatures are required. -/
def envelopeCodec : Codec StatementRecord :=
  ((Fields.withDefault "payloadType" .text "" (·.payloadType)).and
    ((Fields.required "payload" .text (·.payload)).and
      (Fields.required "signatures" (.list RecordedSignature.ofStatement) (·.signatures)))).codec
    fun (payloadType, payload, signatures) => ⟨payloadType, payload, signatures⟩

/-- The envelope stands two objects deep. -/
def codec : Codec StatementRecord := .wrapped "content" (.wrapped "envelope" envelopeCodec)

/-- The octets of the payload. -/
def octets (s : StatementRecord) : Except BodyError Bytes :=
  match Base64.decode? s.payload with
  | some b => .ok b
  | none => .error .payload

end StatementRecord

/-- The kinds of records. -/
inductive RecordKind where
  | artifact | envelope | statement
  deriving DecidableEq, Repr

namespace RecordKind

/-- The kind of record that a kind and a version name. -/
def ofKindVersion? (kv : KindVersion) : Option RecordKind :=
  if kv = ⟨"hashedrekord", "0.0.1"⟩ then some artifact
  else if kv = ⟨"dsse", "0.0.1"⟩ then some envelope
  else if kv = ⟨"intoto", "0.0.2"⟩ then some statement
  else none

/-- Reads a record of a kind. -/
def read (k : RecordKind) (p : Place) (o : Outline) : Except Cause EntryRecord :=
  match k with
  | artifact => (ArtifactRecord.codec.read p o).map .artifact
  | envelope => (EnvelopeRecord.codec.read p o).map .envelope
  | statement => (StatementRecord.codec.read p o).map .statement

end RecordKind

/-- The kind of a record. -/
def EntryRecord.recordKind : EntryRecord → RecordKind
  | artifact _ => .artifact
  | envelope _ => .envelope
  | statement _ => .statement

/-- Writes a record. -/
def EntryRecord.write : EntryRecord → Value
  | artifact r => ArtifactRecord.codec.write r
  | envelope r => EnvelopeRecord.codec.write r
  | statement r => StatementRecord.codec.write r

namespace EntryBody

/-- The codec of bodies with a record of a kind. -/
def codec (k : RecordKind) : Codec EntryBody :=
  ((Fields.required "apiVersion" .text (·.apiVersion)).and
    ((Fields.required "kind" .text (·.kind)).and
      (Fields.one "spec" k.read none fun b => some b.record.write))).codec
    fun (apiVersion, kind, record) => ⟨apiVersion, kind, record⟩

/-- Reads the body of an entry of a kind and version. -/
def parse (kv : KindVersion) (body : Bytes) : Except BodyError EntryBody :=
  match RecordKind.ofKindVersion? kv with
  | none => .error (.unsupported kv)
  | some k =>
    match Bytes.text? body with
    | none => .error .notText
    | some text => ((codec k).parse text).mapError (.schema kv)

/-- Reads the body of an entry in base64. -/
def parseBase64 (kv : KindVersion) (text : String) : Except BodyError EntryBody :=
  match Base64.decode? text with
  | none => .error .base64
  | some body => parse kv body

/-- A body as JSON text. -/
def render (b : EntryBody) : String := (codec b.record.recordKind).render b

end EntryBody

end ArtifactTrust
