import ArtifactTrust.Json.Scalar

/-!
# Signed envelopes

A DSSE envelope carries a payload, the type of the payload, and signatures. What is signed is not the payload but its
pre-authentication encoding (`Envelope.signedBytes`), which binds the type as well.
-/

namespace ArtifactTrust

/-- A signature of an envelope, with a hint at its key. -/
structure EnvelopeSignature where
  keyId : String
  signature : Bytes
  deriving DecidableEq, Repr

/-- A payload with its type and signatures. -/
structure Envelope where
  payloadType : String
  payload : Bytes
  signatures : List EnvelopeSignature
  deriving DecidableEq, Repr

/-- The pre-authentication encoding of a payload and its type: the name of the encoding, then both with their lengths
in octets in front. -/
def preAuthEncoding (payloadType : String) (payload : Bytes) : Bytes :=
  Bytes.ofText s!"DSSEv1 {payloadType.utf8ByteSize} " ++ Bytes.ofText payloadType ++
    Bytes.ofText s!" {payload.length} " ++ payload

namespace Envelope

/-- The type of a payload that is an in-toto statement. -/
def statementType : String := "application/vnd.in-toto+json"

/-- What each signature of the envelope is made over. -/
def signedBytes (e : Envelope) : Bytes := preAuthEncoding e.payloadType e.payload

/-- Whether the payload is an in-toto statement. -/
def holdsStatement (e : Envelope) : Bool := e.payloadType == statementType

end Envelope

open Json

/-- An empty key hint is not written. -/
def EnvelopeSignature.codec : Codec EnvelopeSignature :=
  ((Fields.one "keyid" Codec.text.read (some "") fun s => if s.keyId = "" then none else some (.text s.keyId)).and
    (Fields.withDefault "sig" .octets [] (·.signature))).codec
    fun (keyId, signature) => ⟨keyId, signature⟩

/-- The type and the payload are required. -/
def Envelope.codec : Codec Envelope :=
  ((Fields.required "payloadType" .text (·.payloadType)).and
    ((Fields.required "payload" .octets (·.payload)).and
      (Fields.withDefault "signatures" (.list EnvelopeSignature.codec) [] (·.signatures)))).codec
    fun (payloadType, payload, signatures) => ⟨payloadType, payload, signatures⟩

end ArtifactTrust
