import ArtifactTrust.Bundle.Validation
import ArtifactTrust.Text.Pem

/-!
# Bundles as documents

A bundle comes as a JSON text. `Bundle.ofText` reads it, and `Bundle.load` reads it and applies every rule of its structure.
The words for what can be wrong with a document or with one of the texts in it are in `DocumentError.message`.
-/

namespace ArtifactTrust

/-- Why a document, or a text of the kinds that documents hold, cannot be read. -/
inductive DocumentError where
  | json (cause : Json.Cause)
  | encoding (fault : EncodingFault)
  | mediaType (text : String)
  | certificate (fault : Pem.Fault)
  deriving DecidableEq, Repr

/-- The words for why a document cannot be read. -/
def DocumentError.message : DocumentError → String
  | .json cause => "JSON error: " ++ cause.message
  | .encoding fault => "Invalid encoding: " ++ fault.message
  | .mediaType text => "Invalid media type: " ++ text
  | .certificate .noBlock => "Invalid certificate: invalid PEM: no block can be read"
  | .certificate (.label wanted found) => s!"Invalid certificate: expected {wanted} PEM block, got {found}"

/-- Why a bundle cannot be loaded. -/
inductive BundleError where
  | unreadable (cause : DocumentError)
  | invalid (rules : List BrokenRule)
  deriving DecidableEq, Repr

/-- The words for why a bundle cannot be loaded. -/
def BundleError.message : BundleError → String
  | .unreadable cause => "Bundle parse error: " ++ cause.message
  | .invalid rules => BrokenRule.message rules

/-- The version that a media type names. -/
def BundleVersion.ofMediaType (text : String) : Except DocumentError BundleVersion :=
  match ofMediaType? text with
  | some version => .ok version
  | none => .error (.mediaType text)

namespace Bundle

/-- The bundle of a text. -/
def ofText (text : String) : Except DocumentError Bundle := (parse text).mapError .json

/-- Succeeds if the bundle breaks no rule. -/
def validate (options : ValidationOptions) (b : Bundle) : Except BundleError Unit :=
  match b.brokenRules options with
  | [] => .ok ()
  | rules => .error (.invalid rules)

/-- The bundle of a text, if it keeps all rules. -/
def load (text : String) : Except BundleError Bundle := do
  let b ← (ofText text).mapError .unreadable
  b.validate ⟨true, true⟩
  return b

end Bundle

/-! ## Certificates in PEM -/

namespace CertificateText

/-- The label of certificate blocks. -/
def label : String := "CERTIFICATE"

/-- The octets of a certificate block. -/
def read (text : String) : Except DocumentError Bytes := (Pem.contentOf label text).mapError .certificate

/-- A certificate block. -/
def render (der : Bytes) : String := Pem.Block.render ⟨label, der⟩

end CertificateText

end ArtifactTrust
