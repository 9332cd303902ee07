import ArtifactTrust.Certificate.Basic
import ArtifactTrust.Pattern.Parser
import ArtifactTrust.Text.Quoted

/-!
# Expected identities and policies

A signing certificate names its subject, the identity, and who vouched for it, the issuer of the identity. An expected
identity (`ExpectedIdentity`) constrains both, and further extensions. `Certificate.verifyIdentity` asks for one of
several. A policy (`Policy`) says what is asked of a bundle beyond a signature that verifies.
-/

namespace ArtifactTrust

/-- How the name of a subject is matched: it is a text, or a pattern is found in it. -/
inductive NameMatcher where
  | exact (name : String)
  | pattern (p : Pattern)

namespace NameMatcher

/-- Whether a name is accepted. -/
def accepts : NameMatcher → String → Bool
  | exact wanted, name => wanted == name
  | pattern p, name => p.isFoundIn name

/-- A matcher as text: the name itself, or the pattern between slashes. -/
def text : NameMatcher → String
  | exact name => name
  | pattern p => "/" ++ p.source ++ "/"

end NameMatcher

/-- An identity that a certificate may carry: who vouched for it, its name, and texts that extensions hold. -/
structure ExpectedIdentity where
  issuer : String
  name : NameMatcher
  extensions : List (Oid × String)

/-- Why a certificate does not carry an expected identity: a pattern that says nothing was asked for, it has no name,
or no expected identity has its name and issuer. -/
inductive IdentityFault where
  | pattern (source : String)
  | noName
  | unexpected (name : String) (issuer : Option String)
  deriving DecidableEq, Repr

/-- The words for a certificate without an expected identity. -/
def IdentityFault.message : IdentityFault → String
  | .pattern source => "invalid SAN pattern " ++ Quoted.quote source ++ ": it has no meaning"
  | .noName => "certificate has no email or URI subject alternative name"
  | .unexpected name issuer =>
    "certificate identity " ++ name ++ " (issuer " ++ issuer.getD "" ++ ") does not match any trusted identity"

/-- The matcher for a pattern. -/
def NameMatcher.ofPattern (source : String) : Except IdentityFault NameMatcher :=
  match Pattern.ofString? source with
  | some p => .ok (.pattern p)
  | none => .error (.pattern source)

/-- Whether an extension holds a text: as its content, or as the first string in it. -/
def Extension.holds (x : Extension) (text : String) : Bool :=
  x.content == Bytes.ofText text || x.value.children.head?.any fun e => e.text.toOption == some text

/-- Whether a certificate whose subject has a name carries an expected identity. -/
def ExpectedIdentity.accepts (i : ExpectedIdentity) (c : Certificate) (name : String) : Bool :=
  c.identityIssuer == some i.issuer && i.name.accepts name &&
    i.extensions.all fun (oid, text) => (c.extension? oid).any fun x => x.holds text

/-- The name of a certificate's subject, if the certificate carries one of the expected identities. -/
def Certificate.verifyIdentity (c : Certificate) (expected : List ExpectedIdentity) : Except IdentityFault String :=
  match c.identity with
  | none => .error .noName
  | some name =>
    if expected.any fun i => i.accepts c name then .ok name else .error (.unexpected name c.identityIssuer)

/-- A policy: who may have signed, and how much the logs have to say. Unless it says otherwise, anyone may have signed, and one
certificate timestamp and one log entry are asked for. -/
structure Policy where
  /-- The identities that the signer may have; anyone if there are none. -/
  identities : List ExpectedIdentity := []
  /-- How many timestamps in the certificate have to verify, if they are checked. -/
  timestampThreshold : Nat := 1
  /-- How many log entries have to verify, if they are checked. -/
  entryThreshold : Nat := 1
  checksTimestamps : Bool := true
  checksEntries : Bool := true

end ArtifactTrust
