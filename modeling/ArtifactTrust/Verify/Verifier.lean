import ArtifactTrust.Policy.Identity
import ArtifactTrust.Verify.Content

/-!
# Verifying bundles

A verifier holds trust material and keys that bundles may hint at. `Verifier.verify` checks an artifact and a bundle under a
policy; the first check that fails is the answer. The checks are, in this order: the structure of the bundle, the path of the
signing certificate and the timestamps in it (`Verifier.checkSigner`), the identity (`Policy.checkIdentity`), the log entries
(`Verifier.checkEntries`), and the signature (`SignedContent.verify`).
-/

namespace ArtifactTrust

/-- What a verified bundle has shown. -/
structure Verified where
  /-- The number of certificates on the signer's path, none for a key. -/
  chainLength : Nat
  identity : Option String
  issuer : Option String
  /-- How many timestamps in the certificate have verified. -/
  timestamps : Nat
  /-- How many log entries have verified. -/
  entries : Nat
  /-- The instant that the certificates were judged at. Without certificates or a promised time it is the present. -/
  time : Option Instant
  deriving DecidableEq, Repr

/-- Trust material, and keys by their hints. -/
structure Verifier where
  trust : TrustMaterial
  keys : List (String × PublicKey) := []

namespace Bundle

/-- The log entries that carry a promise. Only their times are signed by a log. -/
def promised (b : Bundle) : List LogEntry := b.entries.filter (·.promise.isSome)

/-- The instant of a log entry. -/
def instantOf (e : LogEntry) : Except VerifyError Instant := e.time?.elim (.error (.bundle (.time e.integratedTime))) .ok

/-- The earliest of the promised entries. -/
def earliest? : List LogEntry → Option LogEntry
  | [] => none
  | e :: rest =>
    match earliest? rest with
    | none => some e
    | some first => if e.integratedTime ≤ first.integratedTime then some e else some first

/-- The earliest promised instant, if there is one. -/
def promisedTime (b : Bundle) : Except VerifyError (Option Instant) :=
  match earliest? b.promised with
  | none => .ok none
  | some e => (instantOf e).map some

/-- Every promised instant lies in the validity of a certificate. -/
def checkTimes (b : Bundle) (leaf : Certificate) : Except VerifyError Unit :=
  b.promised.forM fun e => do
    let t ← instantOf e
    require (leaf.isValidAt t) (.rejected (.outsideValidity t leaf.notBefore leaf.notAfter))

end Bundle

/-- If a policy asks for identities, a certificate of the signer carries one of them. -/
def Policy.checkIdentity (p : Policy) (signer : Signer) : Except VerifyError Unit :=
  if p.identities.isEmpty then .ok ()
  else match signer.leaf? with
    | none => .error (.rejected .identityOfKey)
    | some leaf => do discard <| (leaf.verifyIdentity p.identities).mapError .ofIdentity

namespace Verifier

/-- The verifier of a trusted root. -/
def ofRoot (root : TrustedRoot) : Except VerifyError Verifier := do
  return { trust := ← (TrustMaterial.ofRoot root).mapError .trust }

/-- With another key. It takes the place of one with the same hint. -/
def addKey (v : Verifier) (hint : String) (key : PublicKey) : Verifier := { v with keys := (hint, key) :: v.keys }

/-- The certificate of its octets. -/
def certificateOf (der : Bytes) : Except VerifyError Certificate := (Certificate.parse der).mapError .crypto

/-- The signer that a bundle tells of. Of a chain the leaf is decoded last. -/
def signerOf (v : Verifier) : SignerSource → Except VerifyError Signer
  | .certificate der => do return .certificate (← certificateOf der) []
  | .chain [] => .error (.bundle .noCertificates)
  | .chain (der :: rest) => do
    let chain ← rest.mapM certificateOf
    return .certificate (← certificateOf der) chain
  | .keyHint hint => (v.keys.lookup hint).elim (.error (.bundle (.unknownHint hint))) fun k => .ok (.key k)

/-- The path of a certificate to the first of some authorities that it has one to. Without one the answer is that of the last
authority. -/
def firstPath (leaf : Certificate) (chain : List Certificate) (t : Instant) (answer : PathError) :
    List Authority → Except PathError (List Certificate)
  | [] => .error answer
  | a :: rest =>
    match Path.verify leaf a.certificates chain t with
    | .ok path => .ok path
    | .error fault => firstPath leaf chain t fault rest

/-- The path of a certificate to an authority that is trusted at an instant. -/
def findPath (v : Verifier) (leaf : Certificate) (chain : List Certificate) (t : Instant) :
    Except PathError (List Certificate) :=
  firstPath leaf chain t .noAnchors (v.trust.authoritiesAt t)

/-- The number of verified timestamps in the leaf of a path, which the next certificate on it has issued. Every
verified path has one. -/
def checkTimestamps (v : Verifier) (p : Policy) : List Certificate → Except VerifyError Nat
  | leaf :: issuer :: _ =>
    if p.checksTimestamps then
      (leaf.verifyTimestamps issuer v.trust.certificateLogs p.timestampThreshold).mapError .ofTimestamps
    else .ok 0
  | path => .error (.path (.tooShort path.length))

/-- What a signer shows. A certificate is judged at the earliest promised time; without one, at the time when its own
validity begins. -/
def checkSigner (v : Verifier) (p : Policy) (promised : Option Instant) : Signer → Except VerifyError Verified
  | .key _ => .ok { chainLength := 0, identity := none, issuer := none, timestamps := 0, entries := 0, time := promised }
  | .certificate leaf chain => do
    let t := promised.getD leaf.notBefore
    let path ← (v.findPath leaf chain t).mapError .path
    let timestamps ← v.checkTimestamps p path
    return { chainLength := path.length, identity := leaf.identity, issuer := leaf.identityIssuer, timestamps, entries := 0
             time := some t }

/-- A log entry is promised by a trusted log, and its body describes the content, the signer and the artifact. -/
def checkEntry (v : Verifier) (content : SignedContent) (signer : Signer) (artifact : Sha256Value) (e : LogEntry) :
    Except VerifyError Unit := do
  (e.verifyPromise v.trust.logs).mapError .ofPromise
  e.verifyBody content signer artifact

/-- The number of verified log entries. Every entry has to verify, the signer's certificate has to have been valid at
the times of all of them, and there have to be as many as the policy asks for. -/
def checkEntries (v : Verifier) (p : Policy) (b : Bundle) (content : SignedContent) (signer : Signer)
    (artifact : Sha256Value) : Except VerifyError Nat :=
  if p.checksEntries then do
    b.entries.forM (v.checkEntry content signer artifact)
    match signer.leaf? with
    | some leaf => b.checkTimes leaf
    | none => pure ()
    let found := b.entries.length
    require (p.entryThreshold ≤ found) (.rejected (.entryCount found p.entryThreshold))
    return found
  else .ok 0

/-- Checks an artifact and a bundle under a policy. -/
def verify (v : Verifier) (artifact : Artifact) (b : Bundle) (p : Policy) : Except VerifyError Verified := do
  match b.brokenRules ⟨p.checksEntries, p.checksEntries⟩ with
  | [] => pure ()
  | broken => .error (.bundle (.rules broken))
  let content ← b.content.elim (.error (.bundle .noContent)) .ok
  let signer ← v.signerOf b.material.signer
  let promised ← b.promisedTime
  let shown ← v.checkSigner p promised signer
  p.checkIdentity signer
  let entries ← v.checkEntries p b content signer artifact.sha256
  content.verify signer.publicKey artifact
  return { shown with entries }

end Verifier

end ArtifactTrust
