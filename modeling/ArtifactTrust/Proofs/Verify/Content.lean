import ArtifactTrust.Proofs.Success
import ArtifactTrust.Verify.Content

/-!
# What a signature has to show

`SignedContent.Signed` says when the content of a bundle is signed under a key and about an artifact, and
`SignedContent.verify_eq_ok_iff` that it is checked for exactly this.
-/

namespace ArtifactTrust

open Success

/-! ## Signatures under a key -/

/-- A signature of octets verifies under a key with the scheme of its kind. -/
def PublicKey.Signs (k : PublicKey) (message signature : Bytes) : Prop :=
  k.defaultScheme.verify k.octets message signature = true

/-- A signature verifies under a key against the digest of what it signs; the kind of key signs digests. -/
def PublicKey.SignsDigest (k : PublicKey) (digest signature : Bytes) : Prop :=
  ∃ scheme, k.digestScheme? = some scheme ∧ scheme.verifyDigest k.octets digest signature = true

theorem PublicKey.check_eq_ok_iff {k : PublicKey} {message signature : Bytes} {u : Unit} :
    k.check message signature = .ok u ↔ k.Signs message signature := by
  rw [check, Scheme.check, Signs]
  split <;> simp_all

/-- Digests are signed with SHA-256. -/
theorem PublicKey.usesSha256_of_digestScheme? {k : PublicKey} {s : Scheme} (h : k.digestScheme? = some s) :
    s.usesSha256 = true := by
  unfold digestScheme? at h
  split at h <;> cases h <;> rfl

theorem PublicKey.checkDigest_eq_ok_iff {k : PublicKey} {d : Sha256Value} {signature : Bytes} {u : Unit} :
    k.checkDigest d.octets signature = .ok u ↔ k.SignsDigest d.octets signature := by
  unfold checkDigest SignsDigest
  cases h : k.digestScheme? with
  | none => simp
  | some s => simp [Scheme.checkDigest, usesSha256_of_digestScheme? h, d.size]

/-! ## Contents -/

/-- A statement has the digest of an artifact among its subjects, or no subjects at all. -/
def Statement.IsAbout (s : Statement) (artifact : Sha256Value) : Prop :=
  s.subjects = [] ∨
    ∃ subject ∈ s.subjects, ∃ value, subject.digest? "sha256" = some value ∧
      Ascii.sameIgnoringCase value artifact.hex = true

theorem Statement.covers_iff {s : Statement} {artifact : Sha256Value} : s.covers artifact = true ↔ s.IsAbout artifact := by
  simp only [covers, names, Bool.or_eq_true, List.isEmpty_iff, List.any_eq_true, Option.any_eq_true, IsAbout]

/-- The signature over an artifact verifies under a key, and the recorded digest, if there is one, is the artifact's. -/
structure MessageSignature.Signed (s : MessageSignature) (key : PublicKey) (artifact : Artifact) : Prop where
  digest : ∀ d, s.digest = some d → d.digest = artifact.sha256
  signature : match artifact with
    | .octets b => key.Signs b s.signature
    | .digest d => key.SignsDigest d.octets s.signature

/-- The only signature of an envelope verifies under a key, over the type and the payload together; a payload that is a
statement is about the artifact. -/
structure Envelope.Signed (e : Envelope) (key : PublicKey) (artifact : Sha256Value) : Prop where
  signature : ∃ s, e.signatures = [s] ∧ key.Signs e.signedBytes s.signature
  subject : e.payloadType = statementType → ∃ s, Statement.parse e.payload = .ok s ∧ s.IsAbout artifact

/-- What was signed is signed under a key and about an artifact. -/
def SignedContent.Signed (content : SignedContent) (key : PublicKey) (artifact : Artifact) : Prop :=
  match content with
  | .message s => s.Signed key artifact
  | .envelope e => e.Signed key artifact.sha256

theorem MessageSignature.verify_eq_ok_iff {s : MessageSignature} {key : PublicKey} {artifact : Artifact} {u : Unit} :
    s.verify key artifact = .ok u ↔ s.Signed key artifact := by
  have hdigest : s.digest.all (fun d => d.digest == artifact.sha256) = true ↔
      ∀ d, s.digest = some d → d.digest = artifact.sha256 := by
    simp only [Option.all_eq_true, beq_iff_eq]
  unfold verify
  rw [bind_eq_ok]
  simp only [require_eq_ok, hdigest]
  constructor
  · rintro ⟨-, hd, h⟩
    refine ⟨hd, ?_⟩
    cases artifact with
    | octets b => exact PublicKey.check_eq_ok_iff.mp (mapError_eq_ok.mp h)
    | digest d => exact PublicKey.checkDigest_eq_ok_iff.mp (mapError_eq_ok.mp h)
  · rintro ⟨hd, h⟩
    refine ⟨(), hd, ?_⟩
    cases artifact with
    | octets b => exact mapError_eq_ok.mpr (PublicKey.check_eq_ok_iff.mpr h)
    | digest d => exact mapError_eq_ok.mpr (PublicKey.checkDigest_eq_ok_iff.mpr h)

theorem Envelope.verifySubject_eq_ok_iff {e : Envelope} {artifact : Sha256Value} {u : Unit} :
    e.verifySubject artifact = .ok u ↔
      (e.payloadType = statementType → ∃ s, Statement.parse e.payload = .ok s ∧ s.IsAbout artifact) := by
  unfold verifySubject holdsStatement
  split
  · rename_i h
    rw [beq_iff_eq] at h
    simp only [bind_eq_ok, mapError_eq_ok, require_eq_ok, Statement.covers_iff, h, true_imp_iff]
  · rename_i h
    rw [beq_iff_eq] at h
    simp [h]

theorem Envelope.verify_eq_ok_iff {e : Envelope} {key : PublicKey} {artifact : Sha256Value} {u : Unit} :
    e.verify key artifact = .ok u ↔ e.Signed key artifact := by
  unfold verify
  split
  · rename_i s hs
    simp only [bind_eq_ok, mapError_eq_ok, PublicKey.check_eq_ok_iff, verifySubject_eq_ok_iff]
    constructor
    · rintro ⟨-, hk, hsub⟩
      exact ⟨⟨s, hs, hk⟩, hsub⟩
    · rintro ⟨⟨s', hs', hk⟩, hsub⟩
      obtain rfl := List.singleton_inj.mp (hs.symm.trans hs')
      exact ⟨(), hk, hsub⟩
  · rename_i h
    simp only [reduceCtorEq, false_iff]
    rintro ⟨⟨s, hs, -⟩, -⟩
    exact h s hs

/-- Content is checked for being signed, and for nothing else. -/
theorem SignedContent.verify_eq_ok_iff {content : SignedContent} {key : PublicKey} {artifact : Artifact} {u : Unit} :
    content.verify key artifact = .ok u ↔ content.Signed key artifact := by
  cases content with
  | message s => rw [verify, mapError_eq_ok, MessageSignature.verify_eq_ok_iff, Signed]
  | envelope e => rw [verify, Envelope.verify_eq_ok_iff, Signed]

end ArtifactTrust
