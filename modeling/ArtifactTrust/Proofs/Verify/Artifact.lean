import ArtifactTrust.Proofs.Verify.Content
import ArtifactTrust.Verify.Verifier

/-!
# Artifacts and their digests

All that a verifier asks of an artifact besides the signature over it, it asks of the artifact's digest
(`Verifier.verify_eq_examine`), and a scheme that signs SHA-256 digests gives an artifact and its digest the same answer
(`PublicKey.checkDigest_sha256Value`). Main statement: it makes no difference whether a verifier is given an artifact or the
digest of it, unless the artifact itself is signed and the key signs digests with another scheme, or none
(`Verifier.verify_octets_eq_digest`). Keys on P-384 are such keys, and there the answers do differ
(`Verifier.octets_and_digest_differ`).
-/

namespace ArtifactTrust

open Success

/-! ## Signatures of an artifact -/

namespace PublicKey

variable {k : PublicKey}

/-- Two kinds of key do not sign digests with the scheme that they sign octets with. -/
theorem digestScheme?_eq_defaultScheme (hEd25519 : k.kind ≠ .ed25519) (hP384 : k.kind ≠ .ec .p384) :
    k.digestScheme? = some k.defaultScheme := by
  unfold digestScheme? defaultScheme
  match hk : k.kind with
  | .ec .p256 => rfl
  | .ec .p384 => exact absurd hk hP384
  | .rsa => rfl
  | .ed25519 => exact absurd hk hEd25519

/-- Under one scheme octets and their digest get the same answer. -/
theorem checkDigest_sha256Value (h : k.digestScheme? = some k.defaultScheme) (message signature : Bytes) :
    k.checkDigest (Digest.sha256Value message).octets signature = k.check message signature := by
  have huses := usesSha256_of_digestScheme? h
  have hsame : k.defaultScheme.verify k.octets message signature =
      k.defaultScheme.verifyDigest k.octets (Digest.sha256Value message).octets signature :=
    Scheme.verify_eq_verifyDigest (beq_iff_eq.mp huses) _ _ _
  simp only [checkDigest, h, check, Scheme.checkDigest, Scheme.check, huses, (Digest.sha256Value message).size, hsame,
    Bool.not_true, Bool.false_eq_true, if_false, ne_eq, not_true_eq_false]

end PublicKey

theorem SignedContent.verify_sha256Value {content : SignedContent} {key : PublicKey} {a : Bytes}
    (h : ∀ s, content = .message s → key.digestScheme? = some key.defaultScheme) :
    content.verify key (.digest (Digest.sha256Value a)) = content.verify key (.octets a) := by
  cases content with
  | envelope e => rfl
  | message s =>
    unfold SignedContent.verify MessageSignature.verify
    simp only [PublicKey.checkDigest_sha256Value (h s rfl)]
    rfl

namespace Verifier

/-! ## The other checks -/

/-- All checks but that of the signature, which see the digest of the artifact only. What they give is what remains to be
checked, under whose key, and the result. -/
def examine (v : Verifier) (artifact : Sha256Value) (b : Bundle) (p : Policy) :
    Except VerifyError (SignedContent × Signer × Verified) := do
  match b.brokenRules ⟨p.checksEntries, p.checksEntries⟩ with
  | [] => pure ()
  | broken => .error (.bundle (.rules broken))
  let content ← b.content.elim (.error (.bundle .noContent)) .ok
  let signer ← v.signerOf b.material.signer
  let promised ← b.promisedTime
  let shown ← v.checkSigner p promised signer
  p.checkIdentity signer
  let entries ← v.checkEntries p b content signer artifact
  return (content, signer, { shown with entries })

variable {v : Verifier} {artifact : Artifact} {digest : Sha256Value} {b : Bundle} {p : Policy} {content : SignedContent}
  {signer : Signer} {r : Verified}

theorem verify_eq_examine : v.verify artifact b p = do
    let (content, signer, r) ← v.examine artifact.sha256 b p
    content.verify signer.publicKey artifact
    return r := by
  unfold verify examine
  cases b.brokenRules ⟨p.checksEntries, p.checksEntries⟩ with
  | nil => simp only [bind_assoc, pure_bind]
  | cons rule rules => rfl

/-- What remains to be checked is the content of the bundle, under the key of its signer. -/
theorem examine_eq_ok (h : v.examine digest b p = .ok (content, signer, r)) :
    b.content = some content ∧ v.signerOf b.material.signer = .ok signer := by
  unfold examine at h
  cases hrules : b.brokenRules ⟨p.checksEntries, p.checksEntries⟩ with
  | cons rule rules => simp only [hrules, bind_eq_ok, reduceCtorEq, false_and, exists_false] at h
  | nil =>
    simp only [hrules, bind_eq_ok, elim_eq_ok, Except.ok.injEq, pure_eq_ok, Prod.mk.injEq] at h
    obtain ⟨_, ⟨_, hc, rfl⟩, _, hs, _, -, _, -, -, -, _, -, rfl, rfl, -⟩ := h
    exact ⟨hc, hs⟩

/-! ## The same answer -/

/-- A verifier that accepts an artifact and the digest of it has the same result for both. If what is signed is an envelope, or
the key signs octets and digests with the same scheme, then it gives both the same answer, result or error. -/
theorem verify_octets_eq_digest (v : Verifier) (p : Policy) (a : Bytes) (b : Bundle) :
    (∀ r r', v.verify (.octets a) b p = .ok r → v.verify (.digest (Digest.sha256Value a)) b p = .ok r' → r = r') ∧
      ((∀ s signer, b.content = some (.message s) → v.signerOf b.material.signer = .ok signer →
          signer.publicKey.kind ≠ .ed25519 ∧ signer.publicKey.kind ≠ .ec .p384) →
        v.verify (.octets a) b p = v.verify (.digest (Digest.sha256Value a)) b p) := by
  rw [verify_eq_examine, verify_eq_examine]
  have hdigest : (Artifact.octets a).sha256 = (Artifact.digest (Digest.sha256Value a)).sha256 := rfl
  rw [hdigest]
  constructor
  · intro r r' hr hr'
    simp only [bind_eq_ok, pure_eq_ok] at hr hr'
    obtain ⟨found, hfound, -, -, rfl⟩ := hr
    obtain ⟨found', hfound', -, -, rfl⟩ := hr'
    rw [hfound] at hfound'
    cases hfound'
    rfl
  · intro hkind
    refine bind_congr_ok fun found hfound => ?_
    obtain ⟨content, signer, r⟩ := found
    obtain ⟨hc, hs⟩ := examine_eq_ok hfound
    have hsame : content.verify signer.publicKey (.digest (Digest.sha256Value a)) =
        content.verify signer.publicKey (.octets a) := by
      refine SignedContent.verify_sha256Value fun s hm => ?_
      obtain ⟨hEd25519, hP384⟩ := hkind s signer (hm ▸ hc) hs
      exact PublicKey.digestScheme?_eq_defaultScheme hEd25519 hP384
    simp only [hsame]

/-! ## Keys on two curves -/

/-- The encoding of a key on P-256. -/
def p256Der : Bytes :=
  Bytes.ofNat 48 0x3059301306072a8648ce3d020106082a8648ce3d030107034200043db0a01d7d0825443724e68a824acf0b2b5e12b5e5 ++
  Bytes.ofNat 43 0xf1d4b32e303ff0fce680908941b727b1ef184c974868ea710cf74e1b12d9dd434c1162a8784c29b198c4e9

/-- The encoding of a key on P-384. -/
def p384Der : Bytes :=
  Bytes.ofNat 48 0x3076301006072a8648ce3d020106052b81040022036200043013aa002d5ca66dbe5626530156fa09f487ec901654fd73 ++
  Bytes.ofNat 48 0x6f100893496b1a5107d6e40bea625b9b18a89cf6fdcf333841faa53e55b0e6ce2854ab21abf4a8982eafbfe9b857f66b ++
  Bytes.ofNat 24 0x3ca1db15c55b9662b41ee2fbc273534c861e6f47655885f3

theorem p256Der_reads : (PublicKey.ofDer p256Der).toOption.isSome = true := by decide +kernel

theorem p384Der_reads : (PublicKey.ofDer p384Der).toOption.isSome = true := by decide +kernel

/-- The P-256 key of its encoding. -/
def p256Key : PublicKey := (PublicKey.ofDer p256Der).toOption.get p256Der_reads

/-- The P-384 key of its encoding. -/
def p384Key : PublicKey := (PublicKey.ofDer p384Der).toOption.get p384Der_reads

/-- An artifact that both keys have signed. -/
def sampleArtifact : Bytes := Bytes.ofText "artifact"

/-- The signature over the artifact under the P-256 key, with SHA-256. -/
def p256Signature : Bytes :=
  Bytes.ofNat 48 0x304402203f5b9f1ec49eb354f8995dcc08fae2c058776e5dcbd841c5374f1e444106b9730220589db319d32d656edacd ++
  Bytes.ofNat 22 0x85de2fd3a7372d136955480ea7b3e5886b09b4597833

/-- The signature over the artifact under the P-384 key, with SHA-384. -/
def p384Signature : Bytes :=
  Bytes.ofNat 48 0x306402304e47a237cc608f03d38bf953c2c25c8cb99de4bbada9288a6b43656520b2559143f1fd344dde210802bbc630 ++
  Bytes.ofNat 48 0x315996be023065a78b3905b34d82fa4d7bbcd8e3ae9ba9072f74328dad34257483752b2ccce80586ac0a5f4950836e22 ++
  Bytes.ofNat 6 0xc06c3b0fce6f

/-- A verifier that holds one key and trusts nothing else. -/
def holding (k : PublicKey) : Verifier := ⟨⟨[], [], []⟩, [("key", k)]⟩

/-- A bundle of a signature over the artifact alone, by the key that is hinted at. -/
def signatureBundle (signature : Bytes) : Bundle :=
  ⟨BundleVersion.v01.mediaType, ⟨.keyHint "key", []⟩, some (.message ⟨none, signature⟩)⟩

/-- A policy that asks for a signature and nothing else. -/
def signatureOnly : Policy := ⟨[], 1, 1, false, false⟩

/-- The signer of such a bundle is the key. -/
theorem signerOf_holding {k : PublicKey} {signature : Bytes}
    (h : (holding k).signerOf (signatureBundle signature).material.signer = .ok signer) : signer = .key k :=
  (Except.ok.inj h).symm

/-- The P-256 key has signed the artifact, and its digest as well. -/
theorem verify_octets_eq_digest_p256 :
    (∀ s signer, (signatureBundle p256Signature).content = some (.message s) →
        (holding p256Key).signerOf (signatureBundle p256Signature).material.signer = .ok signer →
        signer.publicKey.kind ≠ .ed25519 ∧ signer.publicKey.kind ≠ .ec .p384) ∧
      (holding p256Key).verify (.octets sampleArtifact) (signatureBundle p256Signature) signatureOnly =
        (holding p256Key).verify (.digest (Digest.sha256Value sampleArtifact)) (signatureBundle p256Signature) signatureOnly ∧
      ((holding p256Key).verify (.octets sampleArtifact) (signatureBundle p256Signature) signatureOnly).toOption =
        some ⟨0, none, none, 0, 0, none⟩ := by
  have hkind : ∀ s signer, (signatureBundle p256Signature).content = some (.message s) →
      (holding p256Key).signerOf (signatureBundle p256Signature).material.signer = .ok signer →
      signer.publicKey.kind ≠ .ed25519 ∧ signer.publicKey.kind ≠ .ec .p384 := by
    intro s signer _ hs
    rw [signerOf_holding hs]
    decide +kernel
  exact ⟨hkind, (verify_octets_eq_digest _ _ _ _).2 hkind, by decide +kernel⟩

/-- The P-384 key has signed the artifact with SHA-384, which the SHA-256 digest cannot show. -/
theorem octets_and_digest_differ :
    ¬ ∀ (v : Verifier) (p : Policy) (a : Bytes) (b : Bundle),
      (∀ signer, v.signerOf b.material.signer = .ok signer → signer.publicKey.kind ≠ .ed25519) →
        (v.verify (.octets a) b p).toOption = (v.verify (.digest (Digest.sha256Value a)) b p).toOption := by
  intro h
  have hkind : ∀ signer, (holding p384Key).signerOf (signatureBundle p384Signature).material.signer = .ok signer →
      signer.publicKey.kind ≠ .ed25519 := by
    intro signer hs
    rw [signerOf_holding hs]
    decide +kernel
  have hsame := h (holding p384Key) signatureOnly sampleArtifact (signatureBundle p384Signature) hkind
  have hoctets : ((holding p384Key).verify (.octets sampleArtifact) (signatureBundle p384Signature) signatureOnly).toOption =
      some ⟨0, none, none, 0, 0, none⟩ := by decide +kernel
  have hdigest : ((holding p384Key).verify (.digest (Digest.sha256Value sampleArtifact)) (signatureBundle p384Signature)
      signatureOnly).toOption = none := by decide +kernel
  rw [hoctets, hdigest] at hsame
  cases hsame

end Verifier

end ArtifactTrust
