import ArtifactTrust.Proofs.Text.Hex
import ArtifactTrust.Proofs.Verify.Acceptance

/-!
# Bundles and their artifact

A signature over an artifact says nothing about which one, but what is recorded beside it does: a digest in the bundle is
compared octet by octet, one in the body of a log entry up to case. Main statement: a bundle with such a record is accepted for
artifacts of one digest only, in whichever form they are given (`Verifier.accepted_digest_unique`).
-/

namespace ArtifactTrust

variable {x y : Sha256Value}

/-- A recorded digest is that of artifacts of one digest only. -/
theorem RecordedDigest.eq_of_isOf {recorded : RecordedDigest} (hx : recorded.isOf x = true) (hy : recorded.isOf y = true) :
    x = y := by
  rw [isOf, Bool.and_eq_true] at hx hy
  exact Sha256Value.eq_of_sameIgnoringCase hx.2 hy.2

/-- A body that describes a signature over an artifact is the record of an artifact. No other kind of record goes with such a
signature. -/
theorem LogEntry.Describes.exists_record {e : LogEntry} {s : MessageSignature} {signer : Signer}
    (h : e.Describes (.message s) signer x) :
    ∃ claimed body record, e.kindVersion = some claimed ∧ EntryBody.parse claimed e.body = .ok body ∧
      body.record = .artifact record ∧ record.digest.isOf x = true := by
  obtain ⟨claimed, body, hk, hb, -, hd⟩ := h
  cases hrecord : body.record with
  | artifact record =>
    rw [hrecord] at hd
    exact ⟨claimed, body, record, hk, hb, hrecord, hd.digest⟩
  | envelope record =>
    rw [hrecord] at hd
    exact hd.elim
  | statement record =>
    rw [hrecord] at hd
    exact hd.elim

/-- The body of an entry describes artifacts of one digest only, whoever has signed them. -/
theorem LogEntry.Describes.digest_unique {e : LogEntry} {s s' : MessageSignature} {signer signer' : Signer}
    (hx : e.Describes (.message s) signer x) (hy : e.Describes (.message s') signer' y) : x = y := by
  obtain ⟨claimed, body, record, hk, hb, hr, hdx⟩ := hx.exists_record
  obtain ⟨claimed', body', record', hk', hb', hr', hdy⟩ := hy.exists_record
  obtain rfl : claimed = claimed' := Option.some.inj (hk.symm.trans hk')
  obtain rfl : body = body' := Except.ok.inj (hb.symm.trans hb')
  obtain rfl : record = record' := EntryRecord.artifact.inj (hr.symm.trans hr')
  exact RecordedDigest.eq_of_isOf hdx hdy

namespace Verifier

/-- A bundle of a signature over an artifact, with the digest of the artifact beside the signature or in log entries that are
checked, is accepted for artifacts of one digest only. An artifact and the digest of it have the same digest. -/
theorem accepted_digest_unique (v : Verifier) (p : Policy) (b : Bundle) (s : MessageSignature) (x y : Artifact)
    (r r' : Verified) (hc : b.content = some (.message s))
    (hrecords : s.digest ≠ none ∨ (p.checksEntries = true ∧ b.entries ≠ []))
    (hx : v.verify x b p = .ok r) (hy : v.verify y b p = .ok r') : x.sha256 = y.sha256 := by
  obtain ⟨content, signer, promised, hax⟩ := exists_accepts hx
  obtain ⟨content', signer', promised', hay⟩ := exists_accepts hy
  obtain rfl : content = .message s := Option.some.inj (hax.carries.symm.trans hc)
  obtain rfl : content' = .message s := Option.some.inj (hay.carries.symm.trans hc)
  rcases hrecords with hdigest | ⟨hchecks, hentries⟩
  · -- The digest beside the signature is that of both.
    obtain ⟨d, hd⟩ := Option.ne_none_iff_exists'.mp hdigest
    exact (hax.signed.digest d hd).symm.trans (hay.signed.digest d hd)
  · -- One entry is enough: its body describes both.
    obtain ⟨e, he⟩ := List.exists_mem_of_ne_nil _ hentries
    have hdx : e.Describes (.message s) signer x.sha256 := ((hax.counts.1 hchecks).1 e he).2.1
    have hdy : e.Describes (.message s) signer' y.sha256 := ((hay.counts.1 hchecks).1 e he).2.1
    exact hdx.digest_unique hdy

/-- The sample bundle is accepted for its artifact and for the digest of it, which are of one digest. -/
theorem accepted_digest_unique_sample :
    (∃ s, sampleBundle.content = some (.message s)) ∧ samplePolicy.checksEntries = true ∧ sampleBundle.entries ≠ [] ∧
      sampleVerifier.verify (.octets sampleArtifact) sampleBundle samplePolicy = .ok sampleVerdict ∧
      sampleVerifier.verify (.digest (Digest.sha256Value sampleArtifact)) sampleBundle samplePolicy = .ok sampleVerdict ∧
      (Artifact.octets sampleArtifact).sha256 = (Artifact.digest (Digest.sha256Value sampleArtifact)).sha256 := by
  obtain ⟨-, hscheme, -⟩ := sampleBundle_facts
  obtain ⟨-, ⟨-, -, hkey, -⟩, -⟩ := sampleCertificates_facts
  have hverifies : (SignedContent.message ⟨none, p256Signature⟩).verify signerCertificate.key
      (.digest (Digest.sha256Value sampleArtifact)) = .ok () :=
    (SignedContent.verify_sha256Value fun _ _ => hkey ▸ hscheme).trans
      (SignedContent.verify_eq_ok_iff.mpr signed_sampleArtifact)
  have hdigest : sampleVerifier.verify (.digest (Digest.sha256Value sampleArtifact)) sampleBundle samplePolicy =
      .ok sampleVerdict := (accepts_sampleBundle rfl (SignedContent.verify_eq_ok_iff.mp hverifies)).verify
  have hne : sampleBundle.entries ≠ [] := List.cons_ne_nil _ _
  exact ⟨⟨_, rfl⟩, rfl, hne, verify_sampleArtifact, hdigest,
    accepted_digest_unique _ _ _ _ _ _ _ _ rfl (Or.inr ⟨rfl, hne⟩) verify_sampleArtifact hdigest⟩

end Verifier

end ArtifactTrust
