import ArtifactTrust.Proofs.Bundle.Validation
import ArtifactTrust.Proofs.Verify.Acceptance

/-!
# Policies that ask for less

A policy relaxes another when it makes no check that the other does not make, is content with as little, and admits whom the
other admits (`Policy.Relaxes`). Main statement: what is accepted under a policy is accepted under one that relaxes it, and the
result is the same but for the checks that are not made (`Verifier.verify_relaxed`). Each part of `Verifier.Accepts` is carried
over by itself.
-/

namespace ArtifactTrust

/-- A policy asks for no more than another. It admits everyone, having no identities, or it has all of the other's identities and
the other has some. -/
structure Policy.Relaxes (q p : Policy) : Prop where
  checksTimestamps : q.checksTimestamps = true → p.checksTimestamps = true
  checksEntries : q.checksEntries = true → p.checksEntries = true
  timestampThreshold : q.timestampThreshold ≤ p.timestampThreshold
  entryThreshold : q.entryThreshold ≤ p.entryThreshold
  identities : q.identities = [] ∨ (p.identities ≠ [] ∧ ∀ i ∈ p.identities, i ∈ q.identities)

/-- A result without the counts of what a policy does not check. -/
def Verified.under (r : Verified) (q : Policy) : Verified :=
  { r with
    timestamps := if q.checksTimestamps then r.timestamps else 0
    entries := if q.checksEntries then r.entries else 0 }

variable {v : Verifier} {artifact : Artifact} {b : Bundle} {p q : Policy} {content : SignedContent} {signer : Signer}
  {promised : Option Instant} {r : Verified}

theorem Policy.Admits.relaxed (h : p.Admits signer) (hq : q.Relaxes p) : q.Admits signer := by
  rcases hq.identities with hnone | ⟨hsome, hsub⟩
  · exact Or.inl hnone
  · rcases h with hnone | ⟨leaf, name, hl, hname, i, hi, hcarried⟩
    · exact absurd hnone hsome
    · exact Or.inr ⟨leaf, name, hl, hname, i, hsub i hi, hcarried⟩

namespace Verifier

theorem CountsTimestamps.relaxed {leaf issuer : Certificate} {n : Nat} (h : v.CountsTimestamps p leaf issuer n)
    (hq : q.Relaxes p) : v.CountsTimestamps q leaf issuer (if q.checksTimestamps then n else 0) := by
  refine ⟨fun hc => ?_, fun hc => if_neg (by simp [hc])⟩
  obtain ⟨hverified, hthreshold⟩ := h.1 (hq.checksTimestamps hc)
  rw [if_pos hc]
  exact ⟨hverified, Nat.le_trans hq.timestampThreshold hthreshold⟩

/-- A signer is judged at the same time and by the same path. -/
theorem Judges.relaxed (h : v.Judges p promised r signer) (hq : q.Relaxes p) : v.Judges q promised (r.under q) signer := by
  cases signer with
  | key k =>
    obtain ⟨hlength, hidentity, hissuer, htimestamps, htime⟩ := h
    exact ⟨hlength, hidentity, hissuer, by simp [Verified.under, htimestamps], htime⟩
  | certificate leaf chain =>
    obtain ⟨path, issuer, hpath, hnext, htimestamps, hlength, hidentity, hissuer, htime⟩ := h
    exact ⟨path, issuer, hpath, hnext, htimestamps.relaxed hq, hlength, hidentity, hissuer, htime⟩

theorem CountsEntries.relaxed {digest : Sha256Value} {n : Nat} (h : v.CountsEntries p b content signer digest n)
    (hq : q.Relaxes p) : v.CountsEntries q b content signer digest (if q.checksEntries then n else 0) := by
  refine ⟨fun hc => ?_, fun hc => if_neg (by simp [hc])⟩
  obtain ⟨hall, hthreshold, hcount⟩ := h.1 (hq.checksEntries hc)
  rw [if_pos hc]
  exact ⟨hall, Nat.le_trans hq.entryThreshold hthreshold, hcount⟩

theorem Accepts.relaxed (h : v.Accepts artifact b p content signer promised r) (hq : q.Relaxes p) :
    v.Accepts artifact b q content signer promised (r.under q) where
  rules := Bundle.brokenRules_eq_nil_of_relaxed h.rules hq.checksEntries hq.checksEntries
  carries := h.carries
  resolves := h.resolves
  timed := h.timed
  judges := h.judges.relaxed hq
  admits := h.admits.relaxed hq
  counts := h.counts.relaxed hq
  signed := h.signed

/-- What is accepted under a policy is accepted under one that asks for no more. The result has the same length of the path,
identity, issuer and time, and the same counts of what is still checked. -/
theorem verify_relaxed (v : Verifier) (artifact : Artifact) (b : Bundle) (p q : Policy) (r : Verified) (hq : q.Relaxes p)
    (h : v.verify artifact b p = .ok r) : v.verify artifact b q = .ok (r.under q) := by
  obtain ⟨content, signer, promised, ha⟩ := exists_accepts h
  exact (ha.relaxed hq).verify

/-- The sample bundle is accepted from anyone, with one timestamp and no log entry. -/
theorem verify_relaxed_sample :
    Policy.Relaxes ⟨[], 1, 1, true, false⟩ samplePolicy ∧
      sampleVerifier.verify (.octets sampleArtifact) sampleBundle samplePolicy = .ok sampleVerdict ∧
      sampleVerifier.verify (.octets sampleArtifact) sampleBundle ⟨[], 1, 1, true, false⟩ =
        .ok { sampleVerdict with entries := 0 } := by
  have hq : Policy.Relaxes ⟨[], 1, 1, true, false⟩ samplePolicy :=
    ⟨fun _ => rfl, fun _ => rfl, by decide, by decide, Or.inl rfl⟩
  exact ⟨hq, verify_sampleArtifact, verify_relaxed _ _ _ _ _ _ hq verify_sampleArtifact⟩

end Verifier

end ArtifactTrust
