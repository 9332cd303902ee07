import ArtifactTrust.Proofs.Verify.Acceptance
import ArtifactTrust.Proofs.Verify.Promise

/-!
# What is trusted

Logs are asked all together and authorities one after the other, those only that are trusted at the time of judgement. Main
statement: an answer, result or error, depends on which logs there are and on the authorities trusted at that time, and more of
them at the end take no success away (`Verifier.verify_trusting`).
-/

namespace ArtifactTrust

open Success

/-- Whether something holds for some element of a list depends on the elements only. -/
theorem any_congr_of_mem_iff {α : Type} {xs ys : List α} (h : ∀ x, x ∈ xs ↔ x ∈ ys) (p : α → Bool) : xs.any p = ys.any p := by
  rw [Bool.eq_iff_iff, List.any_eq_true, List.any_eq_true]
  simp only [h]

/-- Trust material with more behind it. -/
def TrustMaterial.append (m more : TrustMaterial) : TrustMaterial where
  authorities := m.authorities ++ more.authorities
  certificateLogs := m.certificateLogs ++ more.certificateLogs
  logs := m.logs ++ more.logs

/-! ## Promises -/

namespace LogEntry

variable {e : LogEntry} {logs logs' : List TrustedLog}

theorem verifyPromise_congr (h : ∀ l, l ∈ logs ↔ l ∈ logs') : e.verifyPromise logs = e.verifyPromise logs' := by
  simp only [verifyPromise_eq_any, any_congr_of_mem_iff h]

/-- More logs take no promise away. -/
theorem Promised.append (h : e.Promised logs) (more : List TrustedLog) : e.Promised (logs ++ more) := by
  obtain ⟨promise, logId, time, hp, hl, ht, log, hlog, hrest⟩ := h
  exact ⟨promise, logId, time, hp, hl, ht, log, List.mem_append_left more hlog, hrest⟩

end LogEntry

/-! ## Timestamps -/

namespace CertificateTimestamp

variable {logs logs' : List TrustedLog} {precertificate issuerKeyId : Bytes} {t : CertificateTimestamp}

theorem isVerified_congr (h : ∀ l, l ∈ logs ↔ l ∈ logs') :
    isVerified logs precertificate issuerKeyId = isVerified logs' precertificate issuerKeyId := by
  funext t
  simp only [isVerified, any_congr_of_mem_iff h]

/-- A timestamp that counts does so with more logs. -/
theorem Counts.append (h : t.Counts logs precertificate issuerKeyId) (more : List TrustedLog) :
    t.Counts (logs ++ more) precertificate issuerKeyId := by
  obtain ⟨hversion, time, signed, ht, hsigned, log, hlog, hrest⟩ := h
  exact ⟨hversion, time, signed, ht, hsigned, log, List.mem_append_left more hlog, hrest⟩

end CertificateTimestamp

namespace Certificate

variable {c issuer : Certificate} {logs logs' : List TrustedLog} {n : Nat}

theorem verifyTimestamps_congr (h : ∀ l, l ∈ logs ↔ l ∈ logs') (threshold : Nat) :
    c.verifyTimestamps issuer logs threshold = c.verifyTimestamps issuer logs' threshold := by
  simp only [verifyTimestamps, countVerified, CertificateTimestamp.isVerified_congr h]

/-- With more logs at least as many timestamps count. -/
theorem HasVerified.append (h : c.HasVerified issuer logs n) (more : List TrustedLog) :
    ∃ m, n ≤ m ∧ c.HasVerified issuer (logs ++ more) m := by
  obtain ⟨ts, hts, ⟨hnil, rfl⟩ | ⟨precertificate, hp, hlen, rfl⟩⟩ := h
  · exact ⟨0, Nat.le_refl 0, ts, hts, Or.inl ⟨hnil, rfl⟩⟩
  · refine ⟨_, List.countP_mono_left fun t _ ht => ?_, ts, hts, Or.inr ⟨precertificate, hp, hlen, rfl⟩⟩
    exact decide_eq_true ((of_decide_eq_true ht).append more)

end Certificate

/-! ## The verifier -/

namespace Verifier

variable {v : Verifier} {m : TrustMaterial} {artifact : Artifact} {digest : Sha256Value} {b : Bundle} {p : Policy}
  {content : SignedContent} {signer : Signer} {promised : Option Instant} {r : Verified}

/-- The verifier with other trust material and the same keys. -/
def trusting (v : Verifier) (m : TrustMaterial) : Verifier := { v with trust := m }

/-- An instant at which a certificate of a bundle is judged. -/
def JudgesAt (v : Verifier) (b : Bundle) (t : Instant) : Prop :=
  ∃ leaf chain promised, v.Resolves b.material.signer (.certificate leaf chain) ∧ b.IsPromisedTime promised ∧
    t = promised.getD leaf.notBefore

/-- Who has signed does not depend on what is trusted. -/
theorem signerOf_trusting (source : SignerSource) : (v.trusting m).signerOf source = v.signerOf source := by
  match source with
  | .certificate _ => rfl
  | .chain [] => rfl
  | .chain (_ :: _) => rfl
  | .keyHint _ => rfl

theorem resolves_trusting_iff {source : SignerSource} : (v.trusting m).Resolves source signer ↔ v.Resolves source signer := by
  rw [← signerOf_eq_ok_iff, ← signerOf_eq_ok_iff, signerOf_trusting]

/-! ### The same answer -/

theorem checkTimestamps_trusting (hlogs : ∀ l, l ∈ m.certificateLogs ↔ l ∈ v.trust.certificateLogs)
    (path : List Certificate) : (v.trusting m).checkTimestamps p path = v.checkTimestamps p path := by
  match path with
  | [] => rfl
  | [_] => rfl
  | leaf :: issuer :: _ => simp only [checkTimestamps, trusting, Certificate.verifyTimestamps_congr hlogs]

theorem checkSigner_trusting (hlogs : ∀ l, l ∈ m.certificateLogs ↔ l ∈ v.trust.certificateLogs)
    (hauthorities : ∀ leaf chain, signer = .certificate leaf chain →
      m.authoritiesAt (promised.getD leaf.notBefore) = v.trust.authoritiesAt (promised.getD leaf.notBefore)) :
    (v.trusting m).checkSigner p promised signer = v.checkSigner p promised signer := by
  cases signer with
  | key k => rfl
  | certificate leaf chain =>
    simp only [checkSigner, findPath, checkTimestamps_trusting hlogs]
    simp only [trusting, hauthorities leaf chain rfl]

theorem checkEntries_trusting (hlogs : ∀ l, l ∈ m.logs ↔ l ∈ v.trust.logs) :
    (v.trusting m).checkEntries p b content signer digest = v.checkEntries p b content signer digest := by
  have hentry : (v.trusting m).checkEntry content signer digest = v.checkEntry content signer digest := by
    funext e
    simp only [checkEntry, trusting, LogEntry.verifyPromise_congr hlogs]
  simp only [checkEntries, hentry]

/-- The answer is the same, result or error, when the logs are the same in whatever order and number, and the authorities that
are trusted at the time of judgement are the same. -/
theorem verify_congr (hcertificateLogs : ∀ l, l ∈ m.certificateLogs ↔ l ∈ v.trust.certificateLogs)
    (hlogs : ∀ l, l ∈ m.logs ↔ l ∈ v.trust.logs)
    (hauthorities : ∀ t, v.JudgesAt b t → m.authoritiesAt t = v.trust.authoritiesAt t) :
    (v.trusting m).verify artifact b p = v.verify artifact b p := by
  unfold verify
  cases b.brokenRules ⟨p.checksEntries, p.checksEntries⟩ with
  | cons rule rules => rfl
  | nil =>
    simp only [signerOf_trusting, checkEntries_trusting hlogs]
    refine bind_congr_ok fun content _ => bind_congr_ok fun signer hsigner => bind_congr_ok fun promised hpromised => ?_
    rw [checkSigner_trusting hcertificateLogs]
    rintro leaf chain rfl
    exact hauthorities _
      ⟨leaf, chain, promised, signerOf_eq_ok_iff.mp hsigner, Bundle.promisedTime_eq_ok_iff.mp hpromised, rfl⟩

/-! ### More trust -/

/-- The path to the first authority is found in front of any others. -/
theorem IsFirstPath.append {leaf : Certificate} {chain path : List Certificate} {t : Instant} {authorities : List Authority}
    (h : IsFirstPath leaf chain t path authorities) (more : List Authority) :
    IsFirstPath leaf chain t path (authorities ++ more) := by
  obtain ⟨before, a, after, rfl, hrest⟩ := h
  exact ⟨before, a, after ++ more, by rw [List.append_assoc, List.cons_append], hrest⟩

theorem CountsTimestamps.append {leaf issuer : Certificate} {n : Nat} (h : v.CountsTimestamps p leaf issuer n)
    (more : TrustMaterial) :
    ∃ k, n ≤ k ∧ (v.trusting (v.trust.append more)).CountsTimestamps p leaf issuer k := by
  cases hc : p.checksTimestamps with
  | false => exact ⟨n, Nat.le_refl n, by simp [hc], fun _ => h.2 hc⟩
  | true =>
    obtain ⟨hverified, hthreshold⟩ := h.1 hc
    obtain ⟨k, hle, hk⟩ := hverified.append more.certificateLogs
    exact ⟨k, hle, fun _ => ⟨hk, Nat.le_trans hthreshold hle⟩, by simp [hc]⟩

theorem Judges.append (h : v.Judges p promised r signer) (more : TrustMaterial) :
    ∃ k, r.timestamps ≤ k ∧ (v.trusting (v.trust.append more)).Judges p promised { r with timestamps := k } signer := by
  cases signer with
  | key k => exact ⟨r.timestamps, Nat.le_refl _, h⟩
  | certificate leaf chain =>
    obtain ⟨path, issuer, hpath, hissuer, htimestamps, hrest⟩ := h
    obtain ⟨k, hle, hk⟩ := htimestamps.append more
    exact ⟨k, hle, path, issuer, hpath.append more.authorities, hissuer, hk, hrest⟩

theorem CountsEntries.append {n : Nat} (h : v.CountsEntries p b content signer digest n) (more : TrustMaterial) :
    (v.trusting (v.trust.append more)).CountsEntries p b content signer digest n := by
  refine ⟨fun hc => ?_, h.2⟩
  obtain ⟨hall, hthreshold⟩ := h.1 hc
  exact ⟨fun e he => ⟨(hall e he).1.append more.logs, (hall e he).2⟩, hthreshold⟩

theorem Accepts.append (h : v.Accepts artifact b p content signer promised r) (more : TrustMaterial) :
    ∃ k, r.timestamps ≤ k ∧
      (v.trusting (v.trust.append more)).Accepts artifact b p content signer promised { r with timestamps := k } := by
  obtain ⟨k, hle, hk⟩ := h.judges.append more
  exact ⟨k, hle, h.rules, h.carries, resolves_trusting_iff.mpr h.resolves, h.timed, hk, h.admits, h.counts.append more, h.signed⟩

/-! ### The whole -/

/-- What is trusted is a set of logs of either kind and a list of authorities. With the same logs, in whatever order and number,
and the same authorities trusted at the time of judgement, whatever others there are, every answer is the same, result or error.
With more logs and authorities at the end a bundle that is accepted stays so, and the result differs in the number of timestamps
only, which does not get smaller. -/
theorem verify_trusting (v : Verifier) (artifact : Artifact) (b : Bundle) (p : Policy) :
    (∀ m : TrustMaterial, (∀ l, l ∈ m.certificateLogs ↔ l ∈ v.trust.certificateLogs) → (∀ l, l ∈ m.logs ↔ l ∈ v.trust.logs) →
      (∀ t, v.JudgesAt b t → m.authoritiesAt t = v.trust.authoritiesAt t) →
        (v.trusting m).verify artifact b p = v.verify artifact b p) ∧
    ∀ (more : TrustMaterial) (r : Verified), v.verify artifact b p = .ok r →
      ∃ k, r.timestamps ≤ k ∧
        (v.trusting (v.trust.append more)).verify artifact b p = .ok { r with timestamps := k } := by
  refine ⟨fun m hcertificateLogs hlogs hauthorities => verify_congr hcertificateLogs hlogs hauthorities, fun more r h => ?_⟩
  obtain ⟨content, signer, promised, ha⟩ := exists_accepts h
  obtain ⟨k, hle, hk⟩ := ha.append more
  exact ⟨k, hle, hk.verify⟩

/-- The trust material of the sample verifier with its logs twice, and with an authority that was trusted until 1970 in front. -/
def sampleTrust : TrustMaterial :=
  ⟨[⟨"old", [], ⟨none, some ⟨0, 0⟩⟩⟩, ⟨"ca", [caCertificate], .always⟩], [sampleLog, sampleLog], [sampleLog, sampleLog]⟩

/-- The sample bundle is judged at the time of its entry only. -/
theorem eq_sampleTime_of_judgesAt {t : Instant} (h : sampleVerifier.JudgesAt sampleBundle t) : t = sampleTime := by
  obtain ⟨leaf, chain, promised, -, hpromised, rfl⟩ := h
  rw [← Bundle.promisedTime_eq_ok_iff, promisedTime_sampleBundle, Except.ok.injEq] at hpromised
  rw [← hpromised, Option.getD_some]

/-- The sample bundle has the same answer with this material, and is accepted with all of it once more. -/
theorem verify_trusting_sample :
    (∀ l, l ∈ sampleTrust.certificateLogs ↔ l ∈ sampleVerifier.trust.certificateLogs) ∧
      (∀ l, l ∈ sampleTrust.logs ↔ l ∈ sampleVerifier.trust.logs) ∧
      (∀ t, sampleVerifier.JudgesAt sampleBundle t → sampleTrust.authoritiesAt t = sampleVerifier.trust.authoritiesAt t) ∧
      (sampleVerifier.trusting sampleTrust).verify (.octets sampleArtifact) sampleBundle samplePolicy = .ok sampleVerdict ∧
      ∃ k, 2 ≤ k ∧ (sampleVerifier.trusting (sampleVerifier.trust.append sampleTrust)).verify (.octets sampleArtifact)
        sampleBundle samplePolicy = .ok { sampleVerdict with timestamps := k } := by
  have hsame : ∀ l, l ∈ [sampleLog, sampleLog] ↔ l ∈ [sampleLog] := by simp
  have hauthorities : ∀ t, sampleVerifier.JudgesAt sampleBundle t →
      sampleTrust.authoritiesAt t = sampleVerifier.trust.authoritiesAt t := by
    intro t ht
    rw [eq_sampleTime_of_judgesAt ht]
    rfl
  obtain ⟨hcongr, hmore⟩ := verify_trusting sampleVerifier (.octets sampleArtifact) sampleBundle samplePolicy
  exact ⟨hsame, hsame, hauthorities, (hcongr sampleTrust hsame hsame hauthorities).trans verify_sampleArtifact,
    hmore sampleTrust sampleVerdict verify_sampleArtifact⟩

end Verifier

end ArtifactTrust
