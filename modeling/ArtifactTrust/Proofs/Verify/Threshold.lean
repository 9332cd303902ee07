import ArtifactTrust.Proofs.Bundle.Validation
import ArtifactTrust.Proofs.Verify.Acceptance

/-!
# What thresholds count

A threshold is met by the entries of a list, each counted in its place, and so are the timestamps of a certificate. One that
stands in two places counts twice (`Verifier.repetitions_reach_thresholds`). Main statement: every entry and at least as many
timestamps as are asked for are verified, the entries of a bundle may stand in any order and number as long as there are as many
places as are asked for, and a timestamp counts as often as it stands in the certificate (`Verifier.thresholds_count_places`).
-/

namespace ArtifactTrust

/-- Of a list of copies no two differ, in whatever they are told apart by. -/
theorem length_le_one_of_copies {α : Type} {differ : α → α → Prop} {a : α} {copies : List α} (hsame : ∀ x ∈ copies, x = a)
    (hdiffer : copies.Pairwise differ) (ha : ¬differ a a) : copies.length ≤ 1 := by
  rw [List.eq_replicate_of_mem hsame, List.pairwise_replicate] at hdiffer
  exact hdiffer.resolve_right ha

/-! ## Timestamps -/

/-- A timestamp that counts does so in every place where it stands. -/
theorem Certificate.HasVerified.count_le {c issuer : Certificate} {logs : List TrustedLog} {n : Nat}
    {ts : List CertificateTimestamp} {precertificate : Bytes} {t : CertificateTimestamp} (h : c.HasVerified issuer logs n)
    (hts : c.Embeds ts) (hp : c.precertificate = .ok precertificate) (ht : t.Counts logs precertificate issuer.key.id) :
    ts.count t ≤ n := by
  obtain ⟨found, hfound, hn⟩ := h
  obtain rfl : found = ts := hfound.unique hts
  rcases hn with ⟨rfl, rfl⟩ | ⟨precertificate', hp', -, rfl⟩
  · exact Nat.le_refl 0
  · obtain rfl : precertificate' = precertificate := Except.ok.inj (hp'.symm.trans hp)
    refine List.countP_mono_left fun other _ hsame => ?_
    rw [beq_iff_eq] at hsame
    exact decide_eq_true (hsame ▸ ht)

/-! ## Entries -/

/-- The promised time is that of the entries in a bundle, in whatever order and number. -/
theorem Bundle.IsPromisedTime.of_mem_iff {b b' : Bundle} {promised : Option Instant}
    (h : ∀ e, e ∈ b'.entries ↔ e ∈ b.entries) (ht : b.IsPromisedTime promised) : b'.IsPromisedTime promised := by
  cases promised <;> simpa only [IsPromisedTime, h] using ht

namespace Verifier

variable {v : Verifier} {artifact : Artifact} {b : Bundle} {p : Policy} {content : SignedContent} {signer : Signer}
  {promised : Option Instant} {r : Verified}

/-- With its entries in another order and number a bundle is accepted where no more are asked for. -/
theorem Accepts.withEntries {es : List LogEntry} {threshold : Nat} (h : v.Accepts artifact b p content signer promised r)
    (hchecks : p.checksEntries = true) (hes : ∀ e, e ∈ es ↔ e ∈ b.entries) (hthreshold : threshold ≤ es.length) :
    v.Accepts artifact (b.withEntries es) { p with entryThreshold := threshold } content signer promised
      { r with entries := es.length } where
  rules := Bundle.brokenRules_withEntries_eq_nil h.rules fun e he => (hes e).mp he
  carries := h.carries
  resolves := h.resolves
  timed := h.timed.of_mem_iff hes
  judges := by
    cases signer with
    | key k => exact h.judges
    | certificate leaf chain => exact h.judges
  admits := h.admits
  counts := by
    obtain ⟨hall, -⟩ := h.counts.1 hchecks
    refine ⟨fun _ => ⟨fun e he => hall e ((hes e).mp he), hthreshold, rfl⟩, fun hc => ?_⟩
    cases hchecks.symm.trans hc
  signed := h.signed

/-- Of the entries in a bundle their number alone is compared with the threshold. -/
theorem Accepts.verify_withEntries_iff {es : List LogEntry} {threshold : Nat} {r' : Verified}
    (h : v.Accepts artifact b p content signer promised r) (hchecks : p.checksEntries = true)
    (hes : ∀ e, e ∈ es ↔ e ∈ b.entries) :
    v.verify artifact (b.withEntries es) { p with entryThreshold := threshold } = .ok r' ↔
      threshold ≤ es.length ∧ r' = { r with entries := es.length } := by
  constructor
  · intro hr
    obtain ⟨_, _, _, ha⟩ := exists_accepts hr
    have hthreshold : threshold ≤ es.length := (ha.counts.1 hchecks).2.1
    exact ⟨hthreshold, Except.ok.inj (hr.symm.trans (h.withEntries hchecks hes hthreshold).verify)⟩
  · rintro ⟨hthreshold, rfl⟩
    exact (h.withEntries hchecks hes hthreshold).verify

/-! ## Thresholds -/

/-- What thresholds are compared with. The entries of a bundle are all verified and counted in their places: with the same entries
in any order and number, a bundle is accepted exactly if no more are asked for than it has places. The timestamps in a signing
certificate are counted likewise, each of them as often as it stands there. -/
theorem thresholds_count_places (v : Verifier) (artifact : Artifact) (b : Bundle) (p : Policy) (r : Verified)
    (h : v.verify artifact b p = .ok r) :
    (p.checksEntries = true →
      p.entryThreshold ≤ r.entries ∧ r.entries = b.entries.length ∧
      (∃ content signer, b.content = some content ∧ v.Resolves b.material.signer signer ∧
        ∀ e ∈ b.entries, e.Promised v.trust.logs ∧ e.Describes content signer artifact.sha256) ∧
      ∀ es, (∀ e, e ∈ es ↔ e ∈ b.entries) → ∀ threshold r',
        v.verify artifact (b.withEntries es) { p with entryThreshold := threshold } = .ok r' ↔
          threshold ≤ es.length ∧ r' = { r with entries := es.length }) ∧
    (p.checksTimestamps = true → ∀ leaf chain, v.Resolves b.material.signer (.certificate leaf chain) →
      ∃ time path issuer, r.time = some time ∧ IsFirstPath leaf chain time path v.trust.authorities ∧
        path[1]? = some issuer ∧
        leaf.HasVerified issuer v.trust.certificateLogs r.timestamps ∧ p.timestampThreshold ≤ r.timestamps ∧
        ∀ ts precertificate, leaf.Embeds ts → leaf.precertificate = .ok precertificate →
          ∀ t ∈ ts, t.Counts v.trust.certificateLogs precertificate issuer.key.id → ts.count t ≤ r.timestamps) := by
  obtain ⟨content, signer, promised, ha⟩ := exists_accepts h
  constructor
  · intro hchecks
    obtain ⟨hall, hthreshold, hcount⟩ := ha.counts.1 hchecks
    refine ⟨hcount ▸ hthreshold, hcount.symm, ⟨content, signer, ha.carries, ha.resolves, fun e he => ?_⟩, ?_⟩
    · exact ⟨(hall e he).1, (hall e he).2.1⟩
    · exact fun es hes threshold r' => ha.verify_withEntries_iff hchecks hes
  · intro hchecks leaf chain hs
    obtain rfl : signer = .certificate leaf chain := ha.resolves.unique hs
    obtain ⟨path, issuer, hpath, hissuer, htimestamps, -, -, -, htime⟩ := ha.judges
    obtain ⟨hverified, hthreshold⟩ := htimestamps.1 hchecks
    exact ⟨_, path, issuer, htime, hpath, hissuer, hverified, hthreshold,
      fun ts precertificate hts hp t _ ht => hverified.count_le hts hp ht⟩

/-- With a third copy of its entry the sample bundle is accepted where three are asked for, and not where four are. -/
theorem thresholds_count_places_sample :
    sampleVerifier.verify (.octets sampleArtifact) sampleBundle samplePolicy = .ok sampleVerdict ∧
      sampleVerifier.verify (.octets sampleArtifact) (sampleBundle.withEntries [sampleEntry, sampleEntry, sampleEntry])
        { samplePolicy with entryThreshold := 3 } = .ok { sampleVerdict with entries := 3 } ∧
      ∀ r, sampleVerifier.verify (.octets sampleArtifact) (sampleBundle.withEntries [sampleEntry, sampleEntry, sampleEntry])
        { samplePolicy with entryThreshold := 4 } ≠ .ok r := by
  have hcopies : ∀ e, e ∈ [sampleEntry, sampleEntry, sampleEntry] ↔ e ∈ sampleBundle.entries := by
    simp [sampleBundle, Bundle.entries]
  obtain ⟨hentries, -⟩ := thresholds_count_places _ _ _ _ _ verify_sampleArtifact
  obtain ⟨-, -, -, hplaces⟩ := hentries rfl
  exact ⟨verify_sampleArtifact, (hplaces _ hcopies 3 _).mpr ⟨Nat.le_refl 3, rfl⟩,
    fun r hr => absurd ((hplaces _ hcopies 4 r).mp hr).1 (by decide)⟩

/-- One entry and one timestamp, each of them twice, are accepted where two are asked for; with the entry once the bundle is
not accepted. There are no two entries in it that differ in their log or their index, and no two timestamps in the certificate
that differ. -/
theorem repetitions_reach_thresholds :
    sampleVerifier.verify (.octets sampleArtifact) sampleBundle samplePolicy = .ok sampleVerdict ∧
      samplePolicy.checksEntries = true ∧ samplePolicy.checksTimestamps = true ∧
      (∀ r, sampleVerifier.verify (.octets sampleArtifact) (sampleBundle.withEntries [sampleEntry]) samplePolicy ≠ .ok r) ∧
      (¬∃ es : List LogEntry, samplePolicy.entryThreshold ≤ es.length ∧ (∀ e ∈ es, e ∈ sampleBundle.entries) ∧
        es.Pairwise fun d e => (d.logId, d.logIndex) ≠ (e.logId, e.logIndex)) ∧
      sampleVerifier.Resolves sampleBundle.material.signer (.certificate signerCertificate []) ∧
      ¬∃ ts found : List CertificateTimestamp, signerCertificate.Embeds ts ∧ samplePolicy.timestampThreshold ≤ found.length ∧
        (∀ t ∈ found, t ∈ ts) ∧ found.Nodup := by
  refine ⟨verify_sampleArtifact, rfl, rfl, fun r hr => ?_, ?_, .certificate parse_signerDer, ?_⟩
  · obtain ⟨_, _, _, ha⟩ := exists_accepts hr
    exact absurd (ha.counts.1 rfl).2.1 (by decide)
  · rintro ⟨es, hlen, hmem, hdistinct⟩
    have hsame : ∀ e ∈ es, e = sampleEntry := fun e he => by simpa [sampleBundle, Bundle.entries] using hmem e he
    have hshort : es.length ≤ 1 := length_le_one_of_copies hsame hdistinct fun hdiffers => hdiffers rfl
    exact absurd hlen (Nat.not_le.mpr (Nat.lt_succ_of_le hshort))
  · rintro ⟨ts, found, hts, hlen, hmem, hdistinct⟩
    obtain ⟨-, -, -, hcopies⟩ := sampleCertificates_facts
    rw [Certificate.timestamps_eq_ok_iff.mpr hts] at hcopies
    have hall : ∀ t ∈ ts, ts.head? = some t := by simpa [Except.toOption] using hcopies
    -- Of a list that begins with every one of its elements there is only one to be found.
    have hshort : found.length ≤ 1 := by
      cases hhead : ts.head? with
      | none =>
        obtain rfl : found = [] := List.eq_nil_iff_forall_not_mem.mpr fun t ht => by
          cases hhead.symm.trans (hall t (hmem t ht))
        exact Nat.zero_le 1
      | some first =>
        have hsame : ∀ t ∈ found, t = first := fun t ht => Option.some.inj ((hall t (hmem t ht)).symm.trans hhead)
        exact length_le_one_of_copies hsame hdistinct fun hdiffers => hdiffers rfl
    exact absurd hlen (Nat.not_le.mpr (Nat.lt_succ_of_le hshort))

end Verifier

end ArtifactTrust
