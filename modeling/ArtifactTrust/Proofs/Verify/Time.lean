import ArtifactTrust.Proofs.Log.Promise
import ArtifactTrust.Proofs.Verify.Acceptance

/-!
# The time that certificates are judged at

The time is taken from the entries before any promise is checked, and only from those that carry one. Main statement: where
entries are checked, it is nevertheless the earliest time of all entries, and every one of these times was signed by a trusted
log and lies in the validity of the signing certificate (`Verifier.judged_at_vouched_time`).
-/

namespace ArtifactTrust

/-- All certificates of a verified path are valid at the instant that it is verified for. -/
theorem Path.valid_of_verify {leaf : Certificate} {trusted untrusted path : List Certificate} {t : Instant}
    (h : Path.verify leaf trusted untrusted t = .ok path) : ∀ c ∈ path, c.notBefore ≤ t ∧ t ≤ c.notAfter := by
  obtain ⟨-, hno⟩ := Path.verify_eq_ok_iff.mp h
  intro c hc
  obtain ⟨place, hplace⟩ := List.mem_iff_getElem?.mp hc
  by_contra hinvalid
  exact hno (.notValid place t) ⟨rfl, c, hplace, hinvalid⟩

/-! ## Entries -/

/-- A trusted log with the id that an entry names has signed the entry together with an instant, at which its key was in
use. -/
def LogEntry.IsVouchedAt (e : LogEntry) (logs : List TrustedLog) (t : Instant) : Prop :=
  ∃ log ∈ logs, e.logId = some log.id ∧ log.validFor.contains t = true ∧
    ∃ promise signed, e.promise = some promise ∧ log.key.Signs signed promise ∧ TellsTime signed t

/-- A promised entry is vouched for at its time. -/
theorem LogEntry.Promised.isVouchedAt {e : LogEntry} {logs : List TrustedLog} {t : Instant} (h : e.Promised logs)
    (ht : e.time? = some t) : e.IsVouchedAt logs t := by
  obtain ⟨promise, logId, time, hp, hl, htime, log, hlog, rfl, hwindow, hsigns⟩ := h
  obtain rfl : time = t := Option.some.inj (htime.symm.trans ht)
  exact ⟨log, hlog, hl, hwindow, promise, e.signedBytes log.id, hp, hsigns, signedBytes_tellsTime ht log.id⟩

/-- Where all entries carry a promise, the promised time is the earliest of all. -/
theorem Bundle.IsPromisedTime.earliest {b : Bundle} {promised : Option Instant} (h : b.IsPromisedTime promised)
    (hall : ∀ e ∈ b.entries, e.promise.isSome = true) :
    (b.entries = [] ∧ promised = none) ∨ ∃ t, promised = some t ∧
      ∃ first ∈ b.entries, first.time? = some t ∧ ∀ e ∈ b.entries, first.integratedTime ≤ e.integratedTime := by
  cases promised with
  | none =>
    refine Or.inl ⟨List.eq_nil_iff_forall_not_mem.mpr fun e he => ?_, rfl⟩
    have hsome := hall e he
    rw [h e he] at hsome
    cases hsome
  | some t =>
    obtain ⟨first, hfirst, -, ht, hle⟩ := h
    exact Or.inr ⟨t, rfl, first, hfirst, ht, fun e he => hle e he (hall e he)⟩

/-! ## The time of a result -/

namespace Verifier

/-- Who is not known by a hint has a certificate. -/
theorem Resolves.exists_certificate {v : Verifier} {source : SignerSource} {signer : Signer} (h : v.Resolves source signer)
    (hsource : ∀ hint, source ≠ .keyHint hint) : ∃ leaf chain, signer = .certificate leaf chain := by
  cases h with
  | certificate => exact ⟨_, _, rfl⟩
  | chain => exact ⟨_, _, rfl⟩
  | key => exact absurd rfl (hsource _)

/-- The authority that a path leads to is trusted at the instant of the path. -/
theorem IsFirstPath.exists_authority {leaf : Certificate} {chain path : List Certificate} {t : Instant}
    {authorities : List Authority} (h : IsFirstPath leaf chain t path authorities) :
    ∃ a ∈ authorities, a.validFor.contains t = true ∧ Path.verify leaf a.certificates chain t = .ok path := by
  obtain ⟨before, a, after, rfl, hwindow, hverify, -⟩ := h
  exact ⟨a, List.mem_append_cons_self, hwindow, hverify⟩

/-- The certificates of a bundle whose entries are checked are judged at the earliest time of all entries, or at the beginning
of the leaf's validity where there are none. A trusted log has signed each of these times, they lie in the validity of the leaf,
and the path that is found, to an authority trusted at the time of the result, consists of certificates valid at this time. -/
theorem judged_at_vouched_time (v : Verifier) (artifact : Artifact) (b : Bundle) (p : Policy) (r : Verified)
    (hsource : ∀ hint, b.material.signer ≠ .keyHint hint) (hchecks : p.checksEntries = true)
    (h : v.verify artifact b p = .ok r) :
    ∃ leaf chain t path, v.Resolves b.material.signer (.certificate leaf chain) ∧ r.time = some t ∧
      (b.entries = [] → t = leaf.notBefore) ∧
      (b.entries ≠ [] →
        ∃ first ∈ b.entries, first.time? = some t ∧ ∀ e ∈ b.entries, first.integratedTime ≤ e.integratedTime) ∧
      (∀ e ∈ b.entries, ∃ u, e.time? = some u ∧ leaf.notBefore ≤ u ∧ u ≤ leaf.notAfter ∧ e.IsVouchedAt v.trust.logs u) ∧
      r.chainLength = path.length ∧ IsFirstPath leaf chain t path v.trust.authorities ∧
      (∃ authority ∈ v.trust.authorities,
        authority.validFor.contains t = true ∧ Path.verify leaf authority.certificates chain t = .ok path) ∧
      ∀ c ∈ path, c.notBefore ≤ t ∧ t ≤ c.notAfter := by
  obtain ⟨content, signer, promised, ha⟩ := exists_accepts h
  obtain ⟨leaf, chain, rfl⟩ := ha.resolves.exists_certificate hsource
  obtain ⟨path, issuer, hpath, -, -, hlength, -, -, htime⟩ := ha.judges
  obtain ⟨hall, -⟩ := ha.counts.1 hchecks
  have hentries : ∀ e ∈ b.entries,
      ∃ u, e.time? = some u ∧ leaf.notBefore ≤ u ∧ u ≤ leaf.notAfter ∧ e.IsVouchedAt v.trust.logs u := by
    intro e he
    obtain ⟨hpromised, -, hvalid⟩ := hall e he
    obtain ⟨u, hu, hafter, hbefore⟩ := hvalid leaf rfl
    exact ⟨u, hu, hafter, hbefore, hpromised.isVouchedAt hu⟩
  -- All entries are promised, so that the earliest promised time is the earliest of all.
  have hearliest : (b.entries = [] → promised.getD leaf.notBefore = leaf.notBefore) ∧
      (b.entries ≠ [] → ∃ first ∈ b.entries, first.time? = some (promised.getD leaf.notBefore) ∧
        ∀ e ∈ b.entries, first.integratedTime ≤ e.integratedTime) := by
    rcases ha.timed.earliest fun e he => (hall e he).1.isSome with ⟨hnil, rfl⟩ | ⟨t, rfl, first, hfirst, hle⟩
    · exact ⟨fun _ => rfl, fun hne => absurd hnil hne⟩
    · exact ⟨fun hnil => absurd hfirst (by simp [hnil]), fun _ => ⟨first, hfirst, hle⟩⟩
  obtain ⟨authority, hauthority, hwindow, hverify⟩ := hpath.exists_authority
  exact ⟨leaf, chain, _, path, ha.resolves, htime, hearliest.1, hearliest.2, hentries, hlength, hpath,
    ⟨authority, hauthority, hwindow, hverify⟩, Path.valid_of_verify hverify⟩

/-- The sample bundle is judged at the time of its entry. -/
theorem judged_at_vouched_time_sample :
    (∀ hint, sampleBundle.material.signer ≠ .keyHint hint) ∧ samplePolicy.checksEntries = true ∧
      sampleVerifier.verify (.octets sampleArtifact) sampleBundle samplePolicy = .ok sampleVerdict ∧
      ∃ t, sampleVerdict.time = some t ∧ sampleEntry.time? = some t ∧ sampleEntry.IsVouchedAt [sampleLog] t := by
  have hsource : ∀ hint, sampleBundle.material.signer ≠ .keyHint hint := fun hint heq => by cases heq
  obtain ⟨leaf, chain, t, path, -, htime, -, hearliest, hentries, -⟩ :=
    judged_at_vouched_time _ _ _ _ _ hsource rfl verify_sampleArtifact
  obtain ⟨first, hfirst, ht, -⟩ := hearliest (List.cons_ne_nil _ _)
  obtain rfl : first = sampleEntry := by simpa [sampleBundle, Bundle.entries] using hfirst
  obtain ⟨u, hu, -, -, hvouched⟩ := hentries sampleEntry hfirst
  obtain rfl : t = u := Option.some.inj (ht.symm.trans hu)
  exact ⟨hsource, rfl, verify_sampleArtifact, t, htime, ht, hvouched⟩

end Verifier

end ArtifactTrust
