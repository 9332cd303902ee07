import ArtifactTrust.Proofs.Verify.Certificate
import ArtifactTrust.Proofs.Verify.Signer

/-!
# The verdict

`Verifier.Accepts` lists all that a bundle has to show under a policy, one field for each check, and what the result says of
it. Main statement: a verifier answers with a result exactly when all of this holds (`Verifier.verify_exact`), so no kind of
signer or content and no switch of the policy leads past a check.
-/

namespace ArtifactTrust

open Success

/-! ## What is asked of the parts of a bundle -/

/-- A policy admits a signer: it asks for no identity, or the signer has a certificate that carries one of those asked for. -/
def Policy.Admits (p : Policy) (signer : Signer) : Prop :=
  p.identities = [] ∨ ∃ leaf name, signer.leaf? = some leaf ∧ leaf.identity = some name ∧
    ∃ i ∈ p.identities, i.IsCarried leaf name

namespace Verifier

/-- The number of timestamps of a certificate that count, as many as the policy asks for; none if they are not checked. -/
def CountsTimestamps (v : Verifier) (p : Policy) (leaf issuer : Certificate) (n : Nat) : Prop :=
  (p.checksTimestamps = true → leaf.HasVerified issuer v.trust.certificateLogs n ∧ p.timestampThreshold ≤ n) ∧
    (p.checksTimestamps = false → n = 0)

/-- What a result says of a signer. A certificate is judged at the earliest promised time, or at the beginning of its own
validity: it has a path to an authority, and the timestamps in it are looked at with the next certificate on this path. -/
def Judges (v : Verifier) (p : Policy) (promised : Option Instant) (r : Verified) : Signer → Prop
  | .key _ => r.chainLength = 0 ∧ r.identity = none ∧ r.issuer = none ∧ r.timestamps = 0 ∧ r.time = promised
  | .certificate leaf chain => ∃ path issuer,
      IsFirstPath leaf chain (promised.getD leaf.notBefore) path v.trust.authorities ∧ path[1]? = some issuer ∧
      v.CountsTimestamps p leaf issuer r.timestamps ∧ r.chainLength = path.length ∧ r.identity = leaf.identity ∧
      r.issuer = leaf.identityIssuer ∧ r.time = some (promised.getD leaf.notBefore)

/-- The number of log entries, as many as the policy asks for: every one is promised and describes the bundle, and a signing
certificate was valid at its time. None are counted if they are not checked. -/
def CountsEntries (v : Verifier) (p : Policy) (b : Bundle) (content : SignedContent) (signer : Signer)
    (artifact : Sha256Value) (n : Nat) : Prop :=
  (p.checksEntries = true →
    (∀ e ∈ b.entries, e.Promised v.trust.logs ∧ e.Describes content signer artifact ∧
      ∀ leaf, signer.leaf? = some leaf → ∃ t, e.time? = some t ∧ leaf.notBefore ≤ t ∧ t ≤ leaf.notAfter) ∧
    p.entryThreshold ≤ b.entries.length ∧ b.entries.length = n) ∧
  (p.checksEntries = false → n = 0)

/-- All that a bundle with a content, a signer and a promised time has to show for a result. -/
structure Accepts (v : Verifier) (artifact : Artifact) (b : Bundle) (p : Policy) (content : SignedContent) (signer : Signer)
    (promised : Option Instant) (r : Verified) : Prop where
  /-- No rule of structure is broken; promises and proofs are required when entries are checked. -/
  rules : b.brokenRules ⟨p.checksEntries, p.checksEntries⟩ = []
  carries : b.content = some content
  resolves : v.Resolves b.material.signer signer
  timed : b.IsPromisedTime promised
  judges : v.Judges p promised r signer
  admits : p.Admits signer
  counts : v.CountsEntries p b content signer artifact.sha256 r.entries
  signed : content.Signed signer.publicKey artifact

end Verifier

/-! ## The single checks -/

variable {v : Verifier} {artifact : Artifact} {b : Bundle} {p : Policy} {content : SignedContent} {signer : Signer}
  {promised : Option Instant} {r : Verified}

theorem Policy.checkIdentity_eq_ok_iff {u : Unit} : p.checkIdentity signer = .ok u ↔ p.Admits signer := by
  unfold checkIdentity Admits
  cases p.identities with
  | nil => simp
  | cons i identities =>
    cases signer.leaf? with
    | none => simp
    | some leaf =>
      simp only [List.isEmpty_cons, Bool.false_eq_true, if_false, discard, Functor.discard, Functor.mapConst, map_eq_ok,
        Function.comp_apply, mapError_eq_ok, Certificate.verifyIdentity_eq_ok_iff, reduceCtorEq, false_or,
        Option.some.injEq, exists_and_left, and_true]
      constructor
      · rintro ⟨name, h⟩
        exact ⟨leaf, rfl, name, h⟩
      · rintro ⟨_, rfl, name, h⟩
        exact ⟨name, h⟩

/-- Content that is signed has one signature. -/
theorem SignedContent.Signed.hasOneSignature {key : PublicKey} (h : content.Signed key artifact) :
    content.HasOneSignature := by
  rintro e rfl
  obtain ⟨s, hs, -⟩ := h.signature
  exact ⟨s, hs⟩

namespace Verifier

theorem checkTimestamps_eq_ok_iff {leaf issuer : Certificate} {above : List Certificate} {n : Nat} :
    v.checkTimestamps p (leaf :: issuer :: above) = .ok n ↔ v.CountsTimestamps p leaf issuer n := by
  rw [checkTimestamps, CountsTimestamps]
  cases p.checksTimestamps with
  | true => simp [Certificate.verifyTimestamps_eq_ok_iff]
  | false => simp [eq_comm]

theorem checkSigner_eq_ok_iff : v.checkSigner p promised signer = .ok r ↔ v.Judges p promised r signer ∧ r.entries = 0 := by
  obtain ⟨chainLength, identity, issuer, timestamps, entries, time⟩ := r
  cases signer with
  | key k =>
    simp only [checkSigner, Judges, Except.ok.injEq, Verified.mk.injEq]
    constructor
    · rintro ⟨rfl, rfl, rfl, rfl, rfl, rfl⟩
      exact ⟨⟨rfl, rfl, rfl, rfl, rfl⟩, rfl⟩
    · rintro ⟨⟨rfl, rfl, rfl, rfl, rfl⟩, rfl⟩
      exact ⟨rfl, rfl, rfl, rfl, rfl, rfl⟩
  | certificate leaf chain =>
    simp only [checkSigner, bind_eq_ok, mapError_eq_ok, findPath_eq_ok_iff, pure_eq_ok, Verified.mk.injEq, Judges]
    constructor
    · rintro ⟨path, hpath, n, hn, rfl, rfl, rfl, rfl, rfl, rfl⟩
      obtain ⟨next, above, rfl⟩ := hpath.eq_cons_cons
      exact ⟨⟨_, next, hpath, rfl, checkTimestamps_eq_ok_iff.mp hn, rfl, rfl, rfl, rfl⟩, rfl⟩
    · rintro ⟨⟨path, next, hpath, hnext, hn, rfl, rfl, rfl, rfl⟩, rfl⟩
      obtain ⟨next', above, rfl⟩ := hpath.eq_cons_cons
      obtain rfl : next' = next := Option.some.inj hnext
      exact ⟨_, hpath, _, checkTimestamps_eq_ok_iff.mpr hn, rfl, rfl, rfl, rfl, rfl, rfl⟩

/-- Entries that are all promised are the promised ones. -/
theorem promised_eq_entries (h : ∀ e ∈ b.entries, e.promise.isSome = true) : b.promised = b.entries :=
  List.filter_eq_self.mpr h

theorem checkTimes_eq_ok_iff {leaf : Certificate} {u : Unit} (h : ∀ e ∈ b.entries, e.promise.isSome = true) :
    b.checkTimes leaf = .ok u ↔ ∀ e ∈ b.entries, ∃ t, e.time? = some t ∧ leaf.notBefore ≤ t ∧ t ≤ leaf.notAfter := by
  unfold Bundle.checkTimes
  rw [promised_eq_entries h]
  simp only [forM_eq_ok, bind_eq_ok, Bundle.instantOf_eq_ok_iff, require_eq_ok, Path.isValidAt_iff]

theorem checkEntry_eq_ok_iff {e : LogEntry} {digest : Sha256Value} {u : Unit} (hone : content.HasOneSignature) :
    v.checkEntry content signer digest e = .ok u ↔ e.Promised v.trust.logs ∧ e.Describes content signer digest := by
  simp only [checkEntry, bind_eq_ok, mapError_eq_ok, LogEntry.verifyPromise_eq_ok_iff, LogEntry.verifyBody_eq_ok_iff hone,
    exists_const]

/-- The entries are checked one by one, then their times where there is a certificate, then their number. -/
theorem checkEntries_eq_ok {digest : Sha256Value} {n : Nat} (hc : p.checksEntries = true) :
    v.checkEntries p b content signer digest = .ok n ↔
      (∀ e ∈ b.entries, v.checkEntry content signer digest e = .ok ()) ∧
        (∀ leaf, signer.leaf? = some leaf → b.checkTimes leaf = .ok ()) ∧
        p.entryThreshold ≤ b.entries.length ∧ b.entries.length = n := by
  rw [checkEntries, if_pos hc]
  cases signer.leaf? <;>
    simp only [bind_eq_ok, forM_eq_ok, require_eq_ok, decide_eq_true_eq, pure_eq_ok, exists_unit_eq_ok, exists_const,
      Option.some.injEq, forall_eq', reduceCtorEq, false_imp_iff, implies_true, true_and]

/-- Entries are counted when all of them pass. Since they are promised, the times of all of them are looked at. -/
theorem checkEntries_eq_ok_iff {digest : Sha256Value} {n : Nat} (hone : content.HasOneSignature) :
    v.checkEntries p b content signer digest = .ok n ↔ v.CountsEntries p b content signer digest n := by
  rw [CountsEntries]
  cases hc : p.checksEntries with
  | false => simp [checkEntries, hc, eq_comm]
  | true =>
    simp only [checkEntries_eq_ok hc, checkEntry_eq_ok_iff hone, true_imp_iff, reduceCtorEq, false_imp_iff, and_true]
    constructor
    · rintro ⟨hall, htimes, hn⟩
      have hpromised : ∀ e ∈ b.entries, e.promise.isSome = true := fun e he => (hall e he).1.isSome
      refine ⟨fun e he => ⟨(hall e he).1, (hall e he).2, fun leaf hl => ?_⟩, hn⟩
      exact (checkTimes_eq_ok_iff hpromised).mp (htimes leaf hl) e he
    · rintro ⟨hall, hn⟩
      have hpromised : ∀ e ∈ b.entries, e.promise.isSome = true := fun e he => (hall e he).1.isSome
      refine ⟨fun e he => ⟨(hall e he).1, (hall e he).2.1⟩, fun leaf hl => ?_, hn⟩
      exact (checkTimes_eq_ok_iff hpromised).mpr fun e he => (hall e he).2.2 leaf hl

/-! ## The whole -/

/-- A verifier answers with a result exactly when the bundle shows all that is asked of it: no check is passed over. -/
theorem verify_exact (v : Verifier) (artifact : Artifact) (b : Bundle) (p : Policy) (r : Verified) :
    v.verify artifact b p = .ok r ↔ ∃ content signer promised, v.Accepts artifact b p content signer promised r := by
  unfold verify
  cases hrules : b.brokenRules ⟨p.checksEntries, p.checksEntries⟩ with
  | cons rule rules =>
    simp only [bind_eq_ok, reduceCtorEq, false_and, exists_false, false_iff]
    rintro ⟨content, signer, promised, h⟩
    rw [h.rules] at hrules
    cases hrules
  | nil =>
    simp only [bind_eq_ok, elim_eq_ok, Except.ok.injEq, signerOf_eq_ok_iff, Bundle.promisedTime_eq_ok_iff,
      checkSigner_eq_ok_iff, Policy.checkIdentity_eq_ok_iff, SignedContent.verify_eq_ok_iff, pure_eq_ok]
    constructor
    · rintro ⟨content, ⟨_, hc, rfl⟩, signer, hs, promised, ht, shown, ⟨hj, -⟩, -, ha, n, hn, -, hsigned, rfl⟩
      exact ⟨_, signer, promised, hrules, hc, hs, ht, hj, ha, (checkEntries_eq_ok_iff hsigned.hasOneSignature).mp hn, hsigned⟩
    · rintro ⟨content, signer, promised, h⟩
      exact ⟨content, ⟨_, h.carries, rfl⟩, signer, h.resolves, promised, h.timed, { r with entries := 0 }, ⟨h.judges, rfl⟩, (),
        h.admits, r.entries, (checkEntries_eq_ok_iff h.signed.hasOneSignature).mpr h.counts, (), h.signed, rfl⟩

end Verifier

end ArtifactTrust
