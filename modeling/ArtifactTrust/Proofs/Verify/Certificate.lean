import ArtifactTrust.Policy.Identity
import ArtifactTrust.Proofs.Log.CertificateTimestamp
import ArtifactTrust.Proofs.Verify.Entry

/-!
# What a signing certificate has to show

How many of the timestamps in a certificate trusted logs have signed (`Certificate.HasVerified`), and whether it carries an
identity that a policy asks for (`ExpectedIdentity.IsCarried`), each beside the statement that it is checked as said.
-/

namespace ArtifactTrust

open Success

/-! ## Timestamps -/

namespace CertificateTimestamp

/-- A timestamp counts when it is of the version and at a time that are understood, and a trusted log with its id, the key in
use at the time, has signed it over a pre-certificate and the issuer's key. -/
def Counts (logs : List TrustedLog) (precertificate issuerKeyId : Bytes) (t : CertificateTimestamp) : Prop :=
  t.version = 0 ∧ ∃ time signed, t.time? = some time ∧ t.signedBytes precertificate issuerKeyId = .ok signed ∧
    ∃ log ∈ logs, log.id = t.logId ∧ log.validFor.contains time = true ∧
      ∃ s, t.scheme? log.key = some s ∧ s.verify log.key.octets signed t.signature = true

variable {logs : List TrustedLog} {precertificate issuerKeyId : Bytes} {t : CertificateTimestamp}

theorem isSignedBy_iff {log : TrustedLog} {signed : Bytes} :
    t.isSignedBy log signed = true ↔ ∃ s, t.scheme? log.key = some s ∧ s.verify log.key.octets signed t.signature = true := by
  unfold isSignedBy
  cases t.scheme? log.key <;> simp

/-- A timestamp counts when it is found to be verified. -/
theorem isVerified_eq_ok_true_iff :
    isVerified logs precertificate issuerKeyId t = .ok true ↔ t.Counts logs precertificate issuerKeyId := by
  unfold isVerified Counts
  by_cases hv : t.version = 0
  · cases ht : t.time? with
    | none => simp [hv]
    | some time =>
      simp only [hv, ne_eq, not_true_eq_false, if_false, bind_eq_ok, pure_eq_ok, List.any_eq_true, Bool.and_eq_true,
        TrustedLog.accepts_iff, isSignedBy_iff, true_and, Option.some.injEq, exists_and_left, exists_eq_left', and_assoc]
  · simp [hv]

instance : Decidable (t.Counts logs precertificate issuerKeyId) := decidable_of_iff _ isVerified_eq_ok_true_iff

/-- A timestamp is judged unless the pre-certificate is too long for one that is understood. -/
theorem isVerified_eq_ok_iff {verdict : Bool} :
    isVerified logs precertificate issuerKeyId t = .ok verdict ↔
      (t.version = 0 → t.time?.isSome = true → precertificate.length < 0x1000000) ∧
        decide (t.Counts logs precertificate issuerKeyId) = verdict := by
  have hjudged : (∃ verdict, isVerified logs precertificate issuerKeyId t = .ok verdict) ↔
      (t.version = 0 → t.time?.isSome = true → precertificate.length < 0x1000000) := by
    unfold isVerified
    by_cases hv : t.version = 0
    · cases ht : t.time? with
      | none => simp [hv]
      | some time =>
        simp only [hv, ne_eq, not_true_eq_false, if_false, bind_eq_ok, pure_eq_ok, Option.isSome_some, true_imp_iff,
          ← exists_signedBytes_iff t precertificate issuerKeyId]
        constructor
        · rintro ⟨-, signed, hs, -⟩
          exact ⟨signed, hs⟩
        · rintro ⟨signed, hs⟩
          exact ⟨_, signed, hs, rfl⟩
    · simp [hv]
  have hunique : ∀ v, isVerified logs precertificate issuerKeyId t = .ok v →
      decide (t.Counts logs precertificate issuerKeyId) = v := by
    intro v h
    cases v with
    | true => exact decide_eq_true (isVerified_eq_ok_true_iff.mp h)
    | false =>
      refine decide_eq_false fun hc => ?_
      rw [isVerified_eq_ok_true_iff.mpr hc] at h
      cases h
  rw [← hjudged]
  constructor
  · exact fun h => ⟨⟨verdict, h⟩, hunique _ h⟩
  · rintro ⟨⟨v, h⟩, rfl⟩
    rw [hunique v h, h]

end CertificateTimestamp

namespace Certificate

/-- The timestamps in a certificate: those of its list, which can be read, or none where it has no list. -/
def Embeds (c : Certificate) (ts : List CertificateTimestamp) : Prop :=
  (c.timestampList = .ok none ∧ ts = []) ∨
    ∃ list, c.timestampList = .ok (some list) ∧ CertificateTimestamp.readList list = .ok ts

/-- The number of timestamps in a certificate that count. Where there are any, what they were signed over has to be told: the
pre-certificate can be made, and it is not too long for those that are understood. -/
def HasVerified (c issuer : Certificate) (logs : List TrustedLog) (n : Nat) : Prop :=
  ∃ ts, c.Embeds ts ∧
    ((ts = [] ∧ n = 0) ∨
      ∃ precertificate, c.precertificate = .ok precertificate ∧
        (∀ t ∈ ts, t.version = 0 → t.time?.isSome = true → precertificate.length < 0x1000000) ∧
        n = ts.countP fun t => t.Counts logs precertificate issuer.key.id)

variable {c issuer : Certificate} {logs : List TrustedLog} {n : Nat}

theorem timestamps_eq_ok_iff {ts : List CertificateTimestamp} : c.timestamps = .ok ts ↔ c.Embeds ts := by
  unfold timestamps Embeds
  simp only [bind_eq_ok, mapError_eq_ok]
  constructor
  · rintro ⟨_ | list, hl, h⟩
    · rw [pure_eq_ok] at h
      exact Or.inl ⟨hl, h.symm⟩
    · exact Or.inr ⟨list, hl, mapError_eq_ok.mp h⟩
  · rintro (⟨hl, rfl⟩ | ⟨list, hl, h⟩)
    · exact ⟨none, hl, rfl⟩
    · exact ⟨some list, hl, mapError_eq_ok.mpr h⟩

/-- There is only one list of timestamps in a certificate. -/
theorem Embeds.unique {ts ts' : List CertificateTimestamp} (h : c.Embeds ts) (h' : c.Embeds ts') : ts = ts' :=
  Except.ok.inj ((timestamps_eq_ok_iff.mpr h).symm.trans (timestamps_eq_ok_iff.mpr h'))

theorem countVerified_eq_ok_iff : c.countVerified issuer logs = .ok n ↔ c.HasVerified issuer logs n := by
  -- The verdicts are those of the timestamps one by one.
  have hverdicts : ∀ (precertificate : Bytes) (ts : List CertificateTimestamp) (verdicts : List Bool),
      ts.mapM (CertificateTimestamp.isVerified logs precertificate issuer.key.id) = .ok verdicts ↔
        (∀ t ∈ ts, t.version = 0 → t.time?.isSome = true → precertificate.length < 0x1000000) ∧
          ts.map (fun t => decide (t.Counts logs precertificate issuer.key.id)) = verdicts := by
    intro precertificate ts verdicts
    simp only [mapM_eq_ok, CertificateTimestamp.isVerified_eq_ok_iff, List.forall₂_and_left]
    rw [← List.forall₂_map_left_iff, List.forall₂_eq_eq_eq]
  have hcount : ∀ (precertificate : Bytes) (ts : List CertificateTimestamp),
      (ts.map fun t => decide (t.Counts logs precertificate issuer.key.id)).count true =
        ts.countP fun t => t.Counts logs precertificate issuer.key.id := by
    intro precertificate ts
    simp only [List.count, List.countP_map, Function.comp_def, beq_true]
  unfold countVerified HasVerified
  simp only [bind_eq_ok, timestamps_eq_ok_iff]
  refine exists_congr fun ts => and_congr_right fun hts => ?_
  cases ts with
  | nil =>
    simp only [pure_eq_ok, List.countP_nil, List.not_mem_nil, false_imp_iff, implies_true, true_and]
    constructor
    · exact fun h => Or.inl h.symm
    · rintro (h | ⟨_, _, h⟩) <;> exact h.symm
  | cons t ts =>
    simp only [bind_eq_ok, mapError_eq_ok, pure_eq_ok, hverdicts, reduceCtorEq, false_and, false_or]
    constructor
    · rintro ⟨precertificate, hp, verdicts, ⟨hlen, rfl⟩, rfl⟩
      exact ⟨precertificate, hp, hlen, hcount _ _⟩
    · rintro ⟨precertificate, hp, hlen, rfl⟩
      exact ⟨precertificate, hp, _, ⟨hlen, rfl⟩, hcount _ _⟩

/-- The timestamps of a certificate suffice when as many of them count as are asked for. -/
theorem verifyTimestamps_eq_ok_iff {threshold : Nat} :
    c.verifyTimestamps issuer logs threshold = .ok n ↔ c.HasVerified issuer logs n ∧ threshold ≤ n := by
  unfold verifyTimestamps
  rw [bind_eq_ok]
  simp only [countVerified_eq_ok_iff]
  constructor
  · rintro ⟨found, hf, h⟩
    split at h
    · cases h
    · rw [pure_eq_ok] at h
      exact ⟨h ▸ hf, by omega⟩
  · rintro ⟨hn, hle⟩
    exact ⟨n, hn, by rw [if_neg (Nat.not_lt.mpr hle)]; rfl⟩

end Certificate

/-! ## Identities -/

/-- A certificate whose subject has a name carries an expected identity: the same issuer vouches for it, the name is accepted,
and each extension that is asked for holds its text. -/
structure ExpectedIdentity.IsCarried (i : ExpectedIdentity) (c : Certificate) (name : String) : Prop where
  issuer : c.identityIssuer = some i.issuer
  name : i.name.accepts name = true
  extensions : ∀ oid text, (oid, text) ∈ i.extensions → ∃ x, c.extension? oid = some x ∧ x.holds text = true

theorem ExpectedIdentity.accepts_iff {i : ExpectedIdentity} {c : Certificate} {name : String} :
    i.accepts c name = true ↔ i.IsCarried c name := by
  simp only [accepts, Bool.and_eq_true, beq_iff_eq, List.all_eq_true, Prod.forall, Option.any_eq_true]
  constructor
  · rintro ⟨⟨hi, hn⟩, hx⟩
    exact ⟨hi, hn, hx⟩
  · rintro ⟨hi, hn, hx⟩
    exact ⟨⟨hi, hn⟩, hx⟩

/-- The subject of a certificate is found to be the one whose identity is asked for. -/
theorem Certificate.verifyIdentity_eq_ok_iff {c : Certificate} {expected : List ExpectedIdentity} {name : String} :
    c.verifyIdentity expected = .ok name ↔ c.identity = some name ∧ ∃ i ∈ expected, i.IsCarried c name := by
  have hcarried : ∀ found, (expected.any fun i => i.accepts c found) = true ↔ ∃ i ∈ expected, i.IsCarried c found := by
    intro found
    simp only [List.any_eq_true, ExpectedIdentity.accepts_iff]
  unfold verifyIdentity
  cases c.identity with
  | none => simp
  | some found =>
    simp only [Option.some.injEq]
    split
    · rename_i h
      rw [Except.ok.injEq]
      exact ⟨fun heq => ⟨heq, heq ▸ (hcarried found).mp h⟩, And.left⟩
    · rename_i h
      simp only [reduceCtorEq, false_iff, not_and]
      rintro rfl
      exact fun hc => h ((hcarried found).mpr hc)

end ArtifactTrust
