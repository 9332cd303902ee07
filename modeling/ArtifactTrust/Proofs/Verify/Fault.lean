import ArtifactTrust.Proofs.Bundle.Report
import ArtifactTrust.Proofs.Policy.Identity
import ArtifactTrust.Proofs.Verify.Signer

/-!
# Unusable bundles

`Verifier.Finds` says for each fault by which a verifier calls a bundle unusable what is wrong with the bundle. Main statements:
what is called wrong with a bundle that keeps all rules of its structure is wrong with it (`Verifier.finds_of_verify`); and as the
rules of structure forbid most of it, the faults of structure are reported together as broken rules, and not by any later
check (`Verifier.verify_structure_first`).
-/

namespace ArtifactTrust

open Failure

/-! ## Faults and their causes -/

/-- A fault that a rule of structure is about. That a promise is missing is one in version 0.1 only. -/
def BundleFault.IsStructural (version : Option BundleVersion) : BundleFault → Prop
  | .noContent | .noCertificates | .promise .missingLogId | .noKindVersion | .signatureCount _ => True
  | .promise .missing => version = some .v01
  | _ => False

/-- What has to be wrong with a bundle for each fault. Log entries are only looked at if a policy checks them, and the name of a
certificate only if the policy asks for identities. -/
inductive Verifier.Finds (v : Verifier) (b : Bundle) (p : Policy) : BundleFault → Prop
  | noContent (hnone : b.content = none) : v.Finds b p .noContent
  | noCertificates (hchain : b.material.signer = .chain []) : v.Finds b p .noCertificates
  | unknownHint {hint : String} (hhint : b.material.signer = .keyHint hint) (hnone : v.keys.lookup hint = none) :
      v.Finds b p (.unknownHint hint)
  | time {e : LogEntry} (he : e ∈ b.promised) (hnone : e.time? = none) : v.Finds b p (.time e.integratedTime)
  | promise {e : LogEntry} {fault : PromiseFault} (hchecks : p.checksEntries = true) (he : e ∈ b.entries)
      (hjudged : e.Judged v.trust.logs (.error fault)) (hfault : fault ≠ .rejected) : v.Finds b p (.promise fault)
  | noKindVersion {e : LogEntry} (hchecks : p.checksEntries = true) (he : e ∈ b.entries) (hnone : e.kindVersion = none) :
      v.Finds b p .noKindVersion
  | signatureCount {e : Envelope} (hcontent : b.content = some (.envelope e)) (hcount : e.signatures.length ≠ 1) :
      v.Finds b p (.signatureCount e.signatures.length)
  | noIdentity {signer : Signer} {leaf : Certificate} (hasks : p.identities ≠ []) (hsigner : v.Resolves b.material.signer signer)
      (hleaf : signer.leaf? = some leaf) (hnone : ∀ name, ¬leaf.Identifies name) : v.Finds b p .noIdentity

variable {v : Verifier} {artifact : Artifact} {b : Bundle} {p : Policy} {content : SignedContent} {signer : Signer}
  {fault : BundleFault}

/-! ## The single checks -/

namespace Bundle

theorem instantOf_eq_error_iff {e : LogEntry} {cause : VerifyError} :
    instantOf e = .error cause ↔ e.time? = none ∧ .bundle (.time e.integratedTime) = cause := by
  rw [instantOf, elim_eq_error]
  simp

theorem promisedTime_eq_error {cause : VerifyError} (h : b.promisedTime = .error cause) :
    ∃ e ∈ b.promised, e.time? = none ∧ .bundle (.time e.integratedTime) = cause := by
  unfold promisedTime at h
  split at h
  case h_1 => cases h
  case h_2 e hearliest => exact ⟨e, (earliest?_eq_some hearliest).1, instantOf_eq_error_iff.mp (map_eq_error.mp h)⟩

theorem checkTimes_eq_error {leaf : Certificate} (h : b.checkTimes leaf = .error (.bundle fault)) :
    ∃ e ∈ b.promised, e.time? = none ∧ .time e.integratedTime = fault := by
  obtain ⟨e, he, h⟩ := exists_of_forM_eq_error h
  rcases bind_eq_error.mp h with h | ⟨t, -, h⟩
  · obtain ⟨hnone, heq⟩ := instantOf_eq_error_iff.mp h
    exact ⟨e, he, hnone, VerifyError.bundle.inj heq⟩
  · cases (require_eq_error.mp h).2

end Bundle

/-- Of what may be wrong with an identity, only a certificate without a name makes the bundle unusable. -/
theorem Policy.checkIdentity_eq_error (h : p.checkIdentity signer = .error (.bundle fault)) :
    p.identities ≠ [] ∧ ∃ leaf, signer.leaf? = some leaf ∧ (∀ name, ¬leaf.Identifies name) ∧ fault = .noIdentity := by
  unfold checkIdentity at h
  split at h
  case isTrue => cases h
  case isFalse hasks =>
    refine ⟨fun hnone => hasks (List.isEmpty_iff.mpr hnone), ?_⟩
    split at h
    case h_1 => cases h
    case h_2 leaf hleaf =>
      obtain ⟨_, hverdict, heq⟩ := mapError_eq_error.mp (map_eq_error.mp h)
      rcases Certificate.verifyIdentity_eq_error_iff.mp hverdict with ⟨hnone, rfl⟩ | ⟨_, -, -, rfl⟩
      · cases heq
        exact ⟨leaf, hleaf, hnone, rfl⟩
      · cases heq

/-- A body is only looked at with a kind that the entry claims; whatever is wrong with it does not make the bundle unusable. -/
theorem LogEntry.verifyBody_eq_error {e : LogEntry} {digest : Sha256Value}
    (h : e.verifyBody content signer digest = .error (.bundle fault)) : e.kindVersion = none ∧ fault = .noKindVersion := by
  rcases bind_eq_error.mp h with h | ⟨claimed, -, h⟩
  · rcases elim_eq_error.mp h with ⟨hnone, heq⟩ | ⟨_, -, h⟩
    · cases heq
      exact ⟨hnone, rfl⟩
    · cases h
  · exact absurd h (mapError_ne_error nofun)

theorem LogEntry.verifyPromise_eq_error {e : LogEntry} {logs : List TrustedLog}
    (h : (e.verifyPromise logs).mapError VerifyError.ofPromise = .error (.bundle fault)) :
    ∃ cause, e.Judged logs (.error cause) ∧ cause ≠ .rejected ∧ fault = .promise cause := by
  obtain ⟨cause, hverdict, heq⟩ := mapError_eq_error.mp h
  cases cause with
  | rejected => cases heq
  | _ =>
    cases heq
    exact ⟨_, judged_iff.mpr hverdict, nofun, rfl⟩

/-- An envelope has to have one signature. -/
theorem SignedContent.verify_eq_error {key : PublicKey} (h : content.verify key artifact = .error (.bundle fault)) :
    ∃ e, content = .envelope e ∧ e.signatures.length ≠ 1 ∧ fault = .signatureCount e.signatures.length := by
  cases content with
  | message s => exact absurd h (mapError_ne_error nofun)
  | envelope e =>
    refine ⟨e, rfl, ?_⟩
    change e.verify key artifact.sha256 = _ at h
    unfold Envelope.verify at h
    split at h
    case h_1 s hone =>
      rcases bind_eq_error.mp h with h | ⟨_, -, h⟩
      · exact absurd h (mapError_ne_error nofun)
      · exact absurd h (mapError_ne_error nofun)
    case h_2 hcount =>
      cases h
      exact ⟨fun hlength => (List.length_eq_one_iff.mp hlength).elim hcount, rfl⟩

namespace Verifier

theorem certificateOf_ne_error {der : Bytes} : certificateOf der ≠ .error (.bundle fault) := mapError_ne_error nofun

/-- A certificate that cannot be read is no fault of the bundle. -/
theorem signerOf_eq_error (h : v.signerOf b.material.signer = .error (.bundle fault)) : v.Finds b p fault := by
  cases hsource : b.material.signer with
  | certificate der =>
    rw [hsource] at h
    rcases bind_eq_error.mp h with h | ⟨_, -, h⟩
    · exact absurd h certificateOf_ne_error
    · cases h
  | chain ders =>
    rw [hsource] at h
    cases ders with
    | nil =>
      cases h
      exact .noCertificates hsource
    | cons der rest =>
      rcases bind_eq_error.mp h with h | ⟨_, -, h⟩
      · obtain ⟨_, -, h⟩ := exists_of_mapM_eq_error h
        exact absurd h certificateOf_ne_error
      · rcases bind_eq_error.mp h with h | ⟨_, -, h⟩
        · exact absurd h certificateOf_ne_error
        · cases h
  | keyHint hint =>
    rw [hsource] at h
    rcases elim_eq_error.mp h with ⟨hnone, heq⟩ | ⟨_, -, h⟩
    · cases heq
      exact .unknownHint hsource hnone
    · cases h

/-- That there is no path, or that too few timestamps verify, is no fault of the bundle. -/
theorem checkSigner_ne_error {promised : Option Instant} : v.checkSigner p promised signer ≠ .error (.bundle fault) := by
  intro h
  cases signer with
  | key k => cases h
  | certificate leaf chain =>
    rcases bind_eq_error.mp h with h | ⟨path, -, h⟩
    · exact absurd h (mapError_ne_error nofun)
    · rcases bind_eq_error.mp h with h | ⟨_, -, h⟩
      · unfold checkTimestamps at h
        split at h
        · split at h
          · exact absurd h (mapError_ne_error fun cause => by cases cause <;> exact nofun)
          · cases h
        · cases h
      · cases h

/-- The faults of log entries, which are looked at only if a policy checks them. -/
theorem checkEntries_eq_error (h : v.checkEntries p b content signer artifact.sha256 = .error (.bundle fault)) :
    v.Finds b p fault := by
  unfold checkEntries at h
  split at h
  case isFalse => cases h
  case isTrue hchecks =>
    rcases bind_eq_error.mp h with h | ⟨_, -, h⟩
    · obtain ⟨e, he, h⟩ := exists_of_forM_eq_error h
      rcases bind_eq_error.mp h with h | ⟨_, -, h⟩
      · obtain ⟨cause, hjudged, hcause, rfl⟩ := LogEntry.verifyPromise_eq_error h
        exact .promise hchecks he hjudged hcause
      · obtain ⟨hnone, rfl⟩ := LogEntry.verifyBody_eq_error h
        exact .noKindVersion hchecks he hnone
    · -- There may be too few entries, which rejects the bundle.
      have hnumber : (do
          require (p.entryThreshold ≤ b.entries.length) (.rejected (.entryCount b.entries.length p.entryThreshold))
          return b.entries.length : Except VerifyError Nat) ≠ .error (.bundle fault) := by
        intro h
        rcases bind_eq_error.mp h with h | ⟨_, -, h⟩
        · cases (require_eq_error.mp h).2
        · cases h
      cases hleaf : signer.leaf? with
      | none =>
        rw [hleaf] at h
        exact absurd h hnumber
      | some leaf =>
        rw [hleaf] at h
        rcases bind_eq_error.mp h with h | ⟨_, -, h⟩
        · obtain ⟨e, he, hnone, rfl⟩ := Bundle.checkTimes_eq_error h
          exact .time he hnone
        · exact absurd h hnumber

/-! ## The whole -/

/-- A bundle that breaks rules of structure is called unusable for them. -/
theorem verify_of_brokenRules (h : b.brokenRules ⟨p.checksEntries, p.checksEntries⟩ ≠ []) :
    v.verify artifact b p = .error (.bundle (.rules (b.brokenRules ⟨p.checksEntries, p.checksEntries⟩))) := by
  unfold verify
  split
  · contradiction
  · rfl

/-- What is called wrong with a bundle that keeps the rules of structure is wrong with it. -/
theorem finds_of_verify (hrules : b.brokenRules ⟨p.checksEntries, p.checksEntries⟩ = [])
    (h : v.verify artifact b p = .error (.bundle fault)) : v.Finds b p fault := by
  unfold verify at h
  rw [hrules] at h
  -- Check by check: this one fails, or it has succeeded and a later one fails.
  rcases bind_eq_error.mp h with h | ⟨content, hcontent, h⟩
  · rcases elim_eq_error.mp h with ⟨hnone, heq⟩ | ⟨_, -, h⟩
    · cases heq
      exact .noContent hnone
    · cases h
  rcases bind_eq_error.mp h with h | ⟨signer, hsigner, h⟩
  · exact signerOf_eq_error h
  rcases bind_eq_error.mp h with h | ⟨promised, -, h⟩
  · obtain ⟨e, he, hnone, heq⟩ := Bundle.promisedTime_eq_error h
    cases heq
    exact .time he hnone
  rcases bind_eq_error.mp h with h | ⟨shown, -, h⟩
  · exact absurd h checkSigner_ne_error
  rcases bind_eq_error.mp h with h | ⟨_, -, h⟩
  · obtain ⟨hasks, leaf, hleaf, hnone, rfl⟩ := Policy.checkIdentity_eq_error h
    exact .noIdentity hasks (signerOf_eq_ok_iff.mp hsigner) hleaf hnone
  rcases bind_eq_error.mp h with h | ⟨entries, -, h⟩
  · exact checkEntries_eq_error h
  rcases bind_eq_error.mp h with h | ⟨_, -, h⟩
  · obtain ⟨e, rfl, hcount, rfl⟩ := SignedContent.verify_eq_error h
    exact .signatureCount (Success.elim_ok_eq_ok.mp hcontent) hcount
  · cases h

/-- What is wrong with the structure breaks a rule. -/
theorem Finds.breaks (h : v.Finds b p fault) (hstructural : fault.IsStructural b.version?) :
    ∃ rule, b.Breaks ⟨p.checksEntries, p.checksEntries⟩ rule := by
  cases h with
  | noContent hnone => exact ⟨.content, hnone⟩
  | noCertificates hchain => exact ⟨.emptyChain, hchain⟩
  | @promise e _ hchecks he hjudged _ =>
    obtain ⟨place, hplace⟩ := List.mem_iff_getElem?.mp he
    cases hjudged with
    | noPromise hnone => exact ⟨.promise place, hchecks, hstructural, e, hplace, hnone⟩
    | noLogId _ hnone => exact ⟨.logId place, e, hplace, hnone⟩
    | noTime | unknownLog | rejected => cases hstructural
  | @noKindVersion e _ he hnone =>
    obtain ⟨place, hplace⟩ := List.mem_iff_getElem?.mp he
    exact ⟨.kindVersion place, e, hplace, hnone⟩
  | @signatureCount e hcontent hcount => exact ⟨.signatureCount, e, hcontent, hcount⟩
  | unknownHint | time | noIdentity => cases hstructural

/-- Faults of structure are found first, and all together. A bundle that passes the validation is not called unusable for one by a
later check; one that breaks a rule is called unusable for the rules that it breaks, this one among them. -/
theorem verify_structure_first (v : Verifier) (artifact : Artifact) (b : Bundle) (p : Policy) :
    (b.validate ⟨p.checksEntries, p.checksEntries⟩ = .ok () → ∀ fault, v.verify artifact b p = .error (.bundle fault) →
      v.Finds b p fault ∧ ¬fault.IsStructural b.version?) ∧
    ∀ rule, b.Breaks ⟨p.checksEntries, p.checksEntries⟩ rule →
      ∃ rules, rule ∈ rules ∧ v.verify artifact b p = .error (.bundle (.rules rules)) := by
  constructor
  · intro hvalid fault h
    have hrules := Bundle.validate_eq_ok_iff.mp hvalid
    have hfinds := finds_of_verify hrules h
    refine ⟨hfinds, fun hstructural => ?_⟩
    obtain ⟨rule, hrule⟩ := hfinds.breaks hstructural
    exact Bundle.brokenRules_eq_nil_iff_not_breaks.mp hrules rule hrule
  · intro rule hrule
    have hmem := Bundle.mem_brokenRules_iff.mpr hrule
    exact ⟨_, hmem, verify_of_brokenRules (List.ne_nil_of_mem hmem)⟩

/-- A bundle of version 0.1 whose signer is a hint at a key, with one log entry. -/
def hintedBundle (promise : Option Bytes) : Bundle :=
  ⟨BundleVersion.v01.mediaType, ⟨.keyHint "release", [⟨7, some [0xc0], some ⟨"hashedrekord", "0.0.1"⟩, 1717200300, promise, none,
    [0x7b, 0x7d]⟩]⟩, some (.message ⟨none, [0x30, 0x00]⟩)⟩

/-- A verifier that holds no keys. -/
def keylessVerifier : Verifier := ⟨⟨[], [], []⟩, []⟩

/-- With a promise the bundle passes the validation, and its hint is what is called wrong with it; without one it breaks a rule, and
this is called wrong with it before its hint is looked up. -/
theorem verify_structure_first_hint :
    (hintedBundle (some [0x30])).validate ⟨true, true⟩ = .ok () ∧
      keylessVerifier.verify (.octets []) (hintedBundle (some [0x30])) {} = .error (.bundle (.unknownHint "release")) ∧
      keylessVerifier.Finds (hintedBundle (some [0x30])) {} (.unknownHint "release") ∧
      ¬(BundleFault.unknownHint "release").IsStructural (hintedBundle (some [0x30])).version? ∧
      (hintedBundle none).Breaks ⟨true, true⟩ (.promise 0) ∧
      ∃ rules, .promise 0 ∈ rules ∧
        keylessVerifier.verify (.octets []) (hintedBundle none) {} = .error (.bundle (.rules rules)) := by
  have hvalid : (hintedBundle (some [0x30])).validate ⟨true, true⟩ = .ok () := by decide +kernel
  have hanswer : keylessVerifier.verify (.octets []) (hintedBundle (some [0x30])) {} =
      .error (.bundle (.unknownHint "release")) := rfl
  have hbroken : (hintedBundle none).Breaks ⟨true, true⟩ (.promise 0) := ⟨rfl, by decide, _, rfl, rfl⟩
  obtain ⟨hfinds, hnot⟩ := (verify_structure_first _ _ _ _).1 hvalid _ hanswer
  exact ⟨hvalid, hanswer, hfinds, hnot, hbroken, (verify_structure_first _ _ _ _).2 _ hbroken⟩

end Verifier

end ArtifactTrust
