import ArtifactTrust.Proofs.Log.Body
import ArtifactTrust.Proofs.Verify.Promise

/-!
# What a log entry has to show

An entry counts when a trusted log has promised it (`LogEntry.Promised`) and its body describes what the bundle carries
(`LogEntry.Describes`). The second is stated here, without the order in which it is checked; `LogEntry.verifyBody_eq_ok_iff` says
that an entry passes when it holds. Bodies are compared with contents that carry one signature, which is what the structure of a
bundle allows.
-/

namespace ArtifactTrust

open Success

/-- A text in base64 holds a PEM block with the certificate of a signer, or with its key. -/
def Signer.NamedIn (s : Signer) (text : String) : Prop :=
  ∃ pem block, Base64.decode? text = some pem ∧ Pem.read? pem = some block ∧
    ((block.label = "CERTIFICATE" ∧ ∃ leaf, s.leaf? = some leaf ∧ block.content = leaf.der) ∨
      (block.label = "PUBLIC KEY" ∧ block.content = s.publicKey.info))

theorem Signer.namedIn_iff {s : Signer} {text : String} :
    s.NamedIn text ↔ ∃ pem, Base64.decode? text = some pem ∧ s.isNamedBy pem = true := by
  have hblock : ∀ pem, s.isNamedBy pem = true ↔ ∃ block, Pem.read? pem = some block ∧
      ((block.label = "CERTIFICATE" ∧ ∃ leaf, s.leaf? = some leaf ∧ block.content = leaf.der) ∨
        (block.label = "PUBLIC KEY" ∧ block.content = s.publicKey.info)) := by
    intro pem
    unfold isNamedBy
    cases Pem.read? pem with
    | none => simp
    | some block =>
      simp only [Option.some.injEq, exists_eq_left']
      by_cases hc : block.label = "CERTIFICATE"
      · simp [hc, Option.any_eq_true]
      · by_cases hk : block.label = "PUBLIC KEY" <;> simp [hc, hk]
  simp only [NamedIn, hblock, exists_and_left]

/-- The content of a bundle carries one signature. -/
def SignedContent.HasOneSignature (content : SignedContent) : Prop :=
  ∀ e, content = .envelope e → ∃ s, e.signatures = [s]

/-- The record of an artifact has its digest, its signature and its signer. -/
structure ArtifactRecord.Describes (r : ArtifactRecord) (signature : Bytes) (signer : Signer) (artifact : Sha256Value) :
    Prop where
  digest : r.digest.isOf artifact = true
  signature : Base64.decode? r.signature.signature = some signature
  signer : signer.NamedIn r.signature.verifier

/-- The record of an envelope by its digests has the digest of the payload, and one signature: the envelope's, by the
signer. -/
structure EnvelopeRecord.Describes (r : EnvelopeRecord) (e : Envelope) (signer : Signer) : Prop where
  payload : r.payloadDigest.isOf (Digest.sha256Value e.payload) = true
  signature : ∃ s recorded, e.signatures = [s] ∧ r.signatures = [recorded] ∧
    Base64.decode? recorded.signature = some s.signature ∧ signer.NamedIn recorded.verifier

/-- The record of an envelope in full has the payload, and the envelope's signature after others that can be read. -/
structure StatementRecord.Describes (r : StatementRecord) (e : Envelope) : Prop where
  payload : Base64.decode? r.payload = some e.payload
  signature : ∃ s before recorded after, e.signatures = [s] ∧ r.signatures = before ++ recorded :: after ∧
    (∀ other ∈ before, ∃ octets, Base64.decode? other.signature = some octets) ∧
    Base64.decode? recorded.signature = some s.signature

/-- A record describes a content, a signer and an artifact. -/
def EntryRecord.Describes (r : EntryRecord) (content : SignedContent) (signer : Signer) (artifact : Sha256Value) : Prop :=
  match r, content with
  | .artifact r, .message s => r.Describes s.signature signer artifact
  | .envelope r, .envelope e => r.Describes e signer
  | .statement r, .envelope e => r.Describes e
  | _, _ => False

/-- The body of an entry is of the kind that the entry claims, and what it records describes a content, a signer and an
artifact. -/
def LogEntry.Describes (e : LogEntry) (content : SignedContent) (signer : Signer) (artifact : Sha256Value) : Prop :=
  ∃ claimed body, e.kindVersion = some claimed ∧ EntryBody.parse claimed e.body = .ok body ∧
    body.kindVersion = claimed ∧ body.record.Describes content signer artifact

@[simp] theorem RecordedPart.decode_eq_ok {part : RecordedPart} {text : String} {b : Bytes} :
    part.decode text = .ok b ↔ Base64.decode? text = some b := by
  simp [decode]

@[simp] theorem RecordedSignature.octets_eq_ok {r : RecordedSignature} {b : Bytes} :
    r.octets = .ok b ↔ Base64.decode? r.signature = some b := by
  unfold octets
  cases Base64.decode? r.signature <;> simp

@[simp] theorem StatementRecord.octets_eq_ok {r : StatementRecord} {b : Bytes} :
    r.octets = .ok b ↔ Base64.decode? r.payload = some b := by
  unfold octets
  cases Base64.decode? r.payload <;> simp

theorem ArtifactRecord.verify_eq_ok_iff {r : ArtifactRecord} {signature : Bytes} {signer : Signer} {artifact : Sha256Value}
    {u : Unit} : r.verify signature signer artifact = .ok u ↔ r.Describes signature signer artifact := by
  unfold verify
  simp only [bind_eq_ok, require_eq_ok, RecordedPart.decode_eq_ok, beq_iff_eq]
  constructor
  · rintro ⟨-, hd, recorded, hr, -, rfl, pem, hp, hn⟩
    exact ⟨hd, hr, Signer.namedIn_iff.mpr ⟨pem, hp, hn⟩⟩
  · rintro ⟨hd, hr, hn⟩
    obtain ⟨pem, hp, hn⟩ := Signer.namedIn_iff.mp hn
    exact ⟨(), hd, signature, hr, (), rfl, pem, hp, hn⟩

/-- One recorded signature is looked at whole, the verifier as well. -/
theorem EnvelopeRecord.hasSignature_singleton {signature : Bytes} {signer : Signer} {recorded : RecordedSignature} :
    hasSignature signature signer [recorded] = .ok true ↔
      Base64.decode? recorded.signature = some signature ∧ signer.NamedIn recorded.verifier := by
  unfold hasSignature
  simp only [bind_eq_ok, RecordedPart.decode_eq_ok, Signer.namedIn_iff]
  constructor
  · rintro ⟨octets, ho, pem, hp, h⟩
    split at h
    · rename_i hboth
      rw [Bool.and_eq_true, beq_iff_eq] at hboth
      exact ⟨hboth.1 ▸ ho, pem, hp, hboth.2⟩
    · cases h
  · rintro ⟨ho, pem, hp, hn⟩
    exact ⟨_, ho, pem, hp, by simp [hn]⟩

theorem EnvelopeRecord.verify_eq_ok_iff {r : EnvelopeRecord} {e : Envelope} {signer : Signer} {u : Unit}
    (hone : ∃ s, e.signatures = [s]) : r.verify e signer = .ok u ↔ r.Describes e signer := by
  obtain ⟨s, hs⟩ := hone
  unfold verify
  simp only [bind_eq_ok, require_eq_ok, forM_eq_ok, hs, List.mem_singleton, forall_eq, List.length_singleton, beq_iff_eq]
  constructor
  · rintro ⟨-, hp, -, hlen, found, hf, rfl⟩
    obtain ⟨recorded, hr⟩ := List.length_eq_one_iff.mp hlen.symm
    rw [hr] at hf
    exact ⟨hp, s, recorded, hs, hr, hasSignature_singleton.mp hf⟩
  · rintro ⟨hp, s', recorded, hs', hr, h⟩
    obtain rfl := List.singleton_inj.mp (hs.symm.trans hs')
    exact ⟨(), hp, (), by rw [hr, List.length_singleton], true, by rw [hr]; exact hasSignature_singleton.mpr h, rfl⟩

/-- Recorded signatures are read up to the first that is the given one. -/
theorem StatementRecord.hasSignature_eq_true_iff {signature : Bytes} {rs : List RecordedSignature} :
    hasSignature signature rs = .ok true ↔ ∃ before recorded after, rs = before ++ recorded :: after ∧
      (∀ other ∈ before, ∃ octets, Base64.decode? other.signature = some octets) ∧
      Base64.decode? recorded.signature = some signature := by
  induction rs with
  | nil => simp [hasSignature]
  | cons r rs ih =>
    simp only [hasSignature, bind_eq_ok, mapError_eq_ok, RecordedSignature.octets_eq_ok]
    constructor
    · rintro ⟨octets, ho, h⟩
      split at h
      · rename_i heq
        rw [beq_iff_eq] at heq
        exact ⟨[], r, rs, rfl, by simp, heq ▸ ho⟩
      · obtain ⟨before, recorded, after, rfl, hb, hr⟩ := ih.mp h
        refine ⟨r :: before, recorded, after, rfl, ?_, hr⟩
        exact List.forall_mem_cons.mpr ⟨⟨octets, ho⟩, hb⟩
    · rintro ⟨before, recorded, after, heq, hb, hr⟩
      cases before with
      | nil =>
        rw [List.nil_append, List.cons.injEq] at heq
        obtain ⟨rfl, rfl⟩ := heq
        exact ⟨signature, hr, by simp⟩
      | cons d before =>
        rw [List.cons_append, List.cons.injEq] at heq
        obtain ⟨rfl, rfl⟩ := heq
        obtain ⟨⟨octets, ho⟩, hb⟩ := List.forall_mem_cons.mp hb
        refine ⟨octets, ho, ?_⟩
        split
        · rfl
        · exact ih.mpr ⟨before, recorded, after, rfl, hb, hr⟩

theorem StatementRecord.verify_eq_ok_iff {r : StatementRecord} {e : Envelope} {u : Unit}
    (hone : ∃ s, e.signatures = [s]) : r.verify e = .ok u ↔ r.Describes e := by
  obtain ⟨s, hs⟩ := hone
  have hany : hasAnySignature r.signatures [s] = .ok true ↔ hasSignature s.signature r.signatures = .ok true := by
    simp only [hasAnySignature, bind_eq_ok]
    constructor
    · rintro ⟨found, hf, h⟩
      cases found with
      | true => exact hf
      | false => cases h
    · exact fun h => ⟨true, h, rfl⟩
  unfold verify
  simp only [bind_eq_ok, mapError_eq_ok, require_eq_ok, octets_eq_ok, hs, beq_iff_eq]
  constructor
  · rintro ⟨payload, hp, -, rfl, found, hf, rfl⟩
    obtain ⟨before, recorded, after, hr⟩ := hasSignature_eq_true_iff.mp (hany.mp hf)
    exact ⟨hp, s, before, recorded, after, hs, hr⟩
  · rintro ⟨hp, s', before, recorded, after, hs', hr⟩
    obtain rfl := List.singleton_inj.mp (hs.symm.trans hs')
    exact ⟨_, hp, (), rfl, true, hany.mpr (hasSignature_eq_true_iff.mpr ⟨before, recorded, after, hr⟩), rfl⟩

theorem EntryRecord.verify_eq_ok_iff {kind : String} {r : EntryRecord} {content : SignedContent} {signer : Signer}
    {artifact : Sha256Value} {u : Unit} (hone : content.HasOneSignature) :
    r.verify kind content signer artifact = .ok u ↔ r.Describes content signer artifact := by
  cases r <;> cases content
  case artifact.message => exact ArtifactRecord.verify_eq_ok_iff
  case envelope.envelope e => exact EnvelopeRecord.verify_eq_ok_iff (hone e rfl)
  case statement.envelope e => exact StatementRecord.verify_eq_ok_iff (hone e rfl)
  all_goals simp [verify, Describes]

/-- The body of an entry passes when it describes the content, the signer and the artifact. -/
theorem LogEntry.verifyBody_eq_ok_iff {e : LogEntry} {content : SignedContent} {signer : Signer} {artifact : Sha256Value}
    {u : Unit} (hone : content.HasOneSignature) :
    e.verifyBody content signer artifact = .ok u ↔ e.Describes content signer artifact := by
  unfold verifyBody EntryBody.verify
  simp only [bind_eq_ok, elim_eq_ok, mapError_eq_ok, require_eq_ok, EntryRecord.verify_eq_ok_iff hone, beq_iff_eq,
    Except.ok.injEq, Describes]
  constructor
  · rintro ⟨claimed, ⟨_, hk, rfl⟩, body, hb, -, hc, hd⟩
    exact ⟨_, body, hk, hb, hc, hd⟩
  · rintro ⟨claimed, body, hk, hb, hc, hd⟩
    exact ⟨claimed, ⟨claimed, hk, rfl⟩, body, hb, (), hc, hd⟩

end ArtifactTrust
