import ArtifactTrust.Proofs.Verify.Acceptance
import ArtifactTrust.Proofs.Verify.Subject

/-!
# Bodies and what they vouch for

The body of an entry has to be written as its kind asks, call itself what the entry calls it, and record what the bundle carries.
For an artifact, and for an envelope by its digests, this is the signature of the bundle and the signer of the bundle
(`LogEntry.verifyBody_exact`). For an envelope in full it is the payload and the signature, among others that may be recorded with
it: who the signer is makes no difference, and neither does the type of the payload (`LogEntry.verifyBody_statement`).
-/

namespace ArtifactTrust

open Success

variable {e : LogEntry} {b : EntryBody} {content : SignedContent} {signer : Signer} {artifact : Sha256Value}

/-- A recorded digest is a SHA-256 digest. The case of letters does not matter. -/
structure RecordedDigest.Is (recorded : RecordedDigest) (digest : Sha256Value) : Prop where
  algorithm : Ascii.sameIgnoringCase recorded.algorithm "sha256" = true
  value : Ascii.sameIgnoringCase recorded.value digest.hex = true

theorem RecordedDigest.isOf_iff {recorded : RecordedDigest} {digest : Sha256Value} :
    recorded.isOf digest = true ↔ recorded.Is digest := by
  rw [isOf, Bool.and_eq_true]
  constructor
  · intro h
    exact ⟨h.1, h.2⟩
  · intro h
    exact ⟨h.algorithm, h.value⟩

/-- A recorded signature is a given one, and is recorded with the certificate or the key of the signer. -/
structure RecordedSignature.Is (recorded : RecordedSignature) (signature : Bytes) (signer : Signer) : Prop where
  signature : Base64.decode? recorded.signature = some signature
  signer : signer.NamedIn recorded.verifier

theorem Envelope.hasOneSignature {env : Envelope} {s : EnvelopeSignature} (hone : env.signatures = [s]) :
    (SignedContent.envelope env).HasOneSignature := by
  intro env' h
  cases h
  exact ⟨s, hone⟩

/-- An entry describes what it does by a body that is written in it and is of the kind that both claim. -/
theorem LogEntry.describes_iff_isWrittenAs : e.Describes content signer artifact ↔
    ∃ b : EntryBody, b.IsWrittenAs e.body ∧ e.kindVersion = some b.kindVersion ∧
      b.kindVersion = b.record.recordKind.kindVersion ∧ b.record.Describes content signer artifact := by
  simp only [Describes, EntryBody.parse_eq_ok_iff_isWrittenAs, RecordKind.ofKindVersion?_eq_some_iff]
  constructor
  · rintro ⟨_, b, hclaimed, ⟨hkind, hwritten⟩, rfl, hd⟩
    exact ⟨b, hwritten, hclaimed, hkind, hd⟩
  · rintro ⟨b, hwritten, hclaimed, hkind, hd⟩
    exact ⟨_, b, hclaimed, ⟨hkind, hwritten⟩, rfl, hd⟩

/-! ## Records with the signer -/

namespace EntryBody

/-- A body records the signature over an artifact, and by whom it is. -/
structure RecordsMessage (b : EntryBody) (s : MessageSignature) (signer : Signer) (artifact : Sha256Value) : Prop where
  kind : b.kindVersion = ⟨"hashedrekord", "0.0.1"⟩
  record : ∃ r, b.record = .artifact r ∧ r.digest.Is artifact ∧ r.signature.Is s.signature signer

/-- A body records the only signature of an envelope, and nothing but this one, and by whom it is. -/
structure RecordsEnvelope (b : EntryBody) (env : Envelope) (signer : Signer) : Prop where
  kind : b.kindVersion = ⟨"dsse", "0.0.1"⟩
  record : ∃ r recorded s, b.record = .envelope r ∧ r.payloadDigest.Is (Digest.sha256Value env.payload) ∧
    r.signatures = [recorded] ∧ env.signatures = [s] ∧ recorded.Is s.signature signer

/-- A body records a content of either form. -/
def Records (b : EntryBody) (content : SignedContent) (signer : Signer) (artifact : Sha256Value) : Prop :=
  match content with
  | .message s => b.RecordsMessage s signer artifact
  | .envelope env => b.RecordsEnvelope env signer

theorem recordsMessage_iff {s : MessageSignature} : b.RecordsMessage s signer artifact ↔
    b.kindVersion = b.record.recordKind.kindVersion ∧ b.record.Describes (.message s) signer artifact := by
  constructor
  · rintro ⟨hkind, r, hr, hdigest, hsignature, hsigner⟩
    rw [hr]
    exact ⟨hkind, RecordedDigest.isOf_iff.mpr hdigest, hsignature, hsigner⟩
  · rintro ⟨hkind, hd⟩
    cases hr : b.record with
    | artifact r =>
      rw [hr] at hkind hd
      exact ⟨hkind, r, hr, RecordedDigest.isOf_iff.mp hd.digest, hd.signature, hd.signer⟩
    | envelope r =>
      rw [hr] at hd
      exact hd.elim
    | statement r =>
      rw [hr] at hd
      exact hd.elim

/-- A record of an envelope in full describes the envelope as well, but goes by another kind. -/
theorem recordsEnvelope_iff {env : Envelope} (hkind : b.kindVersion ≠ ⟨"intoto", "0.0.2"⟩) :
    b.RecordsEnvelope env signer ↔
      b.kindVersion = b.record.recordKind.kindVersion ∧ b.record.Describes (.envelope env) signer artifact := by
  constructor
  · rintro ⟨hkind, r, recorded, s, hr, hdigest, hone, hs, hsignature, hsigner⟩
    rw [hr]
    exact ⟨hkind, RecordedDigest.isOf_iff.mpr hdigest, s, recorded, hs, hone, hsignature, hsigner⟩
  · rintro ⟨hclaimed, hd⟩
    cases hr : b.record with
    | artifact r =>
      rw [hr] at hd
      exact hd.elim
    | envelope r =>
      rw [hr] at hclaimed hd
      obtain ⟨s, recorded, hs, hone, hsignature, hsigner⟩ := hd.signature
      exact ⟨hclaimed, r, recorded, s, hr, RecordedDigest.isOf_iff.mp hd.payload, hone, hs, hsignature, hsigner⟩
    | statement r =>
      rw [hr] at hclaimed
      exact absurd hclaimed hkind

theorem records_iff (hkind : b.kindVersion ≠ ⟨"intoto", "0.0.2"⟩) : b.Records content signer artifact ↔
    b.kindVersion = b.record.recordKind.kindVersion ∧ b.record.Describes content signer artifact := by
  cases content with
  | message s => exact recordsMessage_iff
  | envelope env => exact recordsEnvelope_iff hkind

end EntryBody

/-- An entry with a record of an artifact, or of an envelope by its digests, passes exactly if a body is written in it that goes by
the same kind and records the content, the signer and the artifact. -/
theorem LogEntry.verifyBody_exact (hone : content.HasOneSignature)
    (hkind : e.kindVersion = some ⟨"hashedrekord", "0.0.1"⟩ ∨ e.kindVersion = some ⟨"dsse", "0.0.1"⟩) :
    e.verifyBody content signer artifact = .ok () ↔
      ∃ b : EntryBody, b.IsWrittenAs e.body ∧ e.kindVersion = some b.kindVersion ∧ b.Records content signer artifact := by
  have hother : ∀ b : EntryBody, e.kindVersion = some b.kindVersion → b.kindVersion ≠ ⟨"intoto", "0.0.2"⟩ := by
    intro b hclaimed hintoto
    rw [hclaimed, hintoto] at hkind
    revert hkind
    decide
  rw [verifyBody_eq_ok_iff hone, describes_iff_isWrittenAs]
  constructor
  · rintro ⟨b, hwritten, hclaimed, hd⟩
    exact ⟨b, hwritten, hclaimed, (EntryBody.records_iff (hother b hclaimed)).mpr hd⟩
  · rintro ⟨b, hwritten, hclaimed, hrecords⟩
    exact ⟨b, hwritten, hclaimed, (EntryBody.records_iff (hother b hclaimed)).mp hrecords⟩

/-- The body that records an envelope by its digest, and one verifier for its signatures. -/
def EntryBody.ofEnvelope (env : Envelope) (verifier : String) : EntryBody :=
  ⟨"0.0.1", "dsse", .envelope ⟨none, ⟨"sha256", (Digest.sha256Value env.payload).hex⟩,
    env.signatures.map fun s => ⟨Base64.encode s.signature, verifier⟩⟩⟩

theorem EntryBody.recordsEnvelope_ofEnvelope {env : Envelope} {s : EnvelopeSignature} {verifier : String}
    (hone : env.signatures = [s]) (hsigner : signer.NamedIn verifier) :
    (ofEnvelope env verifier).RecordsEnvelope env signer where
  kind := rfl
  record := by
    have hdigest : RecordedDigest.Is ⟨"sha256", (Digest.sha256Value env.payload).hex⟩ (Digest.sha256Value env.payload) :=
      ⟨beq_self_eq_true _, beq_self_eq_true _⟩
    refine ⟨_, ⟨Base64.encode s.signature, verifier⟩, s, rfl, hdigest, ?_, hone, Base64.decode?_encode _, hsigner⟩
    rw [hone]
    rfl

/-- An entry with a body. It claims of itself what the body does. -/
def LogEntry.recording (b : EntryBody) : LogEntry :=
  { Verifier.sampleEntry with kindVersion := some b.kindVersion, body := Bytes.ofText b.render }

theorem LogEntry.isWrittenAs_recording (b : EntryBody) : b.IsWrittenAs (recording b).body := b.isWrittenAs_render

/-- The body of the sample entry describes the artifact and its signature. One with the digest of the statement, and the key of the
sample signer, describes the envelope of the statement. -/
theorem LogEntry.verifyBody_exact_samples :
    (∃ b : EntryBody, b.IsWrittenAs Verifier.sampleEntry.body ∧ Verifier.sampleEntry.kindVersion = some b.kindVersion ∧
      b.Records (.message ⟨none, Verifier.p256Signature⟩) (.certificate Verifier.signerCertificate [])
        (Digest.sha256Value Verifier.sampleArtifact)) ∧
    (recording (.ofEnvelope listingEnvelope Verifier.sampleRecord.signature.verifier)).verifyBody
      (.envelope listingEnvelope) (.certificate Verifier.signerCertificate [])
      (Digest.sha256Value Verifier.sampleArtifact) = .ok () := by
  have hmessage : (SignedContent.message ⟨none, Verifier.p256Signature⟩).HasOneSignature := fun _ h => nomatch h
  have henvelope : (SignedContent.envelope listingEnvelope).HasOneSignature := Envelope.hasOneSignature rfl
  constructor
  · exact (verifyBody_exact hmessage (Or.inl rfl)).mp ((verifyBody_eq_ok_iff hmessage).mpr Verifier.describes_sampleEntry)
  · have hrecords : (EntryBody.ofEnvelope listingEnvelope _).RecordsEnvelope listingEnvelope _ :=
      EntryBody.recordsEnvelope_ofEnvelope rfl Verifier.describes_sampleRecord.signer
    exact (verifyBody_exact henvelope (Or.inr rfl)).mpr ⟨_, isWrittenAs_recording _, rfl, hrecords⟩

/-! ## Records in full -/

/-- A body records the payload of an envelope, and behind signatures that can be read the one of the envelope. -/
structure EntryBody.RecordsStatement (b : EntryBody) (env : Envelope) (s : EnvelopeSignature) : Prop where
  kind : b.kindVersion = ⟨"intoto", "0.0.2"⟩
  record : ∃ r before recorded after, b.record = .statement r ∧ Base64.decode? r.payload = some env.payload ∧
    r.signatures = before ++ recorded :: after ∧ (∀ other ∈ before, ∃ octets, Base64.decode? other.signature = some octets) ∧
    Base64.decode? recorded.signature = some s.signature

/-- Under the kind of records in full there is nothing else. -/
theorem EntryRecord.exists_statement {r : EntryRecord} (h : RecordKind.statement.kindVersion = r.recordKind.kindVersion) :
    ∃ record, r = .statement record := by
  have hkind := RecordKind.kindVersion_injective h
  cases r with
  | statement record => exact ⟨record, rfl⟩
  | artifact record => cases hkind
  | envelope record => cases hkind

theorem EntryBody.recordsStatement_iff {env : Envelope} {s : EnvelopeSignature} (hone : env.signatures = [s])
    (hkind : b.kindVersion = ⟨"intoto", "0.0.2"⟩) : b.RecordsStatement env s ↔
      b.kindVersion = b.record.recordKind.kindVersion ∧ b.record.Describes (.envelope env) signer artifact := by
  constructor
  · rintro ⟨hkind, r, before, recorded, after, hr, hpayload, hsplit, hbefore, hsignature⟩
    rw [hr]
    exact ⟨hkind, hpayload, s, before, recorded, after, hone, hsplit, hbefore, hsignature⟩
  · rintro ⟨hrecord, hd⟩
    obtain ⟨r, hr⟩ := EntryRecord.exists_statement (hkind.symm.trans hrecord)
    rw [hr] at hd
    obtain ⟨hpayload, s', before, recorded, after, hs', hsplit, hbefore, hsignature⟩ := hd
    obtain rfl : s = s' := List.singleton_inj.mp (hone.symm.trans hs')
    exact ⟨hkind, r, before, recorded, after, hr, hpayload, hsplit, hbefore, hsignature⟩

namespace LogEntry

/-- The body is read as the entry claims, and what is read is compared. -/
theorem verifyBody_eq {kv : KindVersion} (hkind : e.kindVersion = some kv) :
    e.verifyBody content signer artifact = (((EntryBody.parse kv e.body).mapError BodyFault.unreadable).bind fun b =>
      b.verify kv content signer artifact).mapError fun fault => .rejected (.body fault) := by
  unfold verifyBody
  rw [hkind]
  rfl

/-- With a record of an envelope in full, nothing of a bundle counts but the payload and the signatures. -/
theorem verifyBody_congr (hkind : e.kindVersion = some ⟨"intoto", "0.0.2"⟩) {env env' : Envelope}
    (hpayload : env.payload = env'.payload) (hsignatures : env.signatures = env'.signatures) (signer signer' : Signer)
    (artifact artifact' : Sha256Value) :
    e.verifyBody (.envelope env) signer artifact = e.verifyBody (.envelope env') signer' artifact' := by
  rw [verifyBody_eq hkind, verifyBody_eq hkind]
  cases hparse : EntryBody.parse ⟨"intoto", "0.0.2"⟩ e.body with
  | error fault => rfl
  | ok b =>
    obtain ⟨r, hr⟩ := EntryRecord.exists_statement
      (RecordKind.ofKindVersion?_eq_some_iff.mp (EntryBody.parse_eq_ok_iff_isWrittenAs.mp hparse).1)
    have hverify : b.record.verify b.kind (.envelope env) signer artifact =
        b.record.verify b.kind (.envelope env') signer' artifact' := by
      rw [hr]
      simp only [EntryRecord.verify, StatementRecord.verify, hpayload, hsignatures]
    simp only [Except.mapError, Except.bind, EntryBody.verify, hverify]

theorem verifyBody_eq_ok_iff_recordsStatement {env : Envelope} {s : EnvelopeSignature}
    (hkind : e.kindVersion = some ⟨"intoto", "0.0.2"⟩) (hone : env.signatures = [s]) :
    e.verifyBody (.envelope env) signer artifact = .ok () ↔
      ∃ b : EntryBody, b.IsWrittenAs e.body ∧ b.RecordsStatement env s := by
  rw [verifyBody_eq_ok_iff (Envelope.hasOneSignature hone), describes_iff_isWrittenAs]
  constructor
  · rintro ⟨b, hwritten, hclaimed, hd⟩
    have hb : b.kindVersion = ⟨"intoto", "0.0.2"⟩ := Option.some.inj (hclaimed.symm.trans hkind)
    exact ⟨b, hwritten, (EntryBody.recordsStatement_iff hone hb).mpr hd⟩
  · rintro ⟨b, hwritten, hrecords⟩
    exact ⟨b, hwritten, hrecords.kind ▸ hkind, (EntryBody.recordsStatement_iff hone hrecords.kind).mp hrecords⟩

/-- An entry with a record of an envelope in full passes exactly if a body is written in it that records the payload and the
signature. The signer, the artifact and the type of the payload make no difference. -/
theorem verifyBody_statement {env : Envelope} {s : EnvelopeSignature}
    (hkind : e.kindVersion = some ⟨"intoto", "0.0.2"⟩) (hone : env.signatures = [s]) :
    (e.verifyBody (.envelope env) signer artifact = .ok () ↔
      ∃ b : EntryBody, b.IsWrittenAs e.body ∧ b.RecordsStatement env s) ∧
    ∀ signer' artifact' payloadType, e.verifyBody (.envelope { env with payloadType := payloadType }) signer' artifact' =
      e.verifyBody (.envelope env) signer artifact := by
  refine ⟨verifyBody_eq_ok_iff_recordsStatement hkind hone, fun signer' artifact' payloadType => ?_⟩
  apply verifyBody_congr hkind
  · rfl
  · rfl

end LogEntry

/-- The body that records an envelope in full, and one verifier for its signatures. -/
def EntryBody.ofStatement (env : Envelope) (verifier : String) : EntryBody :=
  ⟨"0.0.2", "intoto", .statement ⟨env.payloadType, Base64.encode env.payload,
    env.signatures.map fun s => ⟨Base64.encode s.signature, verifier⟩⟩⟩

/-- Whatever the verifier is, the body records the envelope. -/
theorem EntryBody.recordsStatement_ofStatement {env : Envelope} {s : EnvelopeSignature} (hone : env.signatures = [s])
    (verifier : String) : (ofStatement env verifier).RecordsStatement env s where
  kind := rfl
  record := by
    refine ⟨_, [], ⟨Base64.encode s.signature, verifier⟩, [], rfl, Base64.decode?_encode _, ?_, by simp, Base64.decode?_encode _⟩
    rw [hone]
    rfl

/-- The P-384 key in PEM, and that in base64. -/
def Verifier.p384Verifier : String :=
  "LS0tLS1CRUdJTiBQVUJMSUMgS0VZLS0tLS0KTUhZd0VBWUhLb1pJemowQ0FRWUZLNEVFQUNJRFlnQUVNQk9xQUMxY3BtMitWaVpUQVZiNkNmU0g3SkFXVlAxegpieEFJazBsckdsRUgxdVFMNm1KYm14aW9uUGI5enpNNFFmcWxQbFd3NXM0b1ZLc2hxL1NvbUM2dnYrbTRWL1pyClBLSGJGY1ZibG1LMEh1TDd3bk5UVElZZWIwZGxXSVh6Ci0tLS0tRU5EIFBVQkxJQyBLRVktLS0tLQo="

set_option maxRecDepth 100000 in
/-- It names the P-384 key and not the P-256 key. -/
theorem Verifier.namedIn_p384Verifier :
    (Signer.key p384Key).NamedIn p384Verifier ∧ ¬(Signer.key p256Key).NamedIn p384Verifier := by
  have hchars : p384Verifier.toList = _ := String.toList_ofList
  have hnames : ((Base64.decode? p384Verifier).map fun pem =>
      ((Signer.key p384Key).isNamedBy pem, (Signer.key p256Key).isNamedBy pem)) = some (true, false) := by
    rw [Base64.decode?, hchars]
    decide +kernel
  obtain ⟨pem, hpem, hnames⟩ := Option.map_eq_some_iff.mp hnames
  obtain ⟨hnamed, hother⟩ := Prod.mk.inj hnames
  simp only [Signer.namedIn_iff, hpem, Option.some.injEq, exists_eq_left', hnamed, hother]
  decide

/-- The envelope with the statement, which the P-256 key has signed, recorded in full as if the P-384 key had. -/
def LogEntry.misattributed : LogEntry := recording (.ofStatement listingEnvelope Verifier.p384Verifier)

theorem LogEntry.verifyBody_statement_misattributed :
    misattributed.kindVersion = some ⟨"intoto", "0.0.2"⟩ ∧ (∃ s, listingEnvelope.signatures = [s]) ∧
      ∀ signer artifact, misattributed.verifyBody (.envelope listingEnvelope) signer artifact = .ok () := by
  obtain ⟨s, hs⟩ : ∃ s, listingEnvelope.signatures = [s] := ⟨_, rfl⟩
  refine ⟨rfl, ⟨s, hs⟩, fun signer artifact => ?_⟩
  have hrecords := EntryBody.recordsStatement_ofStatement hs Verifier.p384Verifier
  exact (verifyBody_statement rfl hs).1.mpr ⟨_, isWrittenAs_recording _, hrecords⟩

/-- An entry passes although the only key that it records is not the signer's. Everything else in it is as in the bundle. -/
theorem LogEntry.other_signer_accepted :
    ¬ ∀ (e : LogEntry) (env : Envelope) (s : EnvelopeSignature) (signer : Signer) (artifact : Sha256Value),
      e.kindVersion = some ⟨"intoto", "0.0.2"⟩ → env.signatures = [s] →
      e.verifyBody (.envelope env) signer artifact = .ok () →
      ∃ (b : EntryBody) (r : StatementRecord), b.IsWrittenAs e.body ∧ b.record = .statement r ∧
        Base64.decode? r.payload = some env.payload ∧ r.payloadType = env.payloadType ∧
        (∀ octets, (∃ recorded ∈ r.signatures, Base64.decode? recorded.signature = some octets) ↔ octets = s.signature) ∧
        ∃ recorded ∈ r.signatures, Base64.decode? recorded.signature = some s.signature ∧
          signer.NamedIn recorded.verifier := by
  intro h
  obtain ⟨s, hs⟩ : ∃ s, listingEnvelope.signatures = [s] := ⟨_, rfl⟩
  have hrecords := EntryBody.recordsStatement_ofStatement hs Verifier.p384Verifier
  have hverify : misattributed.verifyBody (.envelope listingEnvelope) (.key Verifier.p256Key)
      (Digest.sha256Value Verifier.sampleArtifact) = .ok () :=
    (verifyBody_eq_ok_iff_recordsStatement rfl hs).mpr ⟨_, isWrittenAs_recording _, hrecords⟩
  obtain ⟨b, r, hwritten, hr, -, -, -, recorded, hrecorded, -, hnamed⟩ := h misattributed _ s _ _ rfl hs hverify
  -- The body that is written in the entry is the one that it was made of.
  have hb : b = .ofStatement listingEnvelope Verifier.p384Verifier :=
    hwritten.unique (isWrittenAs_recording _) (by rw [hr]; rfl)
  rw [hb] at hr
  obtain rfl := EntryRecord.statement.inj hr
  obtain ⟨_, -, rfl⟩ := List.mem_map.mp hrecorded
  exact Verifier.namedIn_p384Verifier.2 hnamed

end ArtifactTrust
