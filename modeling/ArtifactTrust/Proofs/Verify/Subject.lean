import ArtifactTrust.Proofs.Verify.Artifact

/-!
# Subjects of statements

An envelope with a statement binds to the subjects that the statement lists (`Envelope.verify_statement`), and so does a bundle
of such an envelope (`Verifier.lists_of_verify`). A statement that lists no subjects binds to nothing: an envelope with one
verifies for every artifact.
-/

namespace ArtifactTrust

open Success

/-- An artifact is listed in a statement: its SHA-256 digest is that of a subject, ignoring case. -/
def Statement.Lists (s : Statement) (artifact : Sha256Value) : Prop :=
  ∃ subject ∈ s.subjects, ∃ value, subject.digest? "sha256" = some value ∧ Ascii.sameIgnoringCase value artifact.hex = true

theorem Statement.isAbout_iff {s : Statement} {artifact : Sha256Value} :
    s.IsAbout artifact ↔ s.subjects = [] ∨ s.Lists artifact := Iff.rfl

variable {e : Envelope} {key : PublicKey} {artifact : Sha256Value} {u : Unit}

/-- Under a key that an envelope with a statement verifies with, it verifies for what the statement is about. -/
theorem Envelope.verify_other_iff {s : Statement} (h : e.verify key artifact = .ok u) (hs : Statement.parse e.payload = .ok s)
    (htype : e.payloadType = statementType) (other : Sha256Value) : e.verify key other = .ok () ↔ s.IsAbout other := by
  rw [verify_eq_ok_iff]
  constructor
  · intro hother
    obtain ⟨s', hs', habout⟩ := hother.subject htype
    rw [hs, Except.ok.injEq] at hs'
    rwa [hs']
  · intro habout
    exact ⟨(verify_eq_ok_iff.mp h).signature, fun _ => ⟨s, hs, habout⟩⟩

/-- An envelope with a statement that verifies for an artifact does so for exactly the artifacts that the statement lists, if
it lists any subjects, and otherwise for all artifacts. -/
theorem Envelope.verify_statement (h : e.verify key artifact = .ok u) (htype : e.payloadType = statementType) :
    ∃ s, Statement.parse e.payload = .ok s ∧
      (s.subjects ≠ [] → s.Lists artifact ∧ ∀ other, e.verify key other = .ok () ↔ s.Lists other) ∧
      (s.subjects = [] → ∀ other, e.verify key other = .ok ()) := by
  obtain ⟨s, hs, habout⟩ := (verify_eq_ok_iff.mp h).subject htype
  refine ⟨s, hs, fun hne => ?_, fun hnone other => ?_⟩
  · have hlists : ∀ other, s.IsAbout other ↔ s.Lists other := fun _ => Statement.isAbout_iff.trans (or_iff_right hne)
    exact ⟨(hlists artifact).mp habout, fun other => (verify_other_iff h hs htype other).trans (hlists other)⟩
  · exact (verify_other_iff h hs htype other).mpr (Or.inl hnone)

/-- An envelope with a statement and one signature. -/
def Envelope.ofStatement (statement : String) (signature : Bytes) : Envelope :=
  ⟨statementType, Bytes.ofText statement, [⟨"", signature⟩]⟩

/-- The P-256 key has signed a statement whose only subject is the sample artifact. -/
def listingEnvelope : Envelope :=
  .ofStatement
    ("\x7b\"subject\":[\x7b\"digest\":\x7b\"sha256\":\"" ++ (Digest.sha256Value Verifier.sampleArtifact).hex ++
      "\"\x7d\x7d]\x7d")
    (Bytes.ofNat 48 0x304402201f5178ce2829433b83fd10ff1d97504abe237018ca320313fc17aed4a3e256f602203126ff69d54cbf3e1241 ++
      Bytes.ofNat 22 0xa8165dbac7634ffa5ee4a43de55f1350d6d2c9d39a0a)

theorem verify_statement_listing :
    listingEnvelope.verify Verifier.p256Key (Digest.sha256Value Verifier.sampleArtifact) = .ok () ∧
      listingEnvelope.payloadType = Envelope.statementType ∧
      ∃ s, Statement.parse listingEnvelope.payload = .ok s ∧
        (s.subjects ≠ [] → s.Lists (Digest.sha256Value Verifier.sampleArtifact) ∧
          ∀ other, listingEnvelope.verify Verifier.p256Key other = .ok () ↔ s.Lists other) ∧
        (s.subjects = [] → ∀ other, listingEnvelope.verify Verifier.p256Key other = .ok ()) := by
  have hverify : listingEnvelope.verify Verifier.p256Key (Digest.sha256Value Verifier.sampleArtifact) = .ok () :=
    toOption_eq_some.mp (by decide +kernel)
  exact ⟨hverify, rfl, Envelope.verify_statement hverify rfl⟩

/-- The P-256 key has signed a statement with an empty list of subjects. -/
def emptyEnvelope : Envelope :=
  .ofStatement "\x7b\"subject\":[]\x7d"
    (Bytes.ofNat 48 0x3044022003b163f70c355463a1e7befbe3cce8bfc49d4b8e45da209515ebe300472c59f902202bcfd22a23f6fd382ac8 ++
      Bytes.ofNat 22 0xfa8445d1f906296c13a7048acd65aa7b2f3497303905)

/-- Its envelope verifies for the sample artifact, which it does not list. -/
theorem unlisted_artifact_accepted :
    ¬ ∀ (e : Envelope) (key : PublicKey) (artifact : Sha256Value), e.payloadType = Envelope.statementType →
      e.verify key artifact = .ok () → ∃ s, Statement.parse e.payload = .ok s ∧ s.Lists artifact := by
  intro h
  have hverify : emptyEnvelope.verify Verifier.p256Key (Digest.sha256Value Verifier.sampleArtifact) = .ok () :=
    toOption_eq_some.mp (by decide +kernel)
  have hparse : Statement.parse emptyEnvelope.payload = .ok ⟨[]⟩ := toOption_eq_some.mp (by decide +kernel)
  obtain ⟨s, hs, subject, hsubject, -⟩ := h emptyEnvelope Verifier.p256Key _ rfl hverify
  rw [hparse, Except.ok.injEq] at hs
  rw [← hs] at hsubject
  cases hsubject

namespace Verifier

/-- A bundle of an envelope with a statement is accepted only for an artifact that the statement lists, or with a statement that
lists no subjects. -/
theorem lists_of_verify {v : Verifier} {a : Artifact} {b : Bundle} {p : Policy} {r : Verified} (h : v.verify a b p = .ok r)
    (hc : b.content = some (.envelope e)) (htype : e.payloadType = Envelope.statementType) :
    ∃ s, Statement.parse e.payload = .ok s ∧ (s.subjects = [] ∨ s.Lists a.sha256) := by
  rw [verify_eq_examine, bind_eq_ok] at h
  obtain ⟨⟨content, signer, found⟩, hfound, h⟩ := h
  simp only [bind_eq_ok, SignedContent.verify_eq_ok_iff] at h
  obtain ⟨-, hsigned, -⟩ := h
  rw [(examine_eq_ok hfound).1, Option.some.injEq] at hc
  subst hc
  exact hsigned.subject htype

end Verifier

end ArtifactTrust
