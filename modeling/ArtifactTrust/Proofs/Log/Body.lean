import ArtifactTrust.Log.Body
import ArtifactTrust.Proofs.Bytes
import ArtifactTrust.Proofs.Json.Document
import ArtifactTrust.Proofs.Json.Record
import ArtifactTrust.Proofs.Json.RoundTrip

/-!
# What bodies are written as

The body of a log entry is a JSON document in UTF-8 with a record of a fixed form in it (`EntryBody.IsWrittenAs`). For each kind of
record the form says which members there are, which of them may be missing, and what stands in them. A body of a kind is read from
exactly the octets that are written so (`EntryBody.parse_eq_ok_iff_isWrittenAs`), and the text that it has of its own is one way to
write it (`EntryBody.isWrittenAs_render`).
-/

namespace ArtifactTrust

open Json Success Fields

/-! ## Forms -/

/-- An object around one value, which stands under its only name. -/
def Json.Outline.Wraps (o : Outline) (name : String) (inner : Outline → Prop) : Prop :=
  o.Complete [name] ∧ ∃ v, o.valuesFor name 0 = [v] ∧ inner v

/-- A digest: the name of the algorithm and the digits. -/
structure RecordedDigest.IsIn (d : RecordedDigest) (o : Outline) : Prop where
  complete : o.Complete ["algorithm", "value"]
  algorithm : o.valuesFor "algorithm" 0 = [.string (.ok d.algorithm)]
  value : o.valuesFor "value" 1 = [.string (.ok d.value)]

namespace RecordedSignature

/-- The signature of an artifact; the verifier has an object of its own. -/
structure IsInArtifact (s : RecordedSignature) (o : Outline) : Prop where
  complete : o.Complete ["content", "publicKey"]
  signature : o.valuesFor "content" 0 = [.string (.ok s.signature)]
  verifier : ∃ key, o.valuesFor "publicKey" 1 = [key] ∧ key.Wraps "content" fun v => v = .string (.ok s.verifier)

/-- A signature of an envelope that is known by its digests. -/
structure IsInEnvelope (s : RecordedSignature) (o : Outline) : Prop where
  complete : o.Complete ["signature", "verifier"]
  signature : o.valuesFor "signature" 0 = [.string (.ok s.signature)]
  verifier : o.valuesFor "verifier" 1 = [.string (.ok s.verifier)]

/-- A signature of an envelope in full. A verifier that is left out is empty. -/
structure IsInStatement (s : RecordedSignature) (o : Outline) : Prop where
  complete : o.Complete ["sig", "publicKey"]
  signature : o.valuesFor "sig" 0 = [.string (.ok s.signature)]
  verifier : (o.valuesFor "publicKey" 1 = [] ∧ s.verifier = "") ∨ o.valuesFor "publicKey" 1 = [.string (.ok s.verifier)]

end RecordedSignature

/-- The record of an artifact: its digest, in an object of its own, and its signature. -/
structure ArtifactRecord.IsIn (r : ArtifactRecord) (o : Outline) : Prop where
  complete : o.Complete ["data", "signature"]
  digest : ∃ data, o.valuesFor "data" 0 = [data] ∧ data.Wraps "hash" r.digest.IsIn
  signature : ∃ s, o.valuesFor "signature" 1 = [s] ∧ r.signature.IsInArtifact s

/-- The record of an envelope by its digests. The digest of the envelope may be missing, and the signatures may: then there are
none. -/
structure EnvelopeRecord.IsIn (r : EnvelopeRecord) (o : Outline) : Prop where
  complete : o.Complete ["envelopeHash", "payloadHash", "signatures"]
  envelopeDigest : ((o.valuesFor "envelopeHash" 0 = [] ∨ o.valuesFor "envelopeHash" 0 = [.null]) ∧ r.envelopeDigest = none) ∨
    ∃ v d, o.valuesFor "envelopeHash" 0 = [v] ∧ d.IsIn v ∧ r.envelopeDigest = some d
  payloadDigest : ∃ v, o.valuesFor "payloadHash" 1 = [v] ∧ r.payloadDigest.IsIn v
  signatures : (o.valuesFor "signatures" 2 = [] ∧ r.signatures = []) ∨
    ∃ items, o.valuesFor "signatures" 2 = [.array items none] ∧ List.Forall₂ (fun v s => s.IsInEnvelope v) items r.signatures

/-- The record of an envelope in full. A type that is left out is empty. -/
structure StatementRecord.IsInEnvelope (r : StatementRecord) (o : Outline) : Prop where
  complete : o.Complete ["payloadType", "payload", "signatures"]
  payloadType : (o.valuesFor "payloadType" 0 = [] ∧ r.payloadType = "") ∨
    o.valuesFor "payloadType" 0 = [.string (.ok r.payloadType)]
  payload : o.valuesFor "payload" 1 = [.string (.ok r.payload)]
  signatures : ∃ items, o.valuesFor "signatures" 2 = [.array items none] ∧
    List.Forall₂ (fun v s => s.IsInStatement v) items r.signatures

/-- A record, in the form of its kind. An envelope in full stands two objects deep. -/
def EntryRecord.IsIn (r : EntryRecord) (o : Outline) : Prop :=
  match r with
  | .artifact r => r.IsIn o
  | .envelope r => r.IsIn o
  | .statement r => o.Wraps "content" fun content => content.Wraps "envelope" r.IsInEnvelope

/-- A body: what it says of itself, and its record. -/
structure EntryBody.IsIn (b : EntryBody) (o : Outline) : Prop where
  complete : o.Complete ["apiVersion", "kind", "spec"]
  apiVersion : o.valuesFor "apiVersion" 0 = [.string (.ok b.apiVersion)]
  kind : o.valuesFor "kind" 1 = [.string (.ok b.kind)]
  record : ∃ v, o.valuesFor "spec" 2 = [v] ∧ b.record.IsIn v

/-- Octets are a JSON document in UTF-8 that holds a body. -/
def EntryBody.IsWrittenAs (b : EntryBody) (octets : Bytes) : Prop :=
  ∃ d : Document, octets = Bytes.ofText d.text ∧ b.IsIn d.inner.outline

/-! ## Reading -/

theorem Json.Codec.ReadsFrom.wrapped {α : Type} {c : Codec α} {has : Outline → α → Prop} (h : c.ReadsFrom has)
    (name : String) : (Codec.wrapped name c).ReadsFrom fun o a => o.Wraps name fun v => has v a := by
  intro p o a
  rw [Codec.wrapped, (makes_required h id).readsFrom_codec id p o a]
  simp [Outline.Wraps]

theorem RecordedDigest.readsFrom_codec : RecordedDigest.codec.ReadsFrom fun o d => d.IsIn o := by
  intro p o d
  rw [codec, ((makes_required Codec.readsFrom_text _).and (makes_required Codec.readsFrom_text _) (by simp)).readsFrom_codec]
  constructor
  · rintro ⟨hcomplete, ⟨_, _⟩, ⟨⟨_, halgorithm, rfl⟩, ⟨_, hvalue, rfl⟩⟩, rfl⟩
    exact ⟨hcomplete, halgorithm, hvalue⟩
  · rintro ⟨hcomplete, halgorithm, hvalue⟩
    exact ⟨hcomplete, (d.algorithm, d.value), ⟨⟨_, halgorithm, rfl⟩, ⟨_, hvalue, rfl⟩⟩, rfl⟩

namespace RecordedSignature

theorem readsFrom_ofArtifact : ofArtifact.ReadsFrom fun o s => s.IsInArtifact o := by
  intro p o s
  rw [ofArtifact, ((makes_required Codec.readsFrom_text _).and
    (makes_required (Codec.readsFrom_text.wrapped "content") _) (by simp)).readsFrom_codec]
  constructor
  · rintro ⟨hcomplete, ⟨_, _⟩, ⟨⟨_, hsignature, rfl⟩, hverifier⟩, rfl⟩
    exact ⟨hcomplete, hsignature, hverifier⟩
  · rintro ⟨hcomplete, hsignature, hverifier⟩
    exact ⟨hcomplete, (s.signature, s.verifier), ⟨⟨_, hsignature, rfl⟩, hverifier⟩, rfl⟩

theorem readsFrom_ofEnvelope : ofEnvelope.ReadsFrom fun o s => s.IsInEnvelope o := by
  intro p o s
  rw [ofEnvelope, ((makes_required Codec.readsFrom_text _).and (makes_required Codec.readsFrom_text _) (by simp)).readsFrom_codec]
  constructor
  · rintro ⟨hcomplete, ⟨_, _⟩, ⟨⟨_, hsignature, rfl⟩, ⟨_, hverifier, rfl⟩⟩, rfl⟩
    exact ⟨hcomplete, hsignature, hverifier⟩
  · rintro ⟨hcomplete, hsignature, hverifier⟩
    exact ⟨hcomplete, (s.signature, s.verifier), ⟨⟨_, hsignature, rfl⟩, ⟨_, hverifier, rfl⟩⟩, rfl⟩

theorem readsFrom_ofStatement : ofStatement.ReadsFrom fun o s => s.IsInStatement o := by
  intro p o s
  rw [ofStatement, ((makes_required Codec.readsFrom_text _).and
    (makes_withDefault Codec.readsFrom_text "" _) (by simp)).readsFrom_codec]
  constructor
  · rintro ⟨hcomplete, ⟨_, _⟩, ⟨⟨_, hsignature, rfl⟩, hverifier⟩, rfl⟩
    exact ⟨hcomplete, hsignature, hverifier.imp_right fun ⟨_, hv, hs⟩ => hs ▸ hv⟩
  · rintro ⟨hcomplete, hsignature, hverifier⟩
    exact ⟨hcomplete, (s.signature, s.verifier),
      ⟨⟨_, hsignature, rfl⟩, hverifier.imp_right fun hv => ⟨_, hv, rfl⟩⟩, rfl⟩

end RecordedSignature

theorem ArtifactRecord.readsFrom_codec : ArtifactRecord.codec.ReadsFrom fun o r => r.IsIn o := by
  intro p o r
  rw [codec, ((makes_required (RecordedDigest.readsFrom_codec.wrapped "hash") _).and
    (makes_required RecordedSignature.readsFrom_ofArtifact _) (by simp)).readsFrom_codec]
  constructor
  · rintro ⟨hcomplete, ⟨_, _⟩, ⟨hdigest, hsignature⟩, rfl⟩
    exact ⟨hcomplete, hdigest, hsignature⟩
  · rintro ⟨hcomplete, hdigest, hsignature⟩
    exact ⟨hcomplete, (r.digest, r.signature), ⟨hdigest, hsignature⟩, rfl⟩

theorem EnvelopeRecord.readsFrom_codec : EnvelopeRecord.codec.ReadsFrom fun o r => r.IsIn o := by
  intro p o r
  rw [codec, ((makes_optional RecordedDigest.readsFrom_codec (fun _ h => h.complete.elim) _).and
    ((makes_required RecordedDigest.readsFrom_codec _).and
      (makes_withDefault RecordedSignature.readsFrom_ofEnvelope.list [] _) (by simp)) (by simp)).readsFrom_codec]
  constructor
  · rintro ⟨hcomplete, ⟨_, _, _⟩, ⟨henvelope, hpayload, hsignatures⟩, rfl⟩
    refine ⟨hcomplete, henvelope, hpayload, hsignatures.imp_right ?_⟩
    rintro ⟨_, hv, items, rfl, hitems⟩
    exact ⟨items, hv, hitems⟩
  · rintro ⟨hcomplete, henvelope, hpayload, hsignatures⟩
    refine ⟨hcomplete, (r.envelopeDigest, r.payloadDigest, r.signatures), ⟨henvelope, hpayload, hsignatures.imp_right ?_⟩, rfl⟩
    rintro ⟨items, hv, hitems⟩
    exact ⟨_, hv, items, rfl, hitems⟩

namespace StatementRecord

theorem readsFrom_envelopeCodec : envelopeCodec.ReadsFrom fun o r => r.IsInEnvelope o := by
  intro p o r
  rw [envelopeCodec, ((makes_withDefault Codec.readsFrom_text "" _).and
    ((makes_required Codec.readsFrom_text _).and
      (makes_required RecordedSignature.readsFrom_ofStatement.list _) (by simp)) (by simp)).readsFrom_codec]
  constructor
  · rintro ⟨hcomplete, ⟨_, _, _⟩, ⟨htype, ⟨_, hpayload, rfl⟩, _, hv, items, rfl, hitems⟩, rfl⟩
    exact ⟨hcomplete, htype.imp_right fun ⟨_, hv, hs⟩ => hs ▸ hv, hpayload, items, hv, hitems⟩
  · rintro ⟨hcomplete, htype, hpayload, items, hv, hitems⟩
    exact ⟨hcomplete, (r.payloadType, r.payload, r.signatures),
      ⟨htype.imp_right fun hv => ⟨_, hv, rfl⟩, ⟨_, hpayload, rfl⟩, _, hv, items, rfl, hitems⟩, rfl⟩

theorem readsFrom_codec : codec.ReadsFrom fun o r => (EntryRecord.statement r).IsIn o :=
  (readsFrom_envelopeCodec.wrapped "envelope").wrapped "content"

end StatementRecord

/-- The kind and the version that entries with a kind of record go by. -/
def RecordKind.kindVersion : RecordKind → KindVersion
  | .artifact => ⟨"hashedrekord", "0.0.1"⟩
  | .envelope => ⟨"dsse", "0.0.1"⟩
  | .statement => ⟨"intoto", "0.0.2"⟩

theorem RecordKind.ofKindVersion?_eq_some_iff {kv : KindVersion} {k : RecordKind} :
    ofKindVersion? kv = some k ↔ kv = k.kindVersion := by
  constructor
  · intro h
    unfold ofKindVersion? at h
    split_ifs at h with hartifact henvelope hstatement
    · exact Option.some.inj h ▸ hartifact
    · exact Option.some.inj h ▸ henvelope
    · exact Option.some.inj h ▸ hstatement
  · rintro rfl
    cases k <;> decide

theorem RecordKind.kindVersion_injective {k k' : RecordKind} (h : k.kindVersion = k'.kindVersion) : k = k' :=
  Option.some.inj ((ofKindVersion?_eq_some_iff.mpr h).symm.trans (ofKindVersion?_eq_some_iff.mpr rfl)).symm

/-- A record of a kind is read from what holds one of this kind. -/
theorem RecordKind.read_eq_ok_iff {k : RecordKind} {p : Place} {o : Outline} {r : EntryRecord} :
    k.read p o = .ok r ↔ r.recordKind = k ∧ r.IsIn o := by
  have hartifact : ∀ a, ArtifactRecord.codec.read p o = .ok a ↔ (EntryRecord.artifact a).IsIn o :=
    ArtifactRecord.readsFrom_codec p o
  have henvelope : ∀ a, EnvelopeRecord.codec.read p o = .ok a ↔ (EntryRecord.envelope a).IsIn o :=
    EnvelopeRecord.readsFrom_codec p o
  have hstatement : ∀ a, StatementRecord.codec.read p o = .ok a ↔ (EntryRecord.statement a).IsIn o :=
    StatementRecord.readsFrom_codec p o
  -- A record of another kind than the one that is read is not found.
  cases k <;> cases r <;> simp [RecordKind.read, EntryRecord.recordKind, hartifact, henvelope, hstatement]

namespace EntryBody

theorem readsFrom_codec (k : RecordKind) : (codec k).ReadsFrom fun o b => b.record.recordKind = k ∧ b.IsIn o := by
  have hrecord : Codec.ReadsFrom ⟨k.read, EntryRecord.write⟩ fun o r => r.recordKind = k ∧ r.IsIn o :=
    fun _ _ _ => RecordKind.read_eq_ok_iff
  have hspec : (one "spec" k.read none fun b : EntryBody => some b.record.write).Makes ["spec"] _ :=
    makes_required hrecord EntryBody.record
  intro p o b
  rw [codec, ((makes_required Codec.readsFrom_text _).and ((makes_required Codec.readsFrom_text _).and hspec (by simp))
    (by simp)).readsFrom_codec]
  constructor
  · rintro ⟨hcomplete, ⟨_, _, _⟩, ⟨⟨_, hversion, rfl⟩, ⟨_, hkind, rfl⟩, v, hv, hk, hin⟩, rfl⟩
    exact ⟨hk, hcomplete, hversion, hkind, v, hv, hin⟩
  · rintro ⟨hk, hcomplete, hversion, hkind, v, hv, hin⟩
    exact ⟨hcomplete, (b.apiVersion, b.kind, b.record),
      ⟨⟨_, hversion, rfl⟩, ⟨_, hkind, rfl⟩, v, hv, hk, hin⟩, rfl⟩

/-- A body is a text of its kind. -/
theorem parse_eq_ok_iff {kv : KindVersion} {octets : Bytes} {b : EntryBody} :
    parse kv octets = .ok b ↔ ∃ k text, RecordKind.ofKindVersion? kv = some k ∧ Bytes.text? octets = some text ∧
      (codec k).parse text = .ok b := by
  unfold parse
  cases RecordKind.ofKindVersion? kv with
  | none => simp
  | some k => cases Bytes.text? octets <;> simp

/-- A body of a kind and version is read from the octets that it is written as. -/
theorem parse_eq_ok_iff_isWrittenAs {kv : KindVersion} {octets : Bytes} {b : EntryBody} :
    parse kv octets = .ok b ↔ RecordKind.ofKindVersion? kv = some b.record.recordKind ∧ b.IsWrittenAs octets := by
  have hends : ∀ k o b, (codec k).read .top o = .ok b → o.Ends := fun k o b hread =>
    ((readsFrom_codec k _ o b).mp hread).2.complete.ends
  rw [parse_eq_ok_iff]
  constructor
  · rintro ⟨k, text, hkind, htext, hparse⟩
    obtain ⟨d, rfl, hread⟩ := (Codec.parse_eq_ok_iff (hends k)).mp hparse
    obtain ⟨rfl, hin⟩ := (readsFrom_codec k _ _ b).mp hread
    exact ⟨hkind, d, Bytes.text?_eq_some_iff.mp htext, hin⟩
  · rintro ⟨hkind, d, hoctets, hin⟩
    have hread := (readsFrom_codec b.record.recordKind .top _ b).mpr ⟨rfl, hin⟩
    exact ⟨_, d.text, hkind, Bytes.text?_eq_some_iff.mpr hoctets, (Codec.parse_eq_ok_iff (hends _)).mpr ⟨d, rfl, hread⟩⟩

/-- Octets are a body of a kind in one way only. -/
theorem IsWrittenAs.unique {b b' : EntryBody} {octets : Bytes} (h : b.IsWrittenAs octets) (h' : b'.IsWrittenAs octets)
    (hkind : b.record.recordKind = b'.record.recordKind) : b = b' := by
  have hb := parse_eq_ok_iff_isWrittenAs.mpr ⟨RecordKind.ofKindVersion?_eq_some_iff.mpr rfl, h⟩
  have hb' := parse_eq_ok_iff_isWrittenAs.mpr ⟨RecordKind.ofKindVersion?_eq_some_iff.mpr rfl, h'⟩
  rw [← hkind] at hb'
  exact Except.ok.inj (hb.symm.trans hb')

end EntryBody

/-! ## Writing -/

section Written

variable {p : Place}

theorem Json.Codec.ReadsBack.wrapped {α : Type} {name : String} {c : Codec α} (h : c.ReadsBack p.deeper) :
    (Codec.wrapped name c).ReadsBack p :=
  (Fields.readsBack_required h id).codec fun _ => rfl

theorem RecordedDigest.readsBack_codec : RecordedDigest.codec.ReadsBack p :=
  ((readsBack_required Codec.readsBack_text _).and (readsBack_required Codec.readsBack_text _) (by simp)).codec fun _ => rfl

theorem ArtifactRecord.readsBack_codec : ArtifactRecord.codec.ReadsBack p := by
  have hsignature : RecordedSignature.ofArtifact.ReadsBack p.deeper :=
    ((readsBack_required Codec.readsBack_text _).and (readsBack_required Codec.readsBack_text.wrapped _) (by simp)).codec
      fun _ => rfl
  exact ((readsBack_required RecordedDigest.readsBack_codec.wrapped _).and (readsBack_required hsignature _) (by simp)).codec
    fun _ => rfl

theorem EnvelopeRecord.readsBack_codec : EnvelopeRecord.codec.ReadsBack p := by
  have hsignature : RecordedSignature.ofEnvelope.ReadsBack p.deeper.deeper :=
    ((readsBack_required Codec.readsBack_text _).and (readsBack_required Codec.readsBack_text _) (by simp)).codec fun _ => rfl
  exact ((readsBack_optional RecordedDigest.readsBack_codec neverNull_codec _).and
    ((readsBack_required RecordedDigest.readsBack_codec _).and
      (readsBack_withDefault hsignature.list _ _) (by simp)) (by simp)).codec fun _ => rfl

theorem StatementRecord.readsBack_envelopeCodec : envelopeCodec.ReadsBack p := by
  have hsignature : RecordedSignature.ofStatement.ReadsBack p.deeper.deeper :=
    ((readsBack_required Codec.readsBack_text _).and (readsBack_withDefault Codec.readsBack_text _ _) (by simp)).codec
      fun _ => rfl
  exact ((readsBack_withDefault Codec.readsBack_text _ _).and
    ((readsBack_required Codec.readsBack_text _).and (readsBack_required hsignature.list _) (by simp)) (by simp)).codec
    fun _ => rfl

/-- A record is read as one of its kind from what is written of it. -/
theorem EntryRecord.read_write (r : EntryRecord) : r.recordKind.read p r.write.outline = .ok r := by
  cases r with
  | artifact r => exact congrArg (Except.map artifact) (ArtifactRecord.readsBack_codec (p := p) r)
  | envelope r => exact congrArg (Except.map envelope) (EnvelopeRecord.readsBack_codec (p := p) r)
  | statement r => exact congrArg (Except.map statement) (StatementRecord.readsBack_envelopeCodec.wrapped.wrapped (p := p) r)

namespace EntryBody

theorem isIn_write (b : EntryBody) : b.IsIn ((codec b.record.recordKind).write b).outline where
  complete := ⟨rfl, [("apiVersion", .string (.ok b.apiVersion)), ("kind", .string (.ok b.kind)),
    ("spec", b.record.write.outline)], rfl, by simp⟩
  apiVersion := rfl
  kind := rfl
  record := ⟨_, rfl, (RecordKind.read_eq_ok_iff.mp (b.record.read_write (p := .top))).2⟩

/-- The text of a body is one that holds it. -/
theorem isWrittenAs_render (b : EntryBody) : b.IsWrittenAs (Bytes.ofText b.render) := by
  have hread := (readsFrom_codec b.record.recordKind .top _ b).mpr ⟨rfl, b.isIn_write⟩
  have hparse : (codec b.record.recordKind).parse b.render = .ok b := by
    simp only [Codec.parse, render, Codec.render, Outline.ofText_render, hread]
    rfl
  have hends : ∀ o a, (codec b.record.recordKind).read .top o = .ok a → o.Ends := fun o a hread =>
    ((readsFrom_codec _ _ o a).mp hread).2.complete.ends
  obtain ⟨d, htext, hread⟩ := (Codec.parse_eq_ok_iff hends).mp hparse
  exact ⟨d, congrArg Bytes.ofText htext.symm, ((readsFrom_codec _ _ _ b).mp hread).2⟩

end EntryBody

end Written

end ArtifactTrust
