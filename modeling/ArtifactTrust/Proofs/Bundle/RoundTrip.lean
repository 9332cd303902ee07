import ArtifactTrust.Proofs.Bundle.Read
import ArtifactTrust.Proofs.Log.Body

/-!
# Bundles read back

Every bundle that is written as JSON is parsed to the same bundle, and so the text of a parsed bundle stays what it is however
often it is read and written (`Bundle.parse_render`). Records read back field by field. Two parts need an argument of their
own. The verification material keeps the member that tells of the signer until all others have been read, and for that reads all
of it first: what is written nests far less than the limit (`SignerSource.readAll_member`). The bundle writes its content under one
of two names, and finds nothing under the other.
-/

namespace ArtifactTrust

open Json Success

section Records

variable {p : Place}

theorem KindVersion.readsBack_codec : KindVersion.codec.ReadsBack p :=
  ((Fields.readsBack_required Codec.readsBack_text _).and (Fields.readsBack_required Codec.readsBack_text _)
    (by simp)).codec fun _ => rfl

theorem InclusionProof.readsBack_checkpointCodec : checkpointCodec.ReadsBack p :=
  (Fields.readsBack_withDefault Codec.readsBack_text _ _).codec fun _ => rfl

theorem InclusionProof.readsBack_codec : InclusionProof.codec.ReadsBack p :=
  ((Fields.readsBack_required Codec.readsBack_int64 _).and
    ((Fields.readsBack_required Codec.readsBack_sha256 _).and
      ((Fields.readsBack_required Codec.readsBack_int64 _).and
        ((Fields.readsBack_withDefault Codec.readsBack_sha256.list _ _).and
          (Fields.readsBack_withDefault readsBack_checkpointCodec _ _)
          (by simp)) (by simp)) (by simp)) (by simp)).codec fun _ => rfl

theorem LogEntry.readsBack_codec : LogEntry.codec.ReadsBack p :=
  ((Fields.readsBack_withDefault Codec.readsBack_int64 _ _).and
    ((Fields.readsBack_optional Codec.readsBack_octets.wrapped Fields.neverNull_codec _).and
      ((Fields.readsBack_optional KindVersion.readsBack_codec Fields.neverNull_codec _).and
        ((Fields.readsBack_withDefault Codec.readsBack_int64 _ _).and
          ((Fields.readsBack_optional Codec.readsBack_octets.wrapped Fields.neverNull_codec _).and
            ((Fields.readsBack_optional InclusionProof.readsBack_codec Fields.neverNull_codec _).and
              (Fields.readsBack_withDefault Codec.readsBack_octets _ _)
              (by simp)) (by simp)) (by simp)) (by simp)) (by simp)) (by simp)).codec fun _ => rfl

theorem MessageDigest.readsBack_codec : MessageDigest.codec.ReadsBack p :=
  ((Fields.readsBack_required Codec.readsBack_digestAlgorithm _).and (Fields.readsBack_required Codec.readsBack_sha256 _)
    (by simp)).codec fun _ => rfl

theorem MessageSignature.readsBack_codec : MessageSignature.codec.ReadsBack p :=
  ((Fields.readsBack_optional MessageDigest.readsBack_codec Fields.neverNull_codec _).and
    (Fields.readsBack_withDefault Codec.readsBack_octets _ _) (by simp)).codec fun _ => rfl

/-- A key hint that is not written is empty. -/
theorem EnvelopeSignature.readsBack_codec : EnvelopeSignature.codec.ReadsBack p := by
  refine ((Fields.readsBack_one EnvelopeSignature.keyId (fun s v hv => ?_) fun s hnone => ?_).and
    (Fields.readsBack_withDefault Codec.readsBack_octets _ _) (by simp)).codec fun _ => rfl
  · split at hv
    · cases hv
    · cases hv
      rfl
  · split at hnone
    case isTrue hempty => rw [hempty]
    case isFalse => cases hnone

theorem Envelope.readsBack_codec : Envelope.codec.ReadsBack p :=
  ((Fields.readsBack_required Codec.readsBack_text _).and
    ((Fields.readsBack_required Codec.readsBack_octets _).and
      (Fields.readsBack_withDefault EnvelopeSignature.readsBack_codec.list _ _)
      (by simp)) (by simp)).codec fun _ => rfl

theorem readsBack_certificateCodec : certificateCodec.ReadsBack p :=
  (Fields.readsBack_withDefault Codec.readsBack_octets _ _).codec fun _ => rfl

theorem SignerSource.readsBack_chainCodec : chainCodec.ReadsBack p :=
  (Fields.readsBack_withDefault readsBack_certificateCodec.list _ _).codec fun _ => rfl

theorem SignerSource.readsBack_hintCodec : hintCodec.ReadsBack p :=
  (Fields.readsBack_withDefault Codec.readsBack_text _ _).codec fun _ => rfl

end Records

/-! ## The verification material -/

/-- An object of one member is read whole if its value is. -/
theorem Json.Outline.readAll_object_single {depth : Nat} (h : depth + 1 < nestingLimit) (key : String) {v : Value}
    (hv : v.outline.readAll (depth + 1) = .ok ()) : (Value.object [(key, v)]).outline.readAll depth = .ok () := by
  rw [Value.outline, readAll, if_neg (by omega), Value.memberOutlines, Value.memberOutlines, readMembers, hv]
  rfl

namespace SignerSource

theorem readAll_certificate {depth : Nat} (h : depth + 1 < nestingLimit) (der : Bytes) :
    (certificateCodec.write der).outline.readAll depth = .ok () :=
  Outline.readAll_object_single h "rawBytes" rfl

/-- What is written of a signer can be read whole, wherever there is room for three more containers. -/
theorem readAll_member {depth : Nat} (h : depth + 3 < nestingLimit) (signer : SignerSource) :
    signer.member.2.outline.readAll depth = .ok () := by
  cases signer with
  | certificate der => exact readAll_certificate (by omega) der
  | chain ders =>
    refine Outline.readAll_object_single (by omega) "certificates" ?_
    show (if nestingLimit ≤ depth + 1 + 1 then _ else _) = _
    rw [if_neg (by omega), Codec.itemOutlines_eq_map, List.map_map]
    refine Outline.readItems_eq_ok_iff.mpr ⟨rfl, fun o ho => ?_⟩
    obtain ⟨der, -, rfl⟩ := List.mem_map.mp ho
    exact readAll_certificate (by omega) der
  | keyHint hint => exact Outline.readAll_object_single (by omega) "hint" rfl

/-- The member of a signer is recognized by its name, and reads back. -/
theorem ofMember?_member {p : Place} (signer : SignerSource) :
    ofMember? p signer.member.1 signer.member.2.outline = some (.ok signer) := by
  cases signer with
  | certificate der =>
    rw [member, ofMember?, if_pos rfl, readsBack_certificateCodec der]
    rfl
  | chain ders =>
    rw [member, ofMember?, if_neg (by simp), if_pos rfl, readsBack_chainCodec ders]
    rfl
  | keyHint hint =>
    rw [member, ofMember?, if_neg (by simp), if_neg (by simp), if_pos rfl, readsBack_hintCodec hint]
    rfl

theorem member_ne_entries (signer : SignerSource) : signer.member.1 ≠ "tlogEntries" := by
  cases signer <;> simp [member]

end SignerSource

/-- The material reads back wherever there is room for what is written of the signer. -/
theorem VerificationMaterial.readsBack_codec {p : Place} (h : p.depth + 4 < nestingLimit) : codec.ReadsBack p := by
  intro m
  have hentries : entriesCodec.read p.deeper (.array (Value.itemOutlines (m.entries.map LogEntry.codec.write)) none) =
      .ok (some m.entries) :=
    Codec.orNull_read_write LogEntry.readsBack_codec.list (fun _ h => nomatch h) m.entries
  have hroom : p.deeper.depth + 3 < nestingLimit := show p.depth + 1 + 3 < nestingLimit by omega
  have hsigner := SignerSource.readAll_member hroom m.signer
  have hfound := SignerSource.ofMember?_member (p := { p with buffered := true }) m.signer
  show read p (.object [(.string (.ok m.signer.member.1), m.signer.member.2.outline),
    (.string (.ok "tlogEntries"), .array (Value.itemOutlines (m.entries.map LogEntry.codec.write)) none)] none) = .ok m
  simp only [read, gather, Outline.memberName, bind, Except.bind, hsigner, hentries, if_neg m.signer.member_ne_entries]
  simp [closed, Except.map, pure, Except.pure, hfound]

/-! ## The bundle -/

namespace Bundle

/-- What the fields of a bundle find in an object whose members are all theirs. -/
theorem read_written {p : Place} {ms : List (String × Value)} {mediaType : String} {material : VerificationMaterial}
    {message : Option MessageSignature} {envelope : Option Envelope} (hnames : ∀ m ∈ ms, m.1 ∈ memberNames)
    (hfound : fields.Found p.deeper (Value.named ms) (mediaType, material, message, envelope)) :
    fields.read p (Value.object ms).outline = .ok (mediaType, material, message, envelope) := by
  rw [Value.outline, fields_eq_around, Fields.read_object_eq_ok_iff makes_around.knows, Value.memberOutlines_eq_map]
  refine ⟨rfl, _, rfl, hfound, fun m hm hother => ?_⟩
  obtain ⟨member, hmember, rfl⟩ := List.mem_map.mp hm
  exact absurd (hnames member hmember) hother

theorem fields_write (b : Bundle) : fields.write b =
    [("mediaType", .text b.mediaType), ("verificationMaterial", b.material.write)] := rfl

/-- A bundle is read from what is written of it, wherever there is room for the material. The cases are the kinds of content. -/
theorem readsBack_codec {p : Place} (h : p.depth + 5 < nestingLimit) : codec.ReadsBack p := by
  rintro ⟨mediaType, material, content⟩
  have hmaterial := VerificationMaterial.readsBack_codec (p := p.deeper) (show p.depth + 1 + 4 < nestingLimit by omega)
    material
  refine read_eq_ok_iff.mpr ?_
  cases content with
  | none => exact read_written (by simp [memberNames, fields_write]) ((makes_around.found _ _ _).mpr ⟨rfl, hmaterial, rfl, rfl⟩)
  | some content =>
    cases content with
    | message signature =>
      have hsignature := Codec.orNull_read_write (p := p.deeper) MessageSignature.readsBack_codec Fields.neverNull_codec signature
      exact read_written (by simp [memberNames, fields_write, SignedContent.member])
        ((makes_around.found _ _ _).mpr ⟨rfl, hmaterial, hsignature, rfl⟩)
    | envelope e =>
      have henvelope := Codec.orNull_read_write (p := p.deeper) Envelope.readsBack_codec Fields.neverNull_codec e
      exact read_written (by simp [memberNames, fields_write, SignedContent.member])
        ((makes_around.found _ _ _).mpr ⟨rfl, hmaterial, rfl, henvelope⟩)

/-- What is written of a bundle is parsed to the same bundle. So a text that is accepted at all has a text of its own to which
it is brought by reading and writing it once, and which stays what it is when it is read and written again. -/
theorem parse_render : (∀ b, parse (codec.render b) = .ok b) ∧
    ∀ text, ((parse text).bind fun b => parse (codec.render b)).map codec.render = (parse text).map codec.render := by
  have hparse : ∀ b, parse (codec.render b) = .ok b := (readsBack_codec (p := .top) (by decide)).parse_eq_ok
  refine ⟨hparse, fun text => ?_⟩
  cases parse text with
  | error cause => rfl
  | ok b => rw [Except.bind, hparse]

end Bundle

end ArtifactTrust
