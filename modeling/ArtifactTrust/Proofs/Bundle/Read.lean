import ArtifactTrust.Bundle.Basic
import ArtifactTrust.Proofs.Json.Record

/-!
# What a bundle is read from

A bundle is read from four parts, each found on its own under its name, or in its place where a bundle is written as an array
(`Bundle.around_read_eq_ok_iff`). The material among them is read in two ways at once: the entries come from the one member with
their name, and the signer from the first member that tells of one (`VerificationMaterial.read_eq_ok_iff`).
-/

namespace ArtifactTrust

open Json Success Fields

/-! ## The signer -/

namespace SignerSource

/-- The names of the members that tell of a signer. -/
def names : List String := ["certificate", "x509CertificateChain", "publicKey"]

theorem isSome_ofMember? {p : Place} {key : String} {o : Outline} : (ofMember? p key o).isSome = true ↔ key ∈ names := by
  unfold ofMember? names
  split
  · simp_all
  · split
    · simp_all
    · split <;> simp_all

/-- The signer that named members tell of: the first of them that tells of one decides. -/
def firstOf (p : Place) (named : List (String × Outline)) : Option (Except Cause SignerSource) :=
  named.findSome? fun m => ofMember? p m.1 m.2

/-- The members that tell of a signer. -/
def membersOf (named : List (String × Outline)) : List (String × Outline) := named.filter fun m => m.1 ∈ names

end SignerSource

/-! ## The material -/

namespace VerificationMaterial

/-- Whether a member is kept until all members have been seen. -/
def isKept (m : String × Outline) : Bool := m.1 ≠ "tlogEntries"

/-- The entries that there are in the end: those that were found before, or else those among the named values. -/
def EntriesFound (p : Place) (entries : Option (List LogEntry)) (named : List (String × Outline)) (es : List LogEntry) : Prop :=
  match entries with
  | some found => valuesUnder "tlogEntries" named = [] ∧ found = es
  | none => FoundAmong (fun o => (entriesCodec.read p o).map (·.getD [])) (some []) (valuesUnder "tlogEntries" named) es

theorem entriesFound_nil {p : Place} {entries : Option (List LogEntry)} {es : List LogEntry} :
    EntriesFound p entries [] es ↔ entries.getD [] = es := by
  cases entries <;> simp [EntriesFound, FoundAmong, eq_comm]

/-- The entries are found once. -/
theorem entriesFound_cons_self {p : Place} {entries : Option (List LogEntry)} {o : Outline} {named : List (String × Outline)}
    {es : List LogEntry} : EntriesFound p entries (("tlogEntries", o) :: named) es ↔
      entries = none ∧ ∃ found, entriesCodec.read p o = .ok found ∧ EntriesFound p (some (found.getD [])) named es := by
  unfold EntriesFound
  rw [valuesUnder_cons_self]
  cases entries with
  | some _ => exact ⟨fun h => (nomatch h.1), fun h => (nomatch h.1)⟩
  | none => cases valuesUnder "tlogEntries" named <;> simp [FoundAmong]

theorem entriesFound_cons_of_ne {p : Place} {entries : Option (List LogEntry)} {name : String} (h : name ≠ "tlogEntries")
    {o : Outline} {named : List (String × Outline)} {es : List LogEntry} :
    EntriesFound p entries ((name, o) :: named) es ↔ EntriesFound p entries named es := by
  unfold EntriesFound
  rw [valuesUnder_cons_of_ne h]

theorem gather_nil {p : Place} {ending : Option Cause} {entries : Option (List LogEntry)} {kept kept' : List (String × Outline)}
    {es : List LogEntry} : gather p ending entries kept [] = .ok (es, kept') ↔
      ending = none ∧ entries.getD [] = es ∧ kept.reverse = kept' := by
  rw [gather, map_eq_ok, exists_unit_eq_ok, closed_eq_ok_iff, Prod.mk.injEq]

theorem gather_entries {p : Place} {ending : Option Cause} {entries : Option (List LogEntry)} {kept : List (String × Outline)}
    {o : Outline} {members : List (Outline × Outline)} {r : List LogEntry × List (String × Outline)} :
    gather p ending entries kept (Outline.member ("tlogEntries", o) :: members) = .ok r ↔ entries = none ∧
      ∃ found, entriesCodec.read p o = .ok found ∧ gather p ending (some (found.getD [])) kept members = .ok r := by
  have hstep : gather p ending entries kept (Outline.member ("tlogEntries", o) :: members) =
      if entries.isSome then .error .mismatch
      else (entriesCodec.read p o).bind fun found => gather p ending (some (found.getD [])) kept members := rfl
  rw [hstep]
  cases entries with
  | some found => exact ⟨(nomatch ·), (nomatch ·.1)⟩
  | none => exact bind_eq_ok.trans (and_iff_right rfl).symm

theorem gather_other {p : Place} {ending : Option Cause} {entries : Option (List LogEntry)} {kept : List (String × Outline)}
    {name : String} (hname : name ≠ "tlogEntries") {o : Outline} {members : List (Outline × Outline)}
    {r : List LogEntry × List (String × Outline)} :
    gather p ending entries kept (Outline.member (name, o) :: members) = .ok r ↔ o.readAll p.depth = .ok () ∧
      gather p ending entries ((name, o) :: kept) members = .ok r := by
  rw [Outline.member, gather, Outline.memberName]
  simp only [bind, Except.bind, if_neg hname]
  exact bind_eq_ok.trans exists_unit_eq_ok

/-- What is gathered from members: the entries, and every other member, which can be read whole. -/
theorem gather_eq_ok_iff {p : Place} {ending : Option Cause} {entries : Option (List LogEntry)}
    {kept kept' : List (String × Outline)} {members : List (Outline × Outline)} {es : List LogEntry} :
    gather p ending entries kept members = .ok (es, kept') ↔ ending = none ∧ ∃ named, members = named.map Outline.member ∧
      EntriesFound p entries named es ∧ kept' = kept.reverse ++ named.filter isKept ∧
        ∀ m ∈ named, m.1 ≠ "tlogEntries" → m.2.readAll p.depth = .ok () := by
  constructor
  · intro h
    induction members generalizing entries kept with
    | nil =>
      obtain ⟨hending, hes, rfl⟩ := gather_nil.mp h
      exact ⟨hending, [], rfl, entriesFound_nil.mpr hes, (List.append_nil _).symm, fun m hm => nomatch hm⟩
    | cons m members ih =>
      obtain ⟨key, o⟩ := m
      obtain ⟨name, hname, -⟩ := bind_eq_ok.mp h
      obtain rfl := Outline.memberName_eq_ok_iff.mp hname
      by_cases hentries : name = "tlogEntries"
      · subst hentries
        obtain ⟨rfl, found, hread, h⟩ := gather_entries.mp h
        obtain ⟨hending, named, rfl, hfound, hkept, hall⟩ := ih h
        exact ⟨hending, ("tlogEntries", o) :: named, rfl, entriesFound_cons_self.mpr ⟨rfl, found, hread, hfound⟩, hkept,
          List.forall_mem_cons.mpr ⟨fun h => absurd rfl h, hall⟩⟩
      · obtain ⟨hwhole, h⟩ := (gather_other hentries).mp h
        obtain ⟨hending, named, rfl, hfound, hkept, hall⟩ := ih h
        refine ⟨hending, (name, o) :: named, rfl, (entriesFound_cons_of_ne hentries).mpr hfound, ?_,
          List.forall_mem_cons.mpr ⟨fun _ => hwhole, hall⟩⟩
        rw [List.filter_cons_of_pos (by simpa [isKept] using hentries), hkept, List.reverse_cons, List.append_assoc]
        rfl
  · rintro ⟨rfl, named, rfl, hfound, rfl, hall⟩
    induction named generalizing entries kept with
    | nil => exact gather_nil.mpr ⟨rfl, entriesFound_nil.mp hfound, (List.append_nil _).symm⟩
    | cons m named ih =>
      obtain ⟨name, o⟩ := m
      obtain ⟨hwhole, hrest⟩ := List.forall_mem_cons.mp hall
      rw [List.map_cons]
      by_cases hentries : name = "tlogEntries"
      · subst hentries
        obtain ⟨rfl, found, hread, hfound⟩ := entriesFound_cons_self.mp hfound
        exact gather_entries.mpr ⟨rfl, found, hread, ih hfound hrest⟩
      · refine (gather_other hentries).mpr ⟨hwhole hentries, ?_⟩
        rw [ih ((entriesFound_cons_of_ne hentries).mp hfound) hrest,
          List.filter_cons_of_pos (by simpa [isKept] using hentries), List.reverse_cons, List.append_assoc]
        rfl

/-- The entries tell of no signer. -/
theorem firstOf_filter (p : Place) (named : List (String × Outline)) :
    SignerSource.firstOf p (named.filter isKept) = SignerSource.firstOf p named := by
  induction named with
  | nil => rfl
  | cons m named ih =>
    unfold SignerSource.firstOf at ih ⊢
    by_cases hkept : isKept m = true
    · rw [List.filter_cons_of_pos hkept, List.findSome?_cons, List.findSome?_cons, ih]
    · have hentries : m.1 = "tlogEntries" := by simpa [isKept] using hkept
      have hnone : SignerSource.ofMember? p m.1 m.2 = none := by
        rw [← Option.not_isSome_iff_eq_none, SignerSource.isSome_ofMember?, hentries]
        simp [SignerSource.names]
      rw [List.filter_cons_of_neg hkept, List.findSome?_cons, hnone, ih]

/-- Where the signer of the material is read. -/
def signerPlace (p : Place) : Place := { p with buffered := true }

/-- The entries of the material, whoever signed. -/
def entriesAlone : Codec (List LogEntry) where
  read p o := match o with
    | .object members ending => (gather p.deeper ending none [] members).map Prod.fst
    | o => wrongKind o
  write es := .object [("tlogEntries", .array (es.map LogEntry.codec.write))]

theorem entriesAlone_read_object_eq_ok_iff {p : Place} {ending : Option Cause} {members : List (Outline × Outline)}
    {es : List LogEntry} : entriesAlone.read p (.object members ending) = .ok es ↔ ending = none ∧
      ∃ named, members = named.map Outline.member ∧
        FoundAmong (fun o => (entriesCodec.read p.deeper o).map (·.getD [])) (some []) (valuesUnder "tlogEntries" named) es ∧
          ∀ m ∈ named, m.1 ≠ "tlogEntries" → m.2.readAll p.deeper.depth = .ok () := by
  unfold entriesAlone
  rw [map_eq_ok]
  constructor
  · rintro ⟨⟨_, kept⟩, hgather, rfl⟩
    obtain ⟨hending, named, hmembers, hentries, -, hwhole⟩ := gather_eq_ok_iff.mp hgather
    exact ⟨hending, named, hmembers, hentries, hwhole⟩
  · rintro ⟨hending, named, hmembers, hentries, hwhole⟩
    exact ⟨(es, _), gather_eq_ok_iff.mpr ⟨hending, named, hmembers, hentries, rfl, hwhole⟩, rfl⟩

/-- The material is read if its entries are and the first member that tells of a signer does. -/
theorem read_eq_ok_iff {p : Place} {o : Outline} {material : VerificationMaterial} : read p o = .ok material ↔
    entriesAlone.read p o = .ok material.entries ∧
      SignerSource.firstOf (signerPlace p) o.named = some (.ok material.signer) := by
  cases o with
  | object members ending =>
    rw [read, bind_eq_ok, entriesAlone_read_object_eq_ok_iff]
    constructor
    · rintro ⟨⟨entries, kept⟩, hgather, hsigner⟩
      obtain ⟨hending, named, rfl, hentries, rfl, hwhole⟩ := gather_eq_ok_iff.mp hgather
      dsimp only at hsigner
      split at hsigner
      case h_1 signer hfirst =>
        obtain ⟨signer, rfl, hmaterial⟩ := bind_eq_ok.mp hsigner
        obtain rfl := Except.ok.inj hmaterial
        rw [Outline.named_member]
        exact ⟨⟨hending, named, rfl, hentries, hwhole⟩, (firstOf_filter _ named).symm.trans hfirst⟩
      case h_2 => cases hsigner
    · rintro ⟨⟨hending, named, rfl, hentries, hwhole⟩, hfirst⟩
      rw [Outline.named_member] at hfirst
      refine ⟨(material.entries, named.filter isKept), gather_eq_ok_iff.mpr ⟨hending, named, rfl, hentries, rfl, hwhole⟩, ?_⟩
      have hfirst : (named.filter isKept).findSome? (fun m => SignerSource.ofMember? { p with buffered := true } m.1 m.2) =
          some (.ok material.signer) := (firstOf_filter _ named).trans hfirst
      simp only [hfirst]
      rfl
  | _ => simp only [read, entriesAlone, Codec.wrongKind_ne_ok, false_and]

end VerificationMaterial

/-! ## The bundle -/

namespace Bundle

/-- The names of the members that a bundle is read from. -/
def memberNames : List String := ["mediaType", "verificationMaterial", "messageSignature", "dsseEnvelope"]

/-- What a bundle is read from, with a way to read the material. -/
def around {α : Type} (c : Codec α) (get : Bundle → α) :
    Fields Bundle (String × α × Option MessageSignature × Option Envelope) :=
  (Fields.withDefault "mediaType" .text BundleVersion.v01.mediaType (·.mediaType)).and
    ((Fields.required "verificationMaterial" c get).and
      ((Fields.one "messageSignature" MessageSignature.codec.orNull.read (some none) fun _ => none).and
        (Fields.one "dsseEnvelope" Envelope.codec.orNull.read (some none) fun _ => none)))

/-- The signature of a bundle over the artifact itself. -/
def message? (b : Bundle) : Option MessageSignature :=
  match b.content with
  | some (.message signature) => some signature
  | _ => none

/-- The envelope of a bundle. -/
def envelope? (b : Bundle) : Option Envelope :=
  match b.content with
  | some (.envelope e) => some e
  | _ => none

theorem fields_eq_around : fields = around VerificationMaterial.codec (·.material) := rfl

section Around

variable {α : Type} {c : Codec α} {get : Bundle → α} {p : Place} {mediaType : String} {material : α}
  {message : Option MessageSignature} {envelope : Option Envelope}

/-- Each of the four parts is made of what it is given. -/
theorem makes_around : (around c get).Makes memberNames fun p given parts =>
    FoundAmong (Codec.text.read p) (some BundleVersion.v01.mediaType) (given "mediaType" 0) parts.1 ∧
      FoundAmong (c.read p) none (given "verificationMaterial" 1) parts.2.1 ∧
        FoundAmong (MessageSignature.codec.orNull.read p) (some none) (given "messageSignature" 2) parts.2.2.1 ∧
          FoundAmong (Envelope.codec.orNull.read p) (some none) (given "dsseEnvelope" 3) parts.2.2.2 :=
  makes_one.and (makes_one.and (makes_one.and makes_one (by simp)) (by simp)) (by simp)

/-- A bundle is read from its four parts. -/
theorem around_read_eq_ok_iff {o : Outline} :
    (around c get).read p o = .ok (mediaType, material, message, envelope) ↔ o.Complete memberNames ∧
      FoundAmong (Codec.text.read p.deeper) (some BundleVersion.v01.mediaType) (o.valuesFor "mediaType" 0) mediaType ∧
        FoundAmong (c.read p.deeper) none (o.valuesFor "verificationMaterial" 1) material ∧
          FoundAmong (MessageSignature.codec.orNull.read p.deeper) (some none) (o.valuesFor "messageSignature" 2) message ∧
            FoundAmong (Envelope.codec.orNull.read p.deeper) (some none) (o.valuesFor "dsseEnvelope" 3) envelope :=
  makes_around.read_eq_ok_iff

end Around

/-- The content of a bundle is what its parts say, and they do not both say something. -/
theorem read_eq_ok_iff {p : Place} {o : Outline} {b : Bundle} : read p o = .ok b ↔
    fields.read p o = .ok (b.mediaType, b.material, b.message?, b.envelope?) := by
  rw [read, bind_eq_ok]
  constructor
  · rintro ⟨⟨mediaType, material, message, envelope⟩, hfields, hb⟩
    cases message <;> cases envelope <;> cases hb <;> exact hfields
  · intro hfields
    refine ⟨_, hfields, ?_⟩
    obtain ⟨mediaType, material, content⟩ := b
    rcases content with _ | _ | _ <;> rfl

end Bundle

end ArtifactTrust
