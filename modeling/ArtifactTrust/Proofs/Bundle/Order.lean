import ArtifactTrust.Proofs.Bundle.Read
import ArtifactTrust.Proofs.Json.Order

/-!
# The order of members in a bundle

The parts of a bundle are read alike in every order, with one exception: of several members of the material that tell of a signer,
the first one counts. So a document in another order holds the same bundle but for the signer, and the same bundle if its material
names one signer (`Bundle.parse_reordered`). A material that names two is not refused, and then the order decides who signed
(`Bundle.order_decides_signer`).
-/

namespace ArtifactTrust

open Json Success Fields Relation

/-! ## Records -/

theorem Json.Codec.OrderFree.wrapped {α : Type} {name : String} {c : Codec α} (h : c.OrderFree) :
    (Codec.wrapped name c).OrderFree :=
  (orderFree_required h id).codec _

theorem KindVersion.orderFree_codec : KindVersion.codec.OrderFree :=
  ((orderFree_required Codec.orderFree_text _).and (orderFree_required Codec.orderFree_text _) (by simp)).codec _

theorem InclusionProof.orderFree_codec : InclusionProof.codec.OrderFree :=
  ((orderFree_required Codec.orderFree_int64 _).and
    ((orderFree_required Codec.orderFree_ofText _).and
      ((orderFree_required Codec.orderFree_int64 _).and
        ((orderFree_withDefault (Codec.OrderFree.list Codec.orderFree_ofText) _ _).and
          (orderFree_withDefault ((orderFree_withDefault Codec.orderFree_text _ _).codec _) _ _)
          (by simp)) (by simp)) (by simp)) (by simp)).codec _

theorem LogEntry.orderFree_codec : LogEntry.codec.OrderFree :=
  ((orderFree_withDefault Codec.orderFree_int64 _ _).and
    ((orderFree_optional (Codec.OrderFree.wrapped Codec.orderFree_ofText) _).and
      ((orderFree_optional KindVersion.orderFree_codec _).and
        ((orderFree_withDefault Codec.orderFree_int64 _ _).and
          ((orderFree_optional (Codec.OrderFree.wrapped Codec.orderFree_ofText) _).and
            ((orderFree_optional InclusionProof.orderFree_codec _).and
              (orderFree_withDefault Codec.orderFree_ofText _ _)
              (by simp)) (by simp)) (by simp)) (by simp)) (by simp)) (by simp)).codec _

theorem MessageDigest.orderFree_codec : MessageDigest.codec.OrderFree :=
  ((orderFree_required Codec.orderFree_oneOf _).and (orderFree_required Codec.orderFree_ofText _) (by simp)).codec _

theorem MessageSignature.orderFree_codec : MessageSignature.codec.OrderFree :=
  ((orderFree_optional MessageDigest.orderFree_codec _).and (orderFree_withDefault Codec.orderFree_ofText _ _)
    (by simp)).codec _

theorem EnvelopeSignature.orderFree_codec : EnvelopeSignature.codec.OrderFree :=
  ((orderFree_one Codec.orderFree_text).and (orderFree_withDefault Codec.orderFree_ofText _ _) (by simp)).codec _

theorem Envelope.orderFree_codec : Envelope.codec.OrderFree :=
  ((orderFree_required Codec.orderFree_text _).and
    ((orderFree_required Codec.orderFree_ofText _).and
      (orderFree_withDefault (Codec.OrderFree.list EnvelopeSignature.orderFree_codec) _ _)
      (by simp)) (by simp)).codec _

theorem orderFree_certificateCodec : certificateCodec.OrderFree :=
  (orderFree_withDefault Codec.orderFree_ofText _ _).codec _

theorem SignerSource.orderFree_chainCodec : chainCodec.OrderFree :=
  (orderFree_withDefault (Codec.OrderFree.list orderFree_certificateCodec) _ _).codec _

theorem SignerSource.orderFree_hintCodec : hintCodec.OrderFree :=
  (orderFree_withDefault Codec.orderFree_text _ _).codec _

/-! ## The signer -/

namespace SignerSource

/-- A member tells of the same signer in every order. -/
theorem ofMember?_permuted {p : Place} {key : String} {o o' : Outline} {signer : SignerSource} (ho : o.Permuted o')
    (h : ofMember? p key o = some (.ok signer)) : ofMember? p key o' = some (.ok signer) := by
  unfold ofMember? at h ⊢
  split at h
  case isTrue hkey =>
    obtain ⟨der, hread, rfl⟩ := map_eq_ok.mp (Option.some.inj h)
    rw [if_pos hkey, orderFree_certificateCodec ho hread]
    rfl
  case isFalse hcertificate =>
    rw [if_neg hcertificate]
    split at h
    case isTrue hkey =>
      obtain ⟨ders, hread, rfl⟩ := map_eq_ok.mp (Option.some.inj h)
      rw [if_pos hkey, orderFree_chainCodec ho hread]
      rfl
    case isFalse hchain =>
      rw [if_neg hchain]
      split at h
      case isTrue hkey =>
        obtain ⟨hint, hread, rfl⟩ := map_eq_ok.mp (Option.some.inj h)
        rw [if_pos hkey, orderFree_hintCodec ho hread]
        rfl
      case isFalse => cases h

/-- Where one member tells of a signer, the order of the members does not matter. -/
theorem firstOf_perm {p : Place} {named named' : List (String × Outline)} (hone : (membersOf named).length ≤ 1)
    (h : named.Perm named') : firstOf p named = firstOf p named' := by
  have hlength : (named.filterMap fun m => ofMember? p m.1 m.2).length ≤ 1 := by
    rw [List.length_filterMap_eq_countP]
    rw [membersOf, ← List.countP_eq_length_filter] at hone
    refine Nat.le_trans (Nat.le_of_eq (List.countP_congr fun m _ => ?_)) hone
    rw [isSome_ofMember?, decide_eq_true_eq]
  have hperm := h.filterMap fun m => ofMember? p m.1 m.2
  rw [firstOf, firstOf, ← List.head?_filterMap, ← List.head?_filterMap]
  generalize named.filterMap (fun m => ofMember? p m.1 m.2) = found at hlength hperm
  match found with
  | [] => rw [List.nil_perm.mp hperm]
  | [signer] => rw [← List.singleton_perm.mp hperm]
  | _ :: _ :: _ => simp at hlength

theorem membersOf_perm {named named' : List (String × Outline)} (h : named.Perm named') :
    (membersOf named).Perm (membersOf named') := h.filter _

theorem length_membersOf_near {named named' : List (String × Outline)} (h : List.Forall₂ Outline.NamedNear named named') :
    (membersOf named).length = (membersOf named').length := by
  have hnames : named.map Prod.fst = named'.map Prod.fst := by
    rw [← List.forall₂_eq_eq_eq, List.forall₂_map_left_iff, List.forall₂_map_right_iff]
    exact h.imp fun _ _ hm => hm.1
  have hlength : ∀ named : List (String × Outline), (membersOf named).length = (named.map Prod.fst).countP (· ∈ names) := by
    intro named
    rw [membersOf, ← List.countP_eq_length_filter, List.countP_map]
    rfl
  rw [hlength, hlength, hnames]

/-- The order within the members does not matter. -/
theorem firstOf_near {p : Place} {named named' : List (String × Outline)} {signer : SignerSource}
    (h : List.Forall₂ Outline.NamedNear named named') (hfirst : firstOf p named = some (.ok signer)) :
    firstOf p named' = some (.ok signer) := by
  induction h with
  | nil => exact hfirst
  | @cons m n named named' hm _ ih =>
    obtain ⟨key, o⟩ := m
    obtain ⟨key', o'⟩ := n
    obtain ⟨rfl, ho⟩ := hm
    rw [firstOf, List.findSome?_cons] at hfirst ⊢
    by_cases hkey : key ∈ names
    · obtain ⟨found, hfound⟩ := Option.isSome_iff_exists.mp ((isSome_ofMember? (p := p) (o := o)).mpr hkey)
      simp only [hfound] at hfirst
      cases hfirst
      cases ho with
      | refl => simp only [hfound]
      | single ho => simp only [ofMember?_permuted ho hfound]
    · have hnone : ∀ o, ofMember? p key o = none := fun o =>
        Option.not_isSome_iff_eq_none.mp fun h => hkey (isSome_ofMember?.mp h)
      simp only [hnone] at hfirst ⊢
      exact ih hfirst

end SignerSource

/-! ## The material -/

namespace VerificationMaterial

/-- The entries of a material are read alike in every order, whoever signed. -/
theorem orderFree_entriesAlone : entriesAlone.OrderFree := by
  intro p o o' es ho hread
  cases o with
  | object members ending =>
    obtain ⟨rfl, named, rfl, hentries, hwhole⟩ := entriesAlone_read_object_eq_ok_iff.mp hread
    obtain ⟨named', rfl, hnamed⟩ := ho.exists_named
    have hwhole := Outline.forall_named hnamed (P := fun name o => name ≠ "tlogEntries" → o.readAll p.deeper.depth = .ok ())
      (fun _ _ _ ho hwhole hname => ho.readAll (hwhole hname)) hwhole
    refine entriesAlone_read_object_eq_ok_iff.mpr ⟨rfl, named', rfl, ?_, hwhole⟩
    rcases hnamed with hperm | hnear
    · exact hentries.perm (Outline.valuesUnder_perm hperm _)
    · refine hentries.near (Outline.valuesUnder_near hnear _) fun o _ o' ho hread => ?_
      obtain ⟨found, hfound, hes⟩ := map_eq_ok.mp hread
      exact map_eq_ok.mpr ⟨found, LogEntry.orderFree_codec.list.orNull ho hfound, hes⟩
  | array => cases hread
  | _ => cases ho

/-- A material that names one signer names the same one in another order. -/
theorem firstOf_permuted {p q : Place} {o o' : Outline} {es : List LogEntry} {signer : SignerSource}
    (hread : entriesAlone.read p o = .ok es) (ho : o.Permuted o') (hone : (SignerSource.membersOf o.named).length ≤ 1)
    (hfirst : SignerSource.firstOf q o.named = some (.ok signer)) :
    (SignerSource.membersOf o'.named).length ≤ 1 ∧ SignerSource.firstOf q o'.named = some (.ok signer) := by
  cases o with
  | object members ending =>
    obtain ⟨rfl, named, rfl, -⟩ := entriesAlone_read_object_eq_ok_iff.mp hread
    obtain ⟨named', rfl, hnamed⟩ := ho.exists_named
    rw [Outline.named_member] at hone hfirst ⊢
    rcases hnamed with hperm | hnear
    · rw [← SignerSource.firstOf_perm hone hperm, ← (SignerSource.membersOf_perm hperm).length_eq]
      exact ⟨hone, hfirst⟩
    · rw [← SignerSource.length_membersOf_near hnear]
      exact ⟨hone, SignerSource.firstOf_near hnear hfirst⟩
  | array => cases hread
  | _ => cases ho

end VerificationMaterial

/-! ## The bundle -/

namespace Bundle

/-- The bundle with another signer. -/
def withSigner (b : Bundle) (signer : SignerSource) : Bundle := { b with material := { b.material with signer := signer } }

/-- The signer that an outline tells of, by the first member of the material that tells of one. -/
def TellsSigner (p : Place) (o : Outline) (signer : SignerSource) : Prop :=
  ∃ material ∈ o.valuesFor "verificationMaterial" 1,
    SignerSource.firstOf (VerificationMaterial.signerPlace p.deeper) material.named = some (.ok signer)

/-- The material names at most one signer. -/
def NamesOneSigner (o : Outline) : Prop :=
  ∀ material ∈ o.valuesFor "verificationMaterial" 1, (SignerSource.membersOf material.named).length ≤ 1

/-- Both kinds of content are there, and neither is `null`. -/
def NamesBothContents (o : Outline) : Prop :=
  (∃ message ∈ o.valuesFor "messageSignature" 2, message ≠ .null) ∧ ∃ envelope ∈ o.valuesFor "dsseEnvelope" 3, envelope ≠ .null

/-- What a bundle is read from but for the signer. -/
def partsAlone : Fields Bundle (String × List LogEntry × Option MessageSignature × Option Envelope) :=
  around VerificationMaterial.entriesAlone (·.entries)

theorem orderFree_partsAlone : partsAlone.OrderFree memberNames :=
  (orderFree_withDefault Codec.orderFree_text _ _).and
    ((orderFree_required VerificationMaterial.orderFree_entriesAlone _).and
      ((orderFree_one MessageSignature.orderFree_codec.orNull).and (orderFree_one Envelope.orderFree_codec.orNull)
        (by simp)) (by simp)) (by simp)

theorem foundAmong_material {p : Place} {os : List Outline} {material : VerificationMaterial} :
    FoundAmong (VerificationMaterial.codec.read p) none os material ↔
      FoundAmong (VerificationMaterial.entriesAlone.read p) none os material.entries ∧
        ∃ o ∈ os, SignerSource.firstOf (VerificationMaterial.signerPlace p) o.named = some (.ok material.signer) := by
  match os with
  | [] => simp [FoundAmong]
  | [o] => simp [FoundAmong, VerificationMaterial.codec, VerificationMaterial.read_eq_ok_iff]
  | _ :: _ :: _ => simp [FoundAmong]

/-- A bundle is read if its parts are, but for the signer, and its signer is told. -/
theorem read_eq_ok_iff_partsAlone {p : Place} {o : Outline} {b : Bundle} : read p o = .ok b ↔
    partsAlone.read p o = .ok (b.mediaType, b.entries, b.message?, b.envelope?) ∧ TellsSigner p o b.material.signer := by
  rw [read_eq_ok_iff, fields_eq_around, partsAlone, around_read_eq_ok_iff, around_read_eq_ok_iff, foundAmong_material]
  constructor
  · rintro ⟨hcomplete, hmediaType, ⟨hentries, hsigner⟩, hcontent⟩
    exact ⟨⟨hcomplete, hmediaType, hentries, hcontent⟩, hsigner⟩
  · rintro ⟨⟨hcomplete, hmediaType, hentries, hcontent⟩, hsigner⟩
    exact ⟨hcomplete, hmediaType, ⟨hentries, hsigner⟩, hcontent⟩

/-- A bundle with both kinds of content is not read. -/
theorem not_namesBothContents {p : Place} {o : Outline} {b : Bundle} (hread : read p o = .ok b) : ¬ NamesBothContents o := by
  rintro ⟨⟨message, hmessage, hmessageNull⟩, envelope, henvelope, henvelopeNull⟩
  rw [read_eq_ok_iff, fields_eq_around, around_read_eq_ok_iff] at hread
  obtain ⟨-, -, -, hfirst, hsecond⟩ := hread
  have hmessage := hfirst.isSome_of_ne_null hmessage hmessageNull
  have henvelope := hsecond.isSome_of_ne_null henvelope henvelopeNull
  obtain ⟨mediaType, material, content⟩ := b
  rcases content with _ | _ | _ <;> cases hmessage
  cases henvelope

/-! ## Other orders -/

/-- Everything but the signer is read alike in any other order. -/
theorem partsAlone_read_reordered {p : Place} {o o' : Outline}
    {parts : String × List LogEntry × Option MessageSignature × Option Envelope} (h : ReflTransGen Outline.Permuted o o')
    (hread : partsAlone.read p o = .ok parts) : partsAlone.read p o' = .ok parts := by
  induction h with
  | refl => exact hread
  | tail _ ho ih => exact orderFree_partsAlone.read ho ih

/-- In another order the bundle is the same but for its signer, which is the one told of first. -/
theorem read_reordered_iff {p : Place} {o o' : Outline} {b b' : Bundle} (hread : read p o = .ok b)
    (h : ReflTransGen Outline.Permuted o o') :
    read p o' = .ok b' ↔ TellsSigner p o' b'.material.signer ∧ b' = b.withSigner b'.material.signer := by
  have hparts := partsAlone_read_reordered h (read_eq_ok_iff_partsAlone.mp hread).1
  have hwith : ∀ {signer}, TellsSigner p o' signer → read p o' = .ok (b.withSigner signer) := fun hsigner =>
    read_eq_ok_iff_partsAlone.mpr ⟨hparts, hsigner⟩
  constructor
  · intro hread'
    have hsigner := (read_eq_ok_iff_partsAlone.mp hread').2
    exact ⟨hsigner, Except.ok.inj (hread'.symm.trans (hwith hsigner))⟩
  · rintro ⟨hsigner, hb⟩
    rw [hb]
    exact hwith hsigner

/-- A bundle that names one signer names the same one in another order. -/
theorem tellsSigner_permuted {p : Place} {o o' : Outline} {signer : SignerSource}
    {parts : String × List LogEntry × Option MessageSignature × Option Envelope} (hread : partsAlone.read p o = .ok parts)
    (ho : o.Permuted o') (hone : NamesOneSigner o) (hsigner : TellsSigner p o signer) :
    NamesOneSigner o' ∧ TellsSigner p o' signer := by
  obtain ⟨mediaType, es, message, envelope⟩ := parts
  rw [partsAlone, around_read_eq_ok_iff] at hread
  obtain ⟨hcomplete, -, hmaterial, -⟩ := hread
  have hvalues := ho.valuesFor hcomplete "verificationMaterial" 1
  unfold NamesOneSigner TellsSigner at *
  -- There is one material: with two, or with none, nothing would have been read.
  obtain ⟨material, hmaterials, hentries⟩ := hmaterial.exists_eq_singleton
  rw [hmaterials] at hvalues hone hsigner
  rw [List.forall_mem_singleton] at hone
  simp only [List.mem_singleton, exists_eq_left] at hsigner
  rcases hvalues with hperm | hnear
  · rw [← List.singleton_perm.mp hperm, List.forall_mem_singleton]
    exact ⟨hone, material, List.mem_singleton_self material, hsigner⟩
  · obtain ⟨material', rest, hmaterial', hrest, hmaterials'⟩ := List.forall₂_cons_left_iff.mp hnear
    cases hrest
    rw [hmaterials', List.forall_mem_singleton]
    cases hmaterial' with
    | refl => exact ⟨hone, material, List.mem_singleton_self material, hsigner⟩
    | single hmaterial' =>
      obtain ⟨hone, hsigner⟩ := VerificationMaterial.firstOf_permuted hentries hmaterial' hone hsigner
      exact ⟨hone, material', List.mem_singleton_self material', hsigner⟩

/-- A bundle that names one signer is read alike in any other order. -/
theorem read_reordered {p : Place} {o o' : Outline} {b : Bundle} (hread : read p o = .ok b)
    (h : ReflTransGen Outline.Permuted o o') (hone : NamesOneSigner o) : read p o' = .ok b := by
  obtain ⟨hparts, hsigner⟩ := read_eq_ok_iff_partsAlone.mp hread
  have hboth : NamesOneSigner o' ∧ TellsSigner p o' b.material.signer := by
    induction h with
    | refl => exact ⟨hone, hsigner⟩
    | tail h ho ih => exact tellsSigner_permuted (partsAlone_read_reordered h hparts) ho ih.1 ih.2
  exact read_eq_ok_iff_partsAlone.mpr ⟨partsAlone_read_reordered h hparts, hboth.2⟩

/-- A text that is accepted is a document. -/
theorem exists_document {text : String} {b : Bundle} (h : parse text = .ok b) : ∃ d : Document, d.text = text := by
  have hends : ∀ o b, codec.read .top o = .ok b → o.Ends := fun o b hread =>
    (around_read_eq_ok_iff.mp (read_eq_ok_iff.mp hread)).1.ends
  obtain ⟨d, hd, -⟩ := (Codec.parse_eq_ok_iff hends).mp h
  exact ⟨d, hd⟩

/-- A text that is accepted is a document, with at most one kind of content. A document in another order is accepted if the first
member that tells of a signer is readable, and then that is the signer, and nothing else of the bundle changes. So the order has no
effect on a document that names one signer. -/
theorem parse_reordered {text : String} {b : Bundle} (h : parse text = .ok b) : (∃ d : Document, d.text = text) ∧
    ∀ d : Document, d.text = text → ¬ NamesBothContents d.inner.outline ∧
      (∀ d' : Document, d.Reordered d' → ∀ b', parse d'.text = .ok b' ↔
        TellsSigner .top d'.inner.outline b'.material.signer ∧ b' = b.withSigner b'.material.signer) ∧
      (NamesOneSigner d.inner.outline → ∀ d' : Document, d.Reordered d' → parse d'.text = .ok b) := by
  refine ⟨exists_document h, ?_⟩
  rintro d rfl
  have hparse : ∀ d : Document, parse d.text = read .top d.inner.outline := codec.parse_text
  rw [hparse] at h
  refine ⟨not_namesBothContents h, fun d' hd b' => ?_, fun hone d' hd => ?_⟩
  · rw [hparse]
    exact read_reordered_iff h hd
  · rw [hparse]
    exact read_reordered h hd hone

/-- A document of two members, without white space. -/
def documentOf (first second : String × Source) : Document :=
  ⟨.empty, .object .empty [.written first.1 first.2, .written second.1 second.2], .empty⟩

theorem reordered_documentOf (first second : String × Source) : (documentOf first second).Reordered (documentOf second first) :=
  Document.reordered_of_permuted (.members _ (.swap _ _ _))

/-- A material with a key hint and nothing else. -/
def hintMaterial : String × Source := ("verificationMaterial", .object .empty [.written "publicKey" (.object .empty [])])

theorem parse_reordered_hintMaterial :
    NamesOneSigner (documentOf hintMaterial ("mediaType", .string (.written "m"))).inner.outline ∧
      parse (documentOf hintMaterial ("mediaType", .string (.written "m"))).text = .ok ⟨"m", ⟨.keyHint "", []⟩, none⟩ ∧
      parse (documentOf ("mediaType", .string (.written "m")) hintMaterial).text = .ok ⟨"m", ⟨.keyHint "", []⟩, none⟩ := by
  have hone : NamesOneSigner (documentOf hintMaterial ("mediaType", .string (.written "m"))).inner.outline := by
    unfold NamesOneSigner
    decide
  have hparse : parse (documentOf hintMaterial ("mediaType", .string (.written "m"))).text =
      .ok ⟨"m", ⟨.keyHint "", []⟩, none⟩ := by
    rw [parse, Codec.parse_text]
    rfl
  exact ⟨hone, hparse, ((parse_reordered hparse).2 _ rfl).2.2 hone _ (reordered_documentOf _ _)⟩

/-- A document whose material has two members. -/
def materialOf (first second : String) : Document :=
  ⟨.empty, .object .empty [.written "verificationMaterial"
    (.object .empty [.written first (.object .empty []), .written second (.object .empty [])])], .empty⟩

/-- Of two signers the first one counts: the same members in another order make a bundle of another signer. -/
theorem order_decides_signer :
    (materialOf "certificate" "publicKey").Reordered (materialOf "publicKey" "certificate") ∧
      (materialOf "certificate" "publicKey").text =
        "\x7b\"verificationMaterial\":\x7b\"certificate\":\x7b\x7d,\"publicKey\":\x7b\x7d\x7d\x7d" ∧
      (parse (materialOf "certificate" "publicKey").text).map (·.material.signer) = .ok (.certificate []) ∧
      (parse (materialOf "publicKey" "certificate").text).map (·.material.signer) = .ok (.keyHint "") := by
  refine ⟨Document.reordered_of_permuted (.inMember _ [] [] _ _ _ (.members _ (.swap _ _ _))), rfl, ?_, ?_⟩ <;>
    · rw [parse, Codec.parse_text]
      rfl

end Bundle

end ArtifactTrust
