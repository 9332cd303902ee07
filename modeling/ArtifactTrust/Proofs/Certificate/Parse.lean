import ArtifactTrust.Certificate.Basic
import ArtifactTrust.Proofs.Der.Depth

/-!
# What an accepted certificate is

A certificate is accepted exactly when it is one element of three parts, each of its fields can be read from what stands in its
place, and its extensions pass the check (`Certificate.isReadFrom_iff`). Each element of the first field of number 3 is the
extension in its place, and no identifier comes twice (`Certificate.IsParsed.nodup`).
-/

namespace ArtifactTrust

open Der Element Success

/-- Other words for a fault of DER do not make a success. -/
@[simp] theorem PublicKey.reading_eq_ok {α : Type} {r : Except Der.Error α} {a : α} :
    PublicKey.reading r = .ok a ↔ r = .ok a := mapError_eq_ok

namespace Certificate

variable {recognized : List Oid} {der : Bytes} {c : Certificate}

/-- Where the fields of a certificate come from: all but those of the signature are read from its body. -/
structure FollowsBody (c : Certificate) : Prop where
  fields : ∃ serial algorithm validity keyInfo more,
    splitVersion c.body.children =
      .ok (c.version, serial :: algorithm :: c.issuer :: validity :: c.subject :: keyInfo :: more) ∧
    serial.content = c.serial ∧ readValidity validity = .ok (c.notBefore, c.notAfter) ∧ PublicKey.ofElement keyInfo = .ok c.key
  extensions : readExtensions c.body.children = .ok c.extensions
  constraints : view c.extensions Oid.basicConstraints BasicConstraints.ofExtension = .ok c.constraints
  usage : view c.extensions Oid.keyUsage KeyUsage.ofExtension = .ok c.usage
  names : view c.extensions Oid.alternativeNames AlternativeNames.ofExtension = .ok c.names
  authorityKeyId : ∃ id, view c.extensions Oid.authorityKeyId Extension.authorityKeyId = .ok id ∧ id.join = c.authorityKeyId
  subjectKeyId : view c.extensions Oid.subjectKeyId Extension.subjectKeyId = .ok c.subjectKeyId

/-- How a certificate is read from an encoding: its body and signature are the parts of one element, and its extensions pass the
check. -/
structure IsReadFrom (recognized : List Oid) (der : Bytes) (c : Certificate) : Prop where
  root : Element.parse der = .ok c.root
  parts : ∃ signatureElement, c.root.children = [c.body, c.algorithm, signatureElement] ∧
    (c.body.tag.isSequence && signatureElement.tag.isBitString) = true ∧ signatureElement.wholeOctets = .ok c.signature
  body : c.FollowsBody
  signatureOid : readAlgorithm c.algorithm = .ok c.signatureOid
  checked : checkExtensions recognized [] c.extensions = .ok ()

/-- Every step of reading succeeds, and the fields are what the steps give. -/
theorem isReadFrom_iff : parseRecognizing recognized der = .ok c ↔ IsReadFrom recognized der c := by
  unfold parseRecognizing
  simp only [bind_eq_ok, PublicKey.reading_eq_ok]
  constructor
  · rintro ⟨root, hroot, h⟩
    split at h
    · rename_i body algorithm signatureElement hchildren
      split at h
      · simp only [bind_eq_ok, reduceCtorEq, false_and, exists_false] at h
      · rename_i htags
        rw [Bool.not_eq_true, Bool.not_eq_false'] at htags
        simp only [bind_eq_ok, PublicKey.reading_eq_ok] at h
        obtain ⟨signature, hsignature, ⟨version, fields⟩, hversion, h⟩ := h
        dsimp only at h
        split at h
        · simp only [bind_eq_ok, exists_unit_eq_ok, pure_eq_ok] at h
          obtain ⟨⟨notBefore, notAfter⟩, hvalidity, key, hkey, signatureOid, hoid, extensions, hextensions, hchecked,
            constraints, hconstraints, usage, husage, names, hnames, authorityKeyId, hauthority, subjectKeyId, hsubject,
            rfl⟩ := h
          exact
            { root := hroot
              parts := ⟨signatureElement, hchildren, htags, hsignature⟩
              body :=
                { fields := ⟨_, _, _, _, _, hversion, rfl, hvalidity, hkey⟩
                  extensions := hextensions
                  constraints := hconstraints
                  usage := husage
                  names := hnames
                  authorityKeyId := ⟨authorityKeyId, hauthority, rfl⟩
                  subjectKeyId := hsubject }
              signatureOid := hoid
              checked := hchecked }
        · cases h
    · cases h
  · rintro ⟨hroot, ⟨signatureElement, hchildren, htags, hsignature⟩, hbody, hoid, hchecked⟩
    obtain ⟨serial, algorithm, validity, keyInfo, more, hfields, hserial, hvalidity, hkey⟩ := hbody.fields
    obtain ⟨authorityKeyId, hauthority, hjoin⟩ := hbody.authorityKeyId
    refine ⟨c.root, hroot, ?_⟩
    rw [hchildren]
    dsimp only
    rw [htags]
    simp only [Bool.not_true, Bool.false_eq_true, if_false, bind_eq_ok, PublicKey.reading_eq_ok]
    refine ⟨c.signature, hsignature, _, hfields, ?_⟩
    dsimp only
    simp only [bind_eq_ok, exists_unit_eq_ok, pure_eq_ok]
    exact ⟨_, hvalidity, c.key, hkey, c.signatureOid, hoid, c.extensions, hbody.extensions, hchecked,
      c.constraints, hbody.constraints, c.usage, hbody.usage, c.names, hbody.names,
      authorityKeyId, hauthority, c.subjectKeyId, hbody.subjectKeyId, by rw [hserial, hjoin]⟩

/-- What has been found out about a certificate that is accepted. -/
structure IsParsed (recognized : List Oid) (der : Bytes) (c : Certificate) : Prop where
  root : Element.parse der = .ok c.root
  parts : ∃ signatureElement, c.root.children = [c.body, c.algorithm, signatureElement]
  isSequence : c.body.tag.isSequence = true
  fields : ∃ fields, splitVersion c.body.children = .ok (c.version, fields) ∧ 6 ≤ fields.length
  extensions : readExtensions c.body.children = .ok c.extensions
  checked : checkExtensions recognized [] c.extensions = .ok ()

theorem isParsed_of_parse (h : parseRecognizing recognized der = .ok c) : IsParsed recognized der c := by
  obtain ⟨hroot, ⟨signatureElement, hchildren, htags, -⟩, hbody, -, hchecked⟩ := isReadFrom_iff.mp h
  obtain ⟨serial, algorithm, validity, keyInfo, more, hfields, -⟩ := hbody.fields
  exact
    { root := hroot
      parts := ⟨signatureElement, hchildren⟩
      isSequence := (Bool.and_eq_true_iff.mp htags).1
      fields := ⟨_, hfields, by simp⟩
      extensions := hbody.extensions
      checked := hchecked }

/-- The number of fields in front of the serial number: one for the version, if it is given. -/
def versionFields (fields : List Element) : Nat := if fields.head?.any (·.tag.isContext 0) then 1 else 0

/-- Behind the version come the fields from the serial number on. -/
theorem eq_drop_of_splitVersion {fields rest : List Element} {version : Int} (h : splitVersion fields = .ok (version, rest)) :
    rest = fields.drop (versionFields fields) := by
  unfold splitVersion at h
  split at h
  case h_1 =>
    cases h
    rfl
  case h_2 first others =>
    unfold versionFields
    rw [List.head?_cons, Option.any_some]
    split at h
    case isTrue hfirst =>
      rw [if_pos hfirst]
      split at h
      · cases h
      · simp only [bind_eq_ok] at h
        obtain ⟨number, -, h⟩ := h
        split at h
        · cases h
          rfl
        · cases h
    case isFalse hfirst =>
      cases h
      rw [if_neg hfirst]
      rfl

/-- Of the identifiers of the extensions that are checked none comes twice, and none is one of those before. -/
theorem nodup_of_checkExtensions {before : List Oid} {extensions : List Extension}
    (h : checkExtensions recognized before extensions = .ok ()) :
    (extensions.map (·.oid)).Nodup ∧ ∀ x ∈ extensions, x.oid ∉ before := by
  induction extensions generalizing before with
  | nil => simp
  | cons x rest ih =>
    rw [checkExtensions] at h
    split at h
    · cases h
    · split at h
      · cases h
      · rename_i hx
        obtain ⟨hnodup, hbefore⟩ := ih h
        simp only [List.mem_cons, not_or] at hbefore
        refine ⟨?_, List.forall_mem_cons.mpr ⟨hx, fun y hy => (hbefore y hy).2⟩⟩
        rw [List.map_cons, List.nodup_cons]
        refine ⟨fun hm => ?_, hnodup⟩
        obtain ⟨y, hy, heq⟩ := List.mem_map.mp hm
        exact (hbefore y hy).1 heq

/-- An extension has its identifier from its first element. -/
theorem exists_oid_of_ofElement {x : Element} {e : Extension} (h : Extension.ofElement x = .ok e) :
    ∃ id rest, x.children = id :: rest ∧ id.oid = .ok e.oid := by
  unfold Extension.ofElement at h
  split at h
  · rename_i oid value hchildren
    simp only [bind_eq_ok, pure_eq_ok] at h
    obtain ⟨_, rfl, h⟩ := h
    split at h
    · simp only [bind_eq_ok, PublicKey.reading_eq_ok, pure_eq_ok] at h
      obtain ⟨_, hoid, rfl⟩ := h
      exact ⟨oid, [value], hchildren, hoid⟩
    · cases h
  · rename_i oid critical value hchildren
    simp only [bind_eq_ok, PublicKey.reading_eq_ok, pure_eq_ok] at h
    obtain ⟨_, -, _, rfl, h⟩ := h
    split at h
    · simp only [bind_eq_ok, PublicKey.reading_eq_ok, pure_eq_ok] at h
      obtain ⟨_, hoid, rfl⟩ := h
      exact ⟨oid, [critical, value], hchildren, hoid⟩
    · cases h
  · simp only [bind_eq_ok, reduceCtorEq, false_and, exists_false] at h

/-- Elements of the same octets that are extensions have the same identifier, at whatever depths they were read. -/
theorem oid_eq_of_ofElement {depth depth' : Nat} {x x' : Element} {e e' : Extension} (hx : IsTree depth x)
    (hx' : IsTree depth' x') (heq : x.octets = x'.octets) (h : Extension.ofElement x = .ok e)
    (h' : Extension.ofElement x' = .ok e') : e.oid = e'.oid := by
  obtain ⟨id, rest, hchildren, hid⟩ := exists_oid_of_ofElement h
  obtain ⟨id', rest', hchildren', hid'⟩ := exists_oid_of_ofElement h'
  have hcontent := (hx.of_children_ne_nil (by simp [hchildren])).2
  have hcontent' := (hx'.of_children_ne_nil (by simp [hchildren'])).2
  have hmap : x.children.map octets = x'.children.map octets :=
    map_octets_eq (fun t hm => ⟨_, hx.child t hm⟩) (fun t hm => ⟨_, hx'.child t hm⟩)
      (hcontent.trans ((hx.parts_eq hx' heq).2.trans hcontent'.symm))
  rw [hchildren, hchildren', List.map_cons, List.map_cons] at hmap
  have hidTree : IsTree (depth + 1) id := hx.child id (hchildren ▸ List.mem_cons_self)
  have hidTree' : IsTree (depth' + 1) id' := hx'.child id' (hchildren' ▸ List.mem_cons_self)
  have hsame := hidTree.oid_congr hidTree' (List.cons.inj hmap).1
  rw [hid, hid', Except.ok.injEq] at hsame
  exact hsame

namespace IsParsed

/-- With one field of number 3, the elements of the first element in it are the extensions. -/
theorem forall_extension {wrapper sequence : Element} {more : List Element} (h : IsParsed recognized der c)
    (hfield : c.body.children.filter (fun f => f.tag.isContext 3) = wrapper :: more)
    (hchild : wrapper.children = [sequence]) :
    List.Forall₂ (fun x e => Extension.ofElement x = .ok e) sequence.children c.extensions := by
  have hextensions := h.extensions
  unfold readExtensions at hextensions
  rw [← List.head?_filter, hfield, List.head?_cons] at hextensions
  dsimp only at hextensions
  rw [hchild] at hextensions
  exact mapM_eq_ok.mp hextensions

theorem body_isTree (h : IsParsed recognized der c) : Element.IsTree 1 c.body := by
  obtain ⟨signatureElement, hparts⟩ := h.parts
  exact (Element.parse_eq_ok_iff.mp h.root).1.child c.body (hparts ▸ List.mem_cons_self)

theorem children_ne_nil (h : IsParsed recognized der c) : c.body.children ≠ [] := by
  obtain ⟨fields, hfields, hlength⟩ := h.fields
  have hdrop := congrArg List.length (eq_drop_of_splitVersion hfields)
  rintro hnil
  rw [hnil, List.drop_nil, List.length_nil] at hdrop
  omega

/-- What is certified is constructed, as it has fields. -/
theorem body_tag (h : IsParsed recognized der c) : c.body.tag = .sequence := by
  refine Tag.eq_sequence h.isSequence ((h.body_isTree.of_children_ne_nil h.children_ne_nil).1.resolve_right ?_)
  intro hs
  have hnumber := (Tag.isUniversal_iff.mp h.isSequence).2
  rw [(Tag.isUniversal_iff.mp hs).2] at hnumber
  exact absurd hnumber (by decide)

theorem nodup (h : IsParsed recognized der c) : (c.extensions.map (·.oid)).Nodup :=
  (nodup_of_checkExtensions h.checked).1

end IsParsed

end Certificate

end ArtifactTrust
