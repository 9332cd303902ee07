import ArtifactTrust.Proofs.Certificate.Extensions
import Mathlib.Data.List.Nodup

/-!
# What the recognized extensions decide

Which extensions are recognized decides whether a certificate is accepted, and nothing else about it. The extensions are
checked one after the other, each first for being recognized if it is critical, then for being new; where none comes twice only
the first critical one that is not recognized is left to be reported (`Certificate.checkExtensions_eq`). Main statement: a
certificate that is accepted is the same under any longer list of recognized extensions, and one that is not accepted under a
shorter list is refused for its first critical extension that is not in it (`Certificate.parse_narrowed`). The identifiers of an
accepted certificate are distinct, so what it says under an identifier comes from the only extension that has it.
-/

namespace ArtifactTrust.Certificate

open Success

variable {recognized wider : List Oid} {der : Bytes} {c : Certificate}

/-- Whether an extension is critical without being recognized. -/
def isUnknown (recognized : List Oid) (x : Extension) : Bool := x.critical && !recognized.contains x.oid

theorem isUnknown_iff {x : Extension} : isUnknown recognized x = true ↔ x.critical = true ∧ x.oid ∉ recognized := by
  simp [isUnknown]

/-- Where no identifier comes twice, the first critical extension that is not recognized decides. -/
theorem checkExtensions_eq (recognized : List Oid) {before : List Oid} {extensions : List Extension}
    (hnodup : (extensions.map (·.oid)).Nodup) (hbefore : ∀ x ∈ extensions, x.oid ∉ before) : checkExtensions recognized before extensions =
      match extensions.find? (isUnknown recognized) with
      | none => .ok ()
      | some x => .error (.certificate (.unrecognizedCritical x.oid)) := by
  induction extensions generalizing before with
  | nil => rfl
  | cons x rest ih =>
    rw [List.map_cons, List.nodup_cons] at hnodup
    obtain ⟨hx, hrest⟩ := List.forall_mem_cons.mp hbefore
    rw [checkExtensions]
    by_cases hunknown : isUnknown recognized x = true
    · rw [if_pos (isUnknown_iff.mp hunknown), List.find?_cons_of_pos hunknown]
    · rw [if_neg fun h => hunknown (isUnknown_iff.mpr h), if_neg hx, List.find?_cons_of_neg hunknown]
      refine ih hnodup.2 fun y hy => ?_
      rw [List.mem_cons, not_or]
      exact ⟨fun heq => hnodup.1 (heq ▸ List.mem_map_of_mem hy), hrest y hy⟩

/-- What is read of a certificate is read before its extensions are checked; where only the check fails, its fault is the
answer. -/
theorem IsReadFrom.parse_eq (h : IsReadFrom wider der c) :
    parseRecognizing recognized der = (checkExtensions recognized [] c.extensions).map fun _ => c := by
  cases hcheck : checkExtensions recognized [] c.extensions with
  | ok u => exact isReadFrom_iff.mpr { h with checked := hcheck }
  | error fault =>
    obtain ⟨hroot, ⟨signatureElement, hchildren, htags, hsignature⟩, hbody, hoid, -⟩ := h
    obtain ⟨serial, algorithm, validity, keyInfo, more, hfields, -, hvalidity, hkey⟩ := hbody.fields
    simp only [parseRecognizing, PublicKey.reading, bind, Except.bind, Except.mapError, Except.map, hroot, hchildren, htags,
      hsignature, hfields, hvalidity, hkey, hoid, hbody.extensions, hcheck, Bool.not_true, Bool.false_eq_true, if_false]

/-! ## The only extension with an identifier -/

/-- Where no identifier comes twice, an extension is found by its identifier exactly if it is there. -/
theorem find?_oid_eq_some_iff {extensions : List Extension} (hnodup : (extensions.map (·.oid)).Nodup) {oid : Oid}
    {x : Extension} : extensions.find? (fun x => x.oid = oid) = some x ↔ x ∈ extensions ∧ x.oid = oid := by
  have hfound {y : Extension} (h : extensions.find? (fun x => x.oid = oid) = some y) : y ∈ extensions ∧ y.oid = oid :=
    ⟨List.mem_of_find?_eq_some h, by simpa using List.find?_some h⟩
  refine ⟨hfound, fun ⟨hx, hoid⟩ => ?_⟩
  have hsome : (extensions.find? fun x => x.oid = oid).isSome = true :=
    List.find?_isSome.mpr ⟨x, hx, by simpa using hoid⟩
  obtain ⟨y, hy⟩ := Option.isSome_iff_exists.mp hsome
  rw [hy, List.inj_on_of_nodup_map hnodup (hfound hy).1 hx ((hfound hy).2.trans hoid.symm)]

/-- What the only extension with an identifier means, or nothing where there is none. -/
inductive IsOnlyView {α : Type} (extensions : List Extension) (oid : Oid) (meaning : Extension → Except CryptoError α) :
    Option α → Prop where
  | absent (hnone : ∀ x ∈ extensions, x.oid ≠ oid) : IsOnlyView extensions oid meaning none
  | present {x : Extension} {a : α} (hmem : x ∈ extensions) (hoid : x.oid = oid)
      (honly : ∀ y ∈ extensions, y.oid = oid → y = x) (hmeaning : meaning x = .ok a) :
      IsOnlyView extensions oid meaning (some a)

theorem view_eq_ok_iff {α : Type} {extensions : List Extension} (hnodup : (extensions.map (·.oid)).Nodup) {oid : Oid}
    {meaning : Extension → Except CryptoError α} {v : Option α} :
    view extensions oid meaning = .ok v ↔ IsOnlyView extensions oid meaning v := by
  unfold view
  cases hfind : extensions.find? fun x => x.oid = oid with
  | none =>
    have hnone : ∀ x ∈ extensions, x.oid ≠ oid := by simpa using hfind
    constructor
    · rintro ⟨⟩
      exact .absent hnone
    · rintro (_ | ⟨hmem, hoid, -, -⟩)
      · rfl
      · exact absurd hoid (hnone _ hmem)
  | some x =>
    obtain ⟨hmem, hoid⟩ := (find?_oid_eq_some_iff hnodup).mp hfind
    have honly : ∀ y ∈ extensions, y.oid = oid → y = x := fun y hy h =>
      List.inj_on_of_nodup_map hnodup hy hmem (h.trans hoid.symm)
    simp only [map_eq_ok]
    constructor
    · rintro ⟨a, ha, rfl⟩
      exact .present hmem hoid honly ha
    · rintro (hnone | ⟨hmem', hoid', -, ha⟩)
      · exact absurd hoid (hnone x hmem)
      · exact ⟨_, honly _ hmem' hoid' ▸ ha, rfl⟩

/-- The extensions of a certificate have distinct identifiers, and what it says under an identifier comes from the only
extension with it. The list of timestamps is read when it is asked for. -/
structure HasOnlyViews (c : Certificate) : Prop where
  nodup : (c.extensions.map (·.oid)).Nodup
  extension : ∀ oid x, c.extension? oid = some x ↔ x ∈ c.extensions ∧ x.oid = oid
  constraints : IsOnlyView c.extensions Oid.basicConstraints BasicConstraints.ofExtension c.constraints
  usage : IsOnlyView c.extensions Oid.keyUsage KeyUsage.ofExtension c.usage
  names : IsOnlyView c.extensions Oid.alternativeNames AlternativeNames.ofExtension c.names
  authorityKeyId : ∃ id, IsOnlyView c.extensions Oid.authorityKeyId Extension.authorityKeyId id ∧ id.join = c.authorityKeyId
  subjectKeyId : IsOnlyView c.extensions Oid.subjectKeyId Extension.subjectKeyId c.subjectKeyId
  timestampList : ∀ list, c.timestampList = .ok list ↔
    IsOnlyView c.extensions Oid.timestampList Extension.timestampList list

theorem IsReadFrom.hasOnlyViews (h : IsReadFrom recognized der c) : c.HasOnlyViews := by
  have hnodup := (nodup_of_checkExtensions h.checked).1
  obtain ⟨-, -, hconstraints, husage, hnames, ⟨id, hauthority, hjoin⟩, hsubject⟩ := h.body
  exact
    { nodup := hnodup
      extension := fun _ _ => find?_oid_eq_some_iff hnodup
      constraints := (view_eq_ok_iff hnodup).mp hconstraints
      usage := (view_eq_ok_iff hnodup).mp husage
      names := (view_eq_ok_iff hnodup).mp hnames
      authorityKeyId := ⟨id, (view_eq_ok_iff hnodup).mp hauthority, hjoin⟩
      subjectKeyId := (view_eq_ok_iff hnodup).mp hsubject
      timestampList := fun _ => view_eq_ok_iff hnodup }

/-! ## Shorter lists -/

/-- An extension is the first critical one of a certificate that is not recognized. -/
def IsFirstUnknown (recognized : List Oid) (c : Certificate) (x : Extension) : Prop :=
  ∃ before after, c.extensions = before ++ x :: after ∧ x.critical = true ∧ x.oid ∉ recognized ∧
    ∀ y ∈ before, y.critical = true → y.oid ∈ recognized

/-- A certificate that is accepted under one list of recognized extensions is the same under another one, or is refused there
for the first critical extension that is not in it. -/
theorem IsReadFrom.parse_or_refuse (recognized : List Oid) (h : IsReadFrom wider der c) :
    parseRecognizing recognized der = .ok c ∨
      ∃ x, c.IsFirstUnknown recognized x ∧
        parseRecognizing recognized der = .error (.certificate (.unrecognizedCritical x.oid)) := by
  have hcheck := checkExtensions_eq recognized (nodup_of_checkExtensions h.checked).1 fun _ _ => List.not_mem_nil
  rw [h.parse_eq, hcheck]
  cases hfind : c.extensions.find? (isUnknown recognized) with
  | none => exact Or.inl rfl
  | some x =>
    obtain ⟨hx, before, after, hsplit, hbefore⟩ := List.find?_eq_some_iff_append.mp hfind
    obtain ⟨hcritical, hunrecognized⟩ := isUnknown_iff.mp hx
    refine Or.inr ⟨x, ⟨before, after, hsplit, hcritical, hunrecognized, fun y hy hyc => ?_⟩, rfl⟩
    by_contra hne
    have hy' := hbefore y hy
    rw [isUnknown_iff.mpr ⟨hyc, hne⟩] at hy'
    cases hy'

/-- The recognized extensions only refuse. What is accepted under a list is accepted under a longer one, and is the same
certificate; what is accepted only under the longer one is refused for its first critical extension that is not in the
shorter one. Of an accepted certificate, each thing that it says comes from the only extension with the identifier. -/
theorem parse_narrowed (recognized wider : List Oid) (hsub : recognized ⊆ wider) (der : Bytes) :
    (∀ c, parseRecognizing recognized der = .ok c → parseRecognizing wider der = .ok c) ∧
      (∀ c fault, parseRecognizing wider der = .ok c → parseRecognizing recognized der = .error fault →
        ∃ x, c.IsFirstUnknown recognized x ∧ fault = .certificate (.unrecognizedCritical x.oid)) ∧
      ∀ c, parseRecognizing recognized der = .ok c → c.HasOnlyViews := by
  refine ⟨fun c h => ?_, fun c fault hwider h => ?_, fun c h => (isReadFrom_iff.mp h).hasOnlyViews⟩
  · have hread := isReadFrom_iff.mp h
    rcases hread.parse_or_refuse wider with hok | ⟨x, ⟨before, after, hsplit, hcritical, hne, -⟩, -⟩
    · exact hok
    · -- An extension that is not in the longer list is not in the shorter one either.
      have hmem : x ∈ c.extensions := hsplit ▸ List.mem_append_right before List.mem_cons_self
      exact absurd (hsub (recognized_of_checkExtensions hread.checked x hmem hcritical)) hne
  · rcases (isReadFrom_iff.mp hwider).parse_or_refuse recognized with hok | ⟨x, hx, herror⟩
    · rw [hok] at h
      cases h
    · exact ⟨x, hx, Except.error.inj (h.symm.trans herror)⟩

/-- A certificate with two extensions, of which the second one is critical and has the identifier 1.2.3.5. -/
def criticalSecond : Bytes :=
  derEnding (Der.Element.encode extensionsTag (Der.Element.encode .sequence (otherExtension ++ criticalExtension)))

theorem criticalSecond_facts : ((parseRecognizing ["1.2.3.5"] criticalSecond).toOption.isSome &&
    (parseRecognizing ["1.2.3"] criticalSecond).toOption.isNone) = true := by
  decide +kernel

theorem parse_narrowed_criticalSecond : ["1.2.3"] ⊆ ["1.2.3.5", "1.2.3"] ∧
    ∃ c x, parseRecognizing ["1.2.3.5"] criticalSecond = .ok c ∧ parseRecognizing ["1.2.3.5", "1.2.3"] criticalSecond = .ok c ∧
      c.IsFirstUnknown ["1.2.3"] x ∧ c.HasOnlyViews ∧
      parseRecognizing ["1.2.3"] criticalSecond = .error (.certificate (.unrecognizedCritical x.oid)) := by
  obtain ⟨haccepted, hrefused⟩ := Bool.and_eq_true_iff.mp criticalSecond_facts
  obtain ⟨c, hc⟩ := Option.isSome_iff_exists.mp haccepted
  rw [toOption_eq_some] at hc
  have hsub : ["1.2.3"] ⊆ ["1.2.3.5", "1.2.3"] := by decide
  obtain ⟨hnarrowed, -, hviews⟩ := parse_narrowed ["1.2.3.5"] ["1.2.3.5", "1.2.3"] (by decide) criticalSecond
  cases hfault : parseRecognizing ["1.2.3"] criticalSecond with
  | ok d =>
    rw [hfault] at hrefused
    cases hrefused
  | error fault =>
    obtain ⟨x, hx, rfl⟩ := (parse_narrowed _ _ hsub criticalSecond).2.1 c fault (hnarrowed c hc) hfault
    exact ⟨hsub, c, x, hc, hnarrowed c hc, hx, hviews c hc, rfl⟩

end ArtifactTrust.Certificate
