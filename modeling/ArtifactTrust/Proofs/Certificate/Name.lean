import ArtifactTrust.Certificate.Basic
import ArtifactTrust.Proofs.Bytes
import ArtifactTrust.Proofs.Success

/-!
# Who a certificate is for, and who vouches

A certificate says each of the two in several ways, of which one goes before the other. Main statements: its subject is
identified by the first mail address, and only where there is none by the first URI (`Certificate.identity_eq_some_iff`); the
issuer of the identity is what the newer extension spells, and only where that spells nothing the content of the older one
(`Certificate.identityIssuer_eq_some_iff`).
-/

namespace ArtifactTrust

open Success

/-! ## The first name of a form -/

namespace GeneralName

theorem email?_eq_some_iff {n : GeneralName} {text : String} : n.email? = some text ↔ n = email text := by
  cases n <;> simp [email?]

theorem uri?_eq_some_iff {n : GeneralName} {text : String} : n.uri? = some text ↔ n = uri text := by
  cases n <;> simp [uri?]

variable {read : GeneralName → Option String} {form : String → GeneralName} {names : List GeneralName} {text : String}

/-- No text of a form is found when no name is of this form. -/
theorem findSome?_eq_none_iff_of_form (h : ∀ n text, read n = some text ↔ n = form text) :
    names.findSome? read = none ↔ ∀ text, form text ∉ names := by
  rw [List.findSome?_eq_none_iff]
  constructor
  · intro hnone text hmem
    have hread := (h (form text) text).mpr rfl
    rw [hnone _ hmem] at hread
    cases hread
  · intro habsent n hn
    rw [Option.eq_none_iff_forall_ne_some]
    intro text hread
    exact habsent text ((h n text).mp hread ▸ hn)

/-- The text that is found is that of the first name of the form. -/
theorem findSome?_eq_some_iff_of_form (h : ∀ n text, read n = some text ↔ n = form text) :
    names.findSome? read = some text ↔ ∃ before after, names = before ++ form text :: after ∧ ∀ other, form other ∉ before := by
  rw [List.findSome?_eq_some_iff]
  constructor
  · rintro ⟨before, n, after, hsplit, hread, hbefore⟩
    obtain rfl := (h n text).mp hread
    exact ⟨before, after, hsplit, (findSome?_eq_none_iff_of_form h).mp (List.findSome?_eq_none_iff.mpr hbefore)⟩
  · rintro ⟨before, after, hsplit, hbefore⟩
    exact ⟨before, form text, after, hsplit, (h _ _).mpr rfl,
      List.findSome?_eq_none_iff.mp ((findSome?_eq_none_iff_of_form h).mpr hbefore)⟩

end GeneralName

namespace AlternativeNames

variable {a : AlternativeNames} {text : String}

theorem email_eq_none_iff : a.email = none ↔ ∀ text, GeneralName.email text ∉ a.names :=
  GeneralName.findSome?_eq_none_iff_of_form fun _ _ => GeneralName.email?_eq_some_iff

theorem uri_eq_none_iff : a.uri = none ↔ ∀ text, GeneralName.uri text ∉ a.names :=
  GeneralName.findSome?_eq_none_iff_of_form fun _ _ => GeneralName.uri?_eq_some_iff

theorem email_eq_some_iff : a.email = some text ↔
    ∃ before after, a.names = before ++ .email text :: after ∧ ∀ other, GeneralName.email other ∉ before :=
  GeneralName.findSome?_eq_some_iff_of_form fun _ _ => GeneralName.email?_eq_some_iff

theorem uri_eq_some_iff : a.uri = some text ↔
    ∃ before after, a.names = before ++ .uri text :: after ∧ ∀ other, GeneralName.uri other ∉ before :=
  GeneralName.findSome?_eq_some_iff_of_form fun _ _ => GeneralName.uri?_eq_some_iff

/-! ## The identity of the subject -/

/-- Names identify a subject by the first mail address among them, and where there is none by the first URI. -/
inductive Identify (a : AlternativeNames) (name : String) : Prop
  | email (before after : List GeneralName) (split : a.names = before ++ .email name :: after)
      (first : ∀ other, GeneralName.email other ∉ before)
  | uri (before after : List GeneralName) (split : a.names = before ++ .uri name :: after)
      (first : ∀ other, GeneralName.uri other ∉ before) (none : ∀ other, GeneralName.email other ∉ a.names)

theorem identity_eq_some_iff : a.identity = some text ↔ a.Identify text := by
  rw [identity]
  cases hemail : a.email with
  | some address =>
    have hfirst := email_eq_some_iff.mp hemail
    constructor
    · intro h
      obtain rfl : address = text := Option.some.inj h
      obtain ⟨before, after, hsplit, hbefore⟩ := hfirst
      exact .email before after hsplit hbefore
    · rintro (⟨before, after, hsplit, hbefore⟩ | ⟨-, -, -, -, hnone⟩)
      · exact hemail.symm.trans (email_eq_some_iff.mpr ⟨before, after, hsplit, hbefore⟩)
      · rw [email_eq_none_iff.mpr hnone] at hemail
        cases hemail
  | none =>
    have hnone := email_eq_none_iff.mp hemail
    rw [Option.orElse_none, uri_eq_some_iff]
    constructor
    · rintro ⟨before, after, hsplit, hbefore⟩
      exact .uri before after hsplit hbefore hnone
    · rintro (⟨before, after, hsplit, -⟩ | ⟨before, after, hsplit, hbefore, -⟩)
      · exact absurd (hsplit ▸ List.mem_append_right before List.mem_cons_self) (hnone text)
      · exact ⟨before, after, hsplit, hbefore⟩

end AlternativeNames

/-! ## The texts of extensions -/

/-- An extension spells a text when the first element in it is a string of this text, in UTF-8. -/
def Extension.Spells (x : Extension) (text : String) : Prop :=
  ∃ e more, x.value.children = e :: more ∧ e.tag.isText = true ∧ e.content = Bytes.ofText text

theorem Der.Element.text_eq_ok_iff {e : Der.Element} {text : String} :
    e.text = .ok text ↔ e.tag.isText = true ∧ e.content = Bytes.ofText text := by
  rw [Der.Element.text, typed_eq_ok, Der.Content.text, ← Bytes.text?_eq_some_iff]
  cases Bytes.text? e.content <;> simp

namespace Extension

variable {x : Extension} {text : String}

theorem spells_iff : x.Spells text ↔ (x.value.children.head?.bind fun e => e.text.toOption) = some text := by
  rw [Spells]
  cases x.value.children with
  | nil => simp
  | cons e more => simp [toOption_eq_some, Der.Element.text_eq_ok_iff]

/-- An extension holds a text as its content, or spells it. -/
theorem holds_iff : x.holds text = true ↔ x.content = Bytes.ofText text ∨ x.Spells text := by
  rw [holds, Bool.or_eq_true, beq_iff_eq, spells_iff]
  cases x.value.children <;> simp

end Extension

/-! ## The identity of a certificate and its issuer -/

namespace Certificate

variable {c : Certificate} {name issuer : String}

/-- A certificate identifies its subject by its alternative names. -/
def Identifies (c : Certificate) (name : String) : Prop := ∃ a, c.names = some a ∧ a.Identify name

theorem identity_eq_some_iff : c.identity = some name ↔ c.Identifies name := by
  simp only [identity, Option.bind_eq_some_iff, AlternativeNames.identity_eq_some_iff, Identifies]

/-- The issuer of the identity is what the newer extension spells; where it is missing or spells nothing, it is the text that the
content of the older one encodes. -/
inductive IsVouchedBy (c : Certificate) (issuer : String) : Prop
  | spelled (x : Extension) (found : c.extension? Oid.identityIssuerText = some x) (spells : x.Spells issuer)
  | plain (silent : ∀ x text, c.extension? Oid.identityIssuerText = some x → ¬ x.Spells text) (x : Extension)
      (found : c.extension? Oid.identityIssuer = some x) (content : x.content = Bytes.ofText issuer)

theorem identityIssuer_eq_some_iff : c.identityIssuer = some issuer ↔ c.IsVouchedBy issuer := by
  have hspelled : ∀ text,
      ((c.extension? Oid.identityIssuerText).bind fun x => x.value.children.head?.bind fun e => e.text.toOption) = some text ↔
        ∃ x, c.extension? Oid.identityIssuerText = some x ∧ x.Spells text := by
    intro text
    rw [Option.bind_eq_some_iff]
    simp only [Extension.spells_iff]
  rw [identityIssuer]
  cases hfound : (c.extension? Oid.identityIssuerText).bind fun x => x.value.children.head?.bind fun e => e.text.toOption with
  | some text =>
    obtain ⟨x, hx, hspells⟩ := (hspelled text).mp hfound
    constructor
    · intro h
      obtain rfl : text = issuer := Option.some.inj h
      exact .spelled x hx hspells
    · rintro (⟨y, hy, hy'⟩ | ⟨hsilent, -, -, -⟩)
      · exact hfound.symm.trans ((hspelled issuer).mpr ⟨y, hy, hy'⟩)
      · exact absurd hspells (hsilent x text hx)
  | none =>
    have hsilent : ∀ x text, c.extension? Oid.identityIssuerText = some x → ¬ x.Spells text := by
      intro x text hx hspells
      rw [(hspelled text).mpr ⟨x, hx, hspells⟩] at hfound
      cases hfound
    simp only [Option.orElse_none, Option.bind_eq_some_iff, Bytes.text?_eq_some_iff]
    constructor
    · rintro ⟨x, hx, hcontent⟩
      exact .plain hsilent x hx hcontent
    · rintro (⟨y, hy, hspells⟩ | ⟨-, x, hx, hcontent⟩)
      · exact absurd hspells (hsilent y issuer hy)
      · exact ⟨x, hx, hcontent⟩

end Certificate

end ArtifactTrust
