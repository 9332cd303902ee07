import ArtifactTrust.Proofs.Certificate.Precertificate

/-!
# Which extensions are checked

Fields of number 3 hold extensions. Leaving an extension out goes over all such fields (`Certificate.without`), but only the first
one is read and checked: what stands in a later one is no extension of the certificate, may be critical though nobody knows
it, and may repeat an identifier. So the extensions that were checked are all that there are exactly if no later field lists any
(`Certificate.allChecked_iff`).
-/

namespace ArtifactTrust

open Der Element Success

namespace Certificate

variable {recognized : List Oid} {der : Bytes} {c : Certificate}

/-- The fields of number 3. -/
def extensionFields (c : Certificate) : List Element := c.body.children.filter fun f => f.tag.isContext 3

/-- The elements that a field of number 3 lists as extensions: those in its first element. -/
def listed (field : Element) : List Element := (field.children.head?.map children).getD []

/-- The extensions that the first field of number 3 lists. -/
def firstListed (c : Certificate) : List Element := (c.extensionFields.head?.map listed).getD []

/-- The extensions are all those that any field of number 3 lists, in their order, each under its own identifier, and those that
are critical are recognized. -/
structure AllChecked (recognized : List Oid) (c : Certificate) : Prop where
  read : List.Forall₂ (fun x e => Extension.ofElement x = .ok e) (c.extensionFields.flatMap listed) c.extensions
  recognized : ∀ e ∈ c.extensions, e.critical = true → e.oid ∈ recognized
  distinct : (c.extensions.map (·.oid)).Nodup

/-- Extensions that pass the check are recognized if they are critical. -/
theorem recognized_of_checkExtensions {before : List Oid} {extensions : List Extension}
    (h : checkExtensions recognized before extensions = .ok ()) :
    ∀ e ∈ extensions, e.critical = true → e.oid ∈ recognized := by
  induction extensions generalizing before with
  | nil => simp
  | cons x rest ih =>
    rw [checkExtensions] at h
    split at h
    · cases h
    · rename_i hx
      split at h
      · cases h
      · exact List.forall_mem_cons.mpr ⟨fun hcritical => of_not_not fun hne => hx ⟨hcritical, hne⟩, ih h⟩

/-- The elements that the first field lists are the extensions. -/
theorem IsParsed.forall_firstListed (h : IsParsed recognized der c) :
    List.Forall₂ (fun x e => Extension.ofElement x = .ok e) c.firstListed c.extensions := by
  have hextensions := h.extensions
  unfold readExtensions at hextensions
  rw [← List.head?_filter] at hextensions
  unfold firstListed extensionFields
  split at hextensions
  · rename_i hnone
    rw [← Except.ok.inj hextensions, hnone]
    exact .nil
  · rename_i field hfield
    split at hextensions
    · cases hextensions
    · rename_i sequence others hchildren
      simpa [hfield, listed, hchildren] using mapM_eq_ok.mp hextensions

/-- What all fields list is what the first one lists and what the later ones list. -/
theorem flatMap_listed_eq (c : Certificate) :
    c.extensionFields.flatMap listed = c.firstListed ++ c.extensionFields.tail.flatMap listed := by
  unfold firstListed
  cases c.extensionFields <;> simp

/-- Of an accepted certificate the extensions are those that the first field of number 3 lists, in their order, each under its own
identifier, and the critical ones are recognized. This is all that the certificate lists exactly if the later fields of number 3
list nothing. -/
theorem allChecked_iff (h : parseRecognizing recognized der = .ok c) :
    List.Forall₂ (fun x e => Extension.ofElement x = .ok e) c.firstListed c.extensions ∧
      (∀ e ∈ c.extensions, e.critical = true → e.oid ∈ recognized) ∧ (c.extensions.map (·.oid)).Nodup ∧
        (c.AllChecked recognized ↔ ∀ field ∈ c.extensionFields.tail, listed field = []) := by
  have hparsed := isParsed_of_parse h
  have hfirst := hparsed.forall_firstListed
  have hrecognized := recognized_of_checkExtensions hparsed.checked
  refine ⟨hfirst, hrecognized, hparsed.nodup, ?_, fun hlater => ⟨?_, hrecognized, hparsed.nodup⟩⟩
  · -- There is one extension for each element of the first field already.
    intro hall
    have hlength := hall.read.length_eq
    rw [flatMap_listed_eq, List.length_append, ← hfirst.length_eq] at hlength
    have hnil : c.extensionFields.tail.flatMap listed = [] := List.length_eq_zero_iff.mp (by omega)
    exact List.flatMap_eq_nil_iff.mp hnil
  · rw [flatMap_listed_eq, List.flatMap_eq_nil_iff.mpr hlater, List.append_nil]
    exact hfirst

/-! ## A critical extension that nobody checks -/

/-- The plain certificate with other octets for its last field. -/
def derEnding (last : Bytes) : Bytes :=
  encode .sequence
    (encode .sequence (plainCertificate.body.children.dropLast.flatMap octets ++ last) ++ plainCertificate.algorithm.octets ++
      [0x03, 0x01, 0x00])

/-- An extension with an identifier that is not recognized, marked critical. -/
def criticalExtension : Bytes := [0x30, 0x0a, 0x06, 0x03, 0x2a, 0x03, 0x05, 0x01, 0x01, 0xff, 0x04, 0x00]

/-- Two fields of number 3, the second one with a critical extension. -/
def twoFields : Bytes :=
  encode extensionsTag (encode .sequence otherExtension) ++ encode extensionsTag (encode .sequence criticalExtension)

/-- Whether an element is an extension that is critical and not recognized. -/
def isUnrecognized (x : Element) : Bool :=
  (Extension.ofElement x).toOption.any fun e => e.critical && !Certificate.recognized.contains e.oid

/-- The certificate with these two fields is accepted, and the second one lists something that is not recognized. -/
theorem twoFields_facts : ((parse (derEnding twoFields)).toOption.any fun c =>
    (c.extensionFields.flatMap listed).any isUnrecognized && c.extensionFields.tail.any fun field => !(listed field).isEmpty) =
      true := by
  decide +kernel

theorem not_allChecked_twoFields :
    ∃ c, parse (derEnding twoFields) = .ok c ∧ ¬ c.AllChecked Certificate.recognized := by
  obtain ⟨c, hparse, hfacts⟩ := (Option.any_eq_true ..).mp twoFields_facts
  rw [toOption_eq_some] at hparse
  obtain ⟨field, hfield, hlisted⟩ := List.any_eq_true.mp (Bool.and_eq_true_iff.mp hfacts).2
  refine ⟨c, hparse, fun hall => ?_⟩
  rw [(allChecked_iff hparse).2.2.2.mp hall field hfield] at hlisted
  cases hlisted

/-- A certificate is accepted with an extension in it that is critical and not recognized. -/
theorem unrecognized_critical_accepted : ∃ c, parse (derEnding twoFields) = .ok c ∧ ¬ c.AllChecked Certificate.recognized ∧
    ∃ x ∈ c.extensionFields.flatMap listed, ∃ e, Extension.ofElement x = .ok e ∧ e.critical = true ∧
      e.oid ∉ Certificate.recognized := by
  obtain ⟨c, hparse, hfacts⟩ := (Option.any_eq_true ..).mp twoFields_facts
  rw [toOption_eq_some] at hparse
  obtain ⟨x, hx, hunrecognized⟩ := List.any_eq_true.mp (Bool.and_eq_true_iff.mp hfacts).1
  rw [isUnrecognized, Option.any_eq_true] at hunrecognized
  obtain ⟨e, he, hcritical⟩ := hunrecognized
  rw [toOption_eq_some] at he
  simp only [Bool.and_eq_true, Bool.not_eq_true', List.contains_eq_mem, decide_eq_false_iff_not] at hcritical
  refine ⟨c, hparse, fun hall => ?_, x, hx, e, he, hcritical⟩
  obtain ⟨e', hmem, he'⟩ := exists_mem_of_forall₂ hall.read x hx
  obtain rfl := Except.ok.inj (he.symm.trans he')
  exact hcritical.2 (hall.recognized e hmem hcritical.1)

end Certificate

end ArtifactTrust
