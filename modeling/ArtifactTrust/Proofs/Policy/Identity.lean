import ArtifactTrust.Proofs.Certificate.Name
import ArtifactTrust.Proofs.Failure
import ArtifactTrust.Proofs.Verify.Certificate

/-!
# Who is admitted by a list of identities

A certificate fits an expected identity (`ExpectedIdentity.Fits`) when its issuer, its name and its extensions do. Main
statement: the verdict on a certificate is exact, and does not depend on how the identities and what they ask for are listed;
more identities admit no fewer certificates, and identities that ask for more admit no further ones
(`Certificate.verifyIdentity_exact`).
-/

namespace ArtifactTrust

open Failure

/-- The extension of a certificate with an identifier holds a text: as its content, or as the first string in it. -/
def Certificate.Records (c : Certificate) (oid : Oid) (text : String) : Prop :=
  ∃ x, c.extension? oid = some x ∧ (x.content = Bytes.ofText text ∨ x.Spells text)

namespace ExpectedIdentity

/-- A certificate that identifies its subject by a name fits an expected identity. -/
structure Fits (i : ExpectedIdentity) (c : Certificate) (name : String) : Prop where
  issuer : c.IsVouchedBy i.issuer
  name : i.name.accepts name = true
  extensions : ∀ oid text, (oid, text) ∈ i.extensions → c.Records oid text

/-- An expected identity asks for no more than another one: for the same issuer and the same name, and for no extension that the
other does not ask for. -/
structure AsksNoMore (j i : ExpectedIdentity) : Prop where
  issuer : j.issuer = i.issuer
  name : j.name = i.name
  extensions : j.extensions ⊆ i.extensions

/-- Two expected identities ask for the same. They may list the extensions in another order, or one of them several times. -/
def AsksTheSame (j i : ExpectedIdentity) : Prop := j.AsksNoMore i ∧ i.AsksNoMore j

variable {i j : ExpectedIdentity} {c : Certificate} {name : String}

theorem isCarried_iff_fits : i.IsCarried c name ↔ i.Fits c name := by
  have hextension : ∀ oid text,
      (∃ x, c.extension? oid = some x ∧ x.holds text = true) ↔ c.Records oid text := by
    intro oid text
    simp only [Extension.holds_iff, Certificate.Records]
  constructor
  · intro h
    refine ⟨Certificate.identityIssuer_eq_some_iff.mp h.issuer, h.name, fun oid text hmem => ?_⟩
    exact (hextension oid text).mp (h.extensions oid text hmem)
  · intro h
    refine ⟨Certificate.identityIssuer_eq_some_iff.mpr h.issuer, h.name, fun oid text hmem => ?_⟩
    exact (hextension oid text).mpr (h.extensions oid text hmem)

theorem AsksNoMore.refl (i : ExpectedIdentity) : i.AsksNoMore i := ⟨rfl, rfl, List.Subset.refl _⟩

/-- What fits an identity fits one that asks for no more. -/
theorem Fits.relaxed (h : i.Fits c name) (hj : j.AsksNoMore i) : j.Fits c name where
  issuer := hj.issuer ▸ h.issuer
  name := hj.name ▸ h.name
  extensions oid text hmem := h.extensions oid text (hj.extensions hmem)

end ExpectedIdentity

namespace Certificate

variable {c : Certificate} {expected other : List ExpectedIdentity} {name : String}

theorem verifyIdentity_eq_ok_iff_fits :
    c.verifyIdentity expected = .ok name ↔ c.Identifies name ∧ ∃ i ∈ expected, i.Fits c name := by
  simp only [verifyIdentity_eq_ok_iff, identity_eq_some_iff, ExpectedIdentity.isCarried_iff_fits]

/-- A certificate is refused for having no name, or with the name and the issuer that no expected identity has. -/
theorem verifyIdentity_eq_error_iff {fault : IdentityFault} : c.verifyIdentity expected = .error fault ↔
    ((∀ name, ¬ c.Identifies name) ∧ fault = .noName) ∨
      ∃ name, c.Identifies name ∧ (∀ i ∈ expected, ¬ i.Fits c name) ∧ fault = .unexpected name c.identityIssuer := by
  simp only [← identity_eq_some_iff, ← ExpectedIdentity.isCarried_iff_fits, ← ExpectedIdentity.accepts_iff]
  unfold verifyIdentity
  cases c.identity with
  | none =>
    simp only [Except.error.injEq, reduceCtorEq, not_false_eq_true, implies_true, true_and, false_and, exists_false, or_false]
    exact eq_comm
  | some found =>
    simp only [Option.some.injEq, exists_eq_left']
    split
    case isTrue hany =>
      obtain ⟨i, hi, haccepts⟩ := List.any_eq_true.mp hany
      simp only [reduceCtorEq, false_iff]
      rintro (⟨hnone, -⟩ | ⟨hno, -⟩)
      · exact hnone found rfl
      · exact hno i hi haccepts
    case isFalse hnot =>
      have hno : ∀ i ∈ expected, ¬ i.accepts c found = true := by
        intro i hi haccepts
        exact hnot (List.any_eq_true.mpr ⟨i, hi, haccepts⟩)
      rw [Except.error.injEq]
      constructor
      · exact fun h => Or.inr ⟨hno, h.symm⟩
      · rintro (⟨hnone, -⟩ | ⟨-, rfl⟩)
        · exact absurd rfl (hnone found)
        · rfl

/-! ## Other lists of identities -/

/-- A certificate that a list of identities admits is admitted by every list in which each of them has one that asks for no
more. -/
theorem verifyIdentity_relaxed (hall : ∀ i ∈ expected, ∃ j ∈ other, j.AsksNoMore i)
    (h : c.verifyIdentity expected = .ok name) : c.verifyIdentity other = .ok name := by
  obtain ⟨hname, i, hi, hfits⟩ := verifyIdentity_eq_ok_iff_fits.mp h
  obtain ⟨j, hj, hless⟩ := hall i hi
  exact verifyIdentity_eq_ok_iff_fits.mpr ⟨hname, j, hj, hfits.relaxed hless⟩

/-- Two lists give the same verdict when each identity in one of them has one in the other that asks for no more. -/
theorem verifyIdentity_congr (hall : ∀ i ∈ expected, ∃ j ∈ other, j.AsksNoMore i)
    (hall' : ∀ j ∈ other, ∃ i ∈ expected, i.AsksNoMore j) : c.verifyIdentity other = c.verifyIdentity expected := by
  cases h : c.verifyIdentity expected with
  | ok name => exact verifyIdentity_relaxed hall h
  | error fault =>
    rw [verifyIdentity_eq_error_iff] at h ⊢
    refine h.imp_right ?_
    rintro ⟨name, hname, hno, hfault⟩
    refine ⟨name, hname, fun j hj hfits => ?_, hfault⟩
    obtain ⟨i, hi, hless⟩ := hall' j hj
    exact hno i hi (hfits.relaxed hless)

/-- The verdict on a certificate. It is accepted under the name by which it identifies its subject if it fits one of the
identities, it makes a bundle unusable if it has no such name, and is rejected otherwise. In which order the identities and the
extensions that they ask for are listed, and how often, does not matter; more identities keep what is accepted, and more
extensions in one of them add nothing to it. -/
theorem verifyIdentity_exact (c : Certificate) (expected : List ExpectedIdentity) :
    (∀ name, c.verifyIdentity expected = .ok name ↔ c.Identifies name ∧ ∃ i ∈ expected, i.Fits c name) ∧
      ((∃ fault, (c.verifyIdentity expected).mapError VerifyError.ofIdentity = .error (.bundle fault)) ↔
        ∀ name, ¬ c.Identifies name) ∧
      ((∃ fault, (c.verifyIdentity expected).mapError VerifyError.ofIdentity = .error (.rejected fault)) ↔
        ∃ name, c.Identifies name ∧ ∀ i ∈ expected, ¬ i.Fits c name) ∧
      (∀ other, (∀ i ∈ expected, ∃ j ∈ other, j.AsksTheSame i) → (∀ j ∈ other, ∃ i ∈ expected, i.AsksTheSame j) →
        c.verifyIdentity other = c.verifyIdentity expected) ∧
      (∀ more name, expected ⊆ more → c.verifyIdentity expected = .ok name → c.verifyIdentity more = .ok name) ∧
      ∀ before i after extensions name, expected = before ++ i :: after → i.extensions ⊆ extensions →
        c.verifyIdentity (before ++ { i with extensions } :: after) = .ok name → c.verifyIdentity expected = .ok name := by
  refine ⟨fun _ => verifyIdentity_eq_ok_iff_fits, ?_, ?_, fun other hall hall' => ?_, fun more name hsub h => ?_, ?_⟩
  · simp only [mapError_eq_error, verifyIdentity_eq_error_iff]
    constructor
    · rintro ⟨_, _, ⟨hnone, -⟩ | ⟨_, -, -, rfl⟩, heq⟩
      · exact hnone
      · cases heq
    · exact fun hnone => ⟨_, _, Or.inl ⟨hnone, rfl⟩, rfl⟩
  · simp only [mapError_eq_error, verifyIdentity_eq_error_iff]
    constructor
    · rintro ⟨_, _, ⟨-, rfl⟩ | ⟨name, hname, hno, -⟩, heq⟩
      · cases heq
      · exact ⟨name, hname, hno⟩
    · rintro ⟨name, hname, hno⟩
      exact ⟨_, _, Or.inr ⟨name, hname, hno, rfl⟩, rfl⟩
  · refine verifyIdentity_congr (fun i hi => ?_) (fun j hj => ?_)
    · obtain ⟨j, hj, hsame⟩ := hall i hi
      exact ⟨j, hj, hsame.1⟩
    · obtain ⟨i, hi, hsame⟩ := hall' j hj
      exact ⟨i, hi, hsame.1⟩
  · exact verifyIdentity_relaxed (fun i hi => ⟨i, hsub hi, .refl i⟩) h
  · rintro before i after extensions name rfl hsub h
    -- Each identity of the list with more extensions is in the other one, or is the one that asks for more there.
    refine verifyIdentity_relaxed (List.forall_mem_append.mpr ⟨?_, List.forall_mem_cons.mpr ⟨?_, ?_⟩⟩) h
    · intro j hj
      exact ⟨j, List.mem_append_left _ hj, .refl j⟩
    · exact ⟨i, List.mem_append_right _ List.mem_cons_self, rfl, rfl, hsub⟩
    · intro j hj
      exact ⟨j, List.mem_append_right _ (List.mem_cons_of_mem _ hj), .refl j⟩

end Certificate

end ArtifactTrust
