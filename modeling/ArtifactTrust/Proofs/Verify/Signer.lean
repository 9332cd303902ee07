import ArtifactTrust.Proofs.Path.Verify
import ArtifactTrust.Proofs.Success
import ArtifactTrust.Verify.Verifier

/-!
# What a signer has to show

Who signed (`Verifier.Resolves`), when (`Bundle.IsPromisedTime`), and on which path to an authority (`Verifier.IsFirstPath`).
Each is stated without the way it is found, beside a statement that the verifier finds exactly this.
-/

namespace ArtifactTrust

open Success

/-! ## The signer -/

/-- What a bundle tells of its signer resolves: all certificates can be read, or the verifier has a key for the hint. -/
inductive Verifier.Resolves (v : Verifier) : SignerSource → Signer → Prop
  | certificate {der : Bytes} {leaf : Certificate} (h : Certificate.parse der = .ok leaf) :
      v.Resolves (.certificate der) (.certificate leaf [])
  | chain {der : Bytes} {ders : List Bytes} {leaf : Certificate} {chain : List Certificate}
      (hleaf : Certificate.parse der = .ok leaf) (hchain : List.Forall₂ (fun d c => Certificate.parse d = .ok c) ders chain) :
      v.Resolves (.chain (der :: ders)) (.certificate leaf chain)
  | key {hint : String} {k : PublicKey} (h : v.keys.lookup hint = some k) : v.Resolves (.keyHint hint) (.key k)

theorem Verifier.signerOf_eq_ok_iff {v : Verifier} {source : SignerSource} {signer : Signer} :
    v.signerOf source = .ok signer ↔ v.Resolves source signer := by
  unfold signerOf certificateOf
  split
  · simp only [bind_eq_ok, mapError_eq_ok, pure_eq_ok]
    constructor
    · rintro ⟨leaf, h, rfl⟩
      exact .certificate h
    · rintro ⟨h⟩
      exact ⟨_, h, rfl⟩
  · simp only [reduceCtorEq, false_iff]
    rintro ⟨⟩
  · simp only [bind_eq_ok, mapM_eq_ok, mapError_eq_ok, pure_eq_ok]
    constructor
    · rintro ⟨chain, hchain, leaf, hleaf, rfl⟩
      exact .chain hleaf hchain
    · rintro ⟨⟩
      rename_i leaf chain hleaf hchain
      exact ⟨chain, hchain, leaf, hleaf, rfl⟩
  · simp only [elim_eq_ok, Except.ok.injEq]
    constructor
    · rintro ⟨k, h, rfl⟩
      exact .key h
    · rintro ⟨⟩
      rename_i k h
      exact ⟨k, h, rfl⟩

/-- There is only one signer that a bundle tells of. -/
theorem Verifier.Resolves.unique {v : Verifier} {source : SignerSource} {signer signer' : Signer}
    (h : v.Resolves source signer) (h' : v.Resolves source signer') : signer = signer' :=
  Except.ok.inj ((signerOf_eq_ok_iff.mpr h).symm.trans (signerOf_eq_ok_iff.mpr h'))

/-! ## The promised time -/

namespace Bundle

/-- The earliest time of the entries with a promise, or none if no entry has one. The time has to be representable. -/
def IsPromisedTime (b : Bundle) : Option Instant → Prop
  | none => ∀ e ∈ b.entries, e.promise = none
  | some t => ∃ e ∈ b.entries, e.promise.isSome = true ∧ e.time? = some t ∧
      ∀ other ∈ b.entries, other.promise.isSome = true → e.integratedTime ≤ other.integratedTime

theorem mem_promised {b : Bundle} {e : LogEntry} : e ∈ b.promised ↔ e ∈ b.entries ∧ e.promise.isSome = true :=
  List.mem_filter

theorem earliest?_eq_none {es : List LogEntry} (h : earliest? es = none) : es = [] := by
  cases es with
  | nil => rfl
  | cons e es =>
    rw [earliest?] at h
    split at h
    · cases h
    · split at h <;> cases h

/-- The earliest entry is one of them, and none is earlier. -/
theorem earliest?_eq_some {es : List LogEntry} {e : LogEntry} (h : earliest? es = some e) :
    e ∈ es ∧ ∀ other ∈ es, e.integratedTime ≤ other.integratedTime := by
  induction es generalizing e with
  | nil => cases h
  | cons d es ih =>
    rw [earliest?] at h
    cases hf : earliest? es with
    | none =>
      rw [hf, Option.some.injEq] at h
      subst h
      rw [earliest?_eq_none hf]
      simp
    | some first =>
      obtain ⟨hm, hle⟩ := ih hf
      simp only [hf] at h
      split at h
      · rename_i hd
        rw [Option.some.injEq] at h
        subst h
        exact ⟨List.mem_cons_self, List.forall_mem_cons.mpr
          ⟨Int64.le_refl _, fun other ho => Int64.le_trans hd (hle other ho)⟩⟩
      · rename_i hd
        rw [Option.some.injEq] at h
        subst h
        exact ⟨List.mem_cons_of_mem _ hm, List.forall_mem_cons.mpr
          ⟨(Int64.le_total _ _).resolve_left hd, hle⟩⟩

theorem instantOf_eq_ok_iff {e : LogEntry} {t : Instant} : instantOf e = .ok t ↔ e.time? = some t := by
  simp [instantOf]

theorem promisedTime_eq_ok_iff {b : Bundle} {promised : Option Instant} :
    b.promisedTime = .ok promised ↔ b.IsPromisedTime promised := by
  unfold promisedTime
  cases hf : earliest? b.promised with
  | none =>
    have hnone : ∀ e ∈ b.entries, e.promise = none := by
      simpa [Bundle.promised] using earliest?_eq_none hf
    simp only [Except.ok.injEq]
    cases promised with
    | none => exact ⟨fun _ => hnone, fun _ => rfl⟩
    | some t =>
      simp only [reduceCtorEq, false_iff]
      rintro ⟨e, he, hp, -⟩
      rw [hnone e he] at hp
      cases hp
  | some e =>
    obtain ⟨hm, hle⟩ := earliest?_eq_some hf
    obtain ⟨he, hp⟩ := mem_promised.mp hm
    simp only [map_eq_ok, instantOf_eq_ok_iff]
    constructor
    · rintro ⟨t, ht, rfl⟩
      exact ⟨e, he, hp, ht, fun other ho hop => hle other (mem_promised.mpr ⟨ho, hop⟩)⟩
    · intro h
      cases promised with
      | none =>
        rw [h e he] at hp
        cases hp
      | some t =>
        obtain ⟨first, hf, hfp, ht, hmin⟩ := h
        -- Both are earliest, so they are of the same time.
        have heq : e.integratedTime = first.integratedTime :=
          Int64.le_antisymm (hle first (mem_promised.mpr ⟨hf, hfp⟩)) (hmin e he hp)
        exact ⟨t, by rw [LogEntry.time?, heq]; exact ht, rfl⟩

end Bundle

/-! ## The path to an authority -/

/-- A path is that of a leaf to the first of some authorities that it has a verified one to. Only authorities that are trusted
at the instant are asked. -/
def Verifier.IsFirstPath (leaf : Certificate) (chain : List Certificate) (t : Instant) (path : List Certificate)
    (authorities : List Authority) : Prop :=
  ∃ before a after, authorities = before ++ a :: after ∧ a.validFor.contains t = true ∧
    Path.verify leaf a.certificates chain t = .ok path ∧
    ∀ d ∈ before, d.validFor.contains t = true → ∀ other, Path.verify leaf d.certificates chain t ≠ .ok other

namespace Verifier

variable {leaf : Certificate} {chain : List Certificate} {t : Instant} {path : List Certificate} {a : Authority}
  {authorities : List Authority}

/-- An authority that is not asked, or has no path, leaves the question to the others. -/
theorem isFirstPath_cons_of_none
    (h : a.validFor.contains t = true → ∀ other, Path.verify leaf a.certificates chain t ≠ .ok other) :
    IsFirstPath leaf chain t path (a :: authorities) ↔ IsFirstPath leaf chain t path authorities := by
  constructor
  · rintro ⟨before, b, after, heq, hb, hv, hbefore⟩
    cases before with
    | nil =>
      obtain ⟨rfl, -⟩ := List.cons.inj heq
      exact absurd hv (h hb path)
    | cons d before => exact ⟨before, b, after, (List.cons.inj heq).2, hb, hv, (List.forall_mem_cons.mp hbefore).2⟩
  · rintro ⟨before, b, after, rfl, hb, hv, hbefore⟩
    exact ⟨a :: before, b, after, rfl, hb, hv, List.forall_mem_cons.mpr ⟨h, hbefore⟩⟩

/-- An authority that is asked and has a path settles the question. -/
theorem isFirstPath_cons_of_ok {found : List Certificate} (hc : a.validFor.contains t = true)
    (h : Path.verify leaf a.certificates chain t = .ok found) :
    IsFirstPath leaf chain t path (a :: authorities) ↔ found = path := by
  constructor
  · rintro ⟨before, b, after, heq, hb, hv, hbefore⟩
    cases before with
    | nil =>
      obtain ⟨rfl, -⟩ := List.cons.inj heq
      exact Except.ok.inj (h.symm.trans hv)
    | cons d before =>
      obtain ⟨rfl, -⟩ := List.cons.inj heq
      exact absurd h (hbefore a List.mem_cons_self hc found)
  · rintro rfl
    exact ⟨[], a, authorities, rfl, hc, h, by simp⟩

theorem firstPath_eq_ok_iff {answer : PathError} :
    firstPath leaf chain t answer (authorities.filter fun a => a.validFor.contains t) = .ok path ↔
      IsFirstPath leaf chain t path authorities := by
  induction authorities generalizing answer with
  | nil => simp [firstPath, IsFirstPath]
  | cons a authorities ih =>
    cases hc : a.validFor.contains t with
    | false =>
      rw [List.filter_cons_of_neg (by simp [hc]), ih, isFirstPath_cons_of_none (by simp [hc])]
    | true =>
      rw [List.filter_cons_of_pos (by simp [hc]), firstPath]
      cases hv : Path.verify leaf a.certificates chain t with
      | error fault => exact ih.trans (isFirstPath_cons_of_none (by simp [hv])).symm
      | ok found => rw [Except.ok.injEq, isFirstPath_cons_of_ok hc hv]

theorem findPath_eq_ok_iff {v : Verifier} :
    v.findPath leaf chain t = .ok path ↔ IsFirstPath leaf chain t path v.trust.authorities :=
  firstPath_eq_ok_iff

/-- On the path to an authority there is a certificate above the leaf. -/
theorem IsFirstPath.eq_cons_cons (h : IsFirstPath leaf chain t path authorities) :
    ∃ issuer above, path = leaf :: issuer :: above := by
  obtain ⟨_, _, _, _, _, hv, _⟩ := h
  exact Path.eq_cons_cons_of_verify hv

end Verifier

end ArtifactTrust
