import ArtifactTrust.Json.Scalar
import ArtifactTrust.Proofs.Json.Fields
import ArtifactTrust.Proofs.Json.ReadBack
import ArtifactTrust.Proofs.Text.Base64

/-!
# What codecs write reads back

A codec reads what it writes (`Codec.ReadsBack`), and then a value that is written as text is parsed to the same value
(`Codec.ReadsBack.parse_eq_ok`). For a record it is enough that each of its fields finds in its own members the part of the record
that it was written from (`Fields.ReadsBack`): descriptions of different names do not disturb each other
(`Fields.ReadsBack.and`).
-/

namespace ArtifactTrust.Json

open Success

/-- At a place, a codec reads what it writes. -/
def Codec.ReadsBack {α : Type} (c : Codec α) (p : Place) : Prop := ∀ a, c.read p (c.write a).outline = .ok a

namespace Codec

variable {α : Type} {p : Place}

/-- A value that is written as text is parsed to the same value. -/
theorem ReadsBack.parse_eq_ok {c : Codec α} (h : c.ReadsBack .top) (a : α) : c.parse (c.render a) = .ok a := by
  simp only [parse, render, Outline.ofText_render, h a]
  rfl

theorem readsBack_text : text.ReadsBack p := fun _ => rfl

theorem readsBack_ofText {parse? : String → Option α} {render : α → String} (h : ∀ a, parse? (render a) = some a) :
    (ofText parse? render).ReadsBack p := by
  intro a
  simp only [ofText, text, Value.outline, bind, Except.bind, h]

theorem readsBack_octets : octets.ReadsBack p := readsBack_ofText Base64.decode?_encode

theorem readsBack_sha256 : sha256.ReadsBack p := by
  refine readsBack_ofText fun a => ?_
  rw [Sha256Value.ofBase64, Sha256Value.base64, Base64.decode?_encode]
  simp only [Sha256Value.ofOctets, a.size, dif_pos]
  rfl

theorem readsBack_int64 : int64.ReadsBack p := by
  intro n
  simp only [int64, Value.outline, bind, Except.bind, Int64Text.parse?_render]

theorem readsBack_digestAlgorithm : digestAlgorithm.ReadsBack p := by
  intro a
  cases a <;> rfl

theorem itemOutlines_eq_map (vs : List Value) : Value.itemOutlines vs = vs.map Value.outline := by
  induction vs with
  | nil => rfl
  | cons v vs ih => rw [Value.itemOutlines, ih, List.map_cons]

theorem readItems_map {read : Outline → Except Cause α} {write : α → Value} (h : ∀ a, read (write a).outline = .ok a)
    (as : List α) : readItems read none (as.map fun a => (write a).outline) = .ok as := by
  induction as with
  | nil => rfl
  | cons a as ih =>
    rw [List.map_cons, readItems, h, ih]
    rfl

theorem ReadsBack.list {c : Codec α} (h : c.ReadsBack p.deeper) : (Codec.list c).ReadsBack p := by
  intro as
  show readItems (c.read p.deeper) none (Value.itemOutlines (as.map c.write)) = .ok as
  rw [itemOutlines_eq_map, List.map_map]
  exact readItems_map h as

/-- What is written is not `null`, so `null` can stand for something else. -/
def NeverNull (c : Codec α) : Prop := ∀ a, c.write a ≠ .null

theorem orNull_read_write {c : Codec α} (h : c.ReadsBack p) (hnull : c.NeverNull) (a : α) :
    c.orNull.read p (c.write a).outline = .ok (some a) := by
  have hvalue : (c.write a).outline ≠ .null := by
    have hwrite := hnull a
    cases hv : c.write a <;> simp_all [Value.outline]
  rw [orNull_read_of_ne c p hvalue, h a]
  rfl

end Codec

/-! ## Records -/

/-- The members of a value as they are read. -/
def Value.named (ms : List (String × Value)) : List (String × Outline) := ms.map fun m => (m.1, m.2.outline)

theorem Value.memberOutlines_eq_map (ms : List (String × Value)) :
    memberOutlines ms = (named ms).map Outline.member := by
  induction ms with
  | nil => rfl
  | cons m ms ih =>
    obtain ⟨key, v⟩ := m
    rw [memberOutlines, ih]
    rfl

namespace Fields

variable {R α β : Type} {p : Place}

/-- The fields find in what they write the part of the record that `get` tells. -/
structure ReadsBack (f : Fields R α) (p : Place) (names : List String) (get : R → α) : Prop where
  knows : f.Knows names
  written : ∀ r, ∀ m ∈ f.write r, m.1 ∈ names
  found : ∀ r, f.Found p (Value.named (f.write r)) (get r)

theorem ReadsBack.named {f : Fields R α} {names : List String} {get : R → α} (h : f.ReadsBack p names get) (r : R) :
    ∀ m ∈ Value.named (f.write r), m.1 ∈ names := by
  intro m hm
  obtain ⟨member, hmember, rfl⟩ := List.mem_map.mp hm
  exact h.written r member hmember

/-- A field reads back if its value does, and what stands for it is right where it is not written. -/
theorem readsBack_one {name : String} {read : Place → Outline → Except Cause α} {absent : Option α} {put : R → Option Value}
    (get : R → α) (hput : ∀ r v, put r = some v → read p v.outline = .ok (get r))
    (habsent : ∀ r, put r = none → absent = some (get r)) : (one name read absent put).ReadsBack p [name] get where
  knows := knows_one
  written := by
    intro r m hm
    have hwrite : m ∈ (put r).elim [] fun v => [(name, v)] := by
      revert hm
      simp only [one]
      cases put r <;> exact id
    cases hput : put r <;> simp_all
  found := by
    intro r
    rw [found_one]
    have hwrite : (one name read absent put).write r = (put r).elim [] fun v => [(name, v)] := by
      simp only [one]
      cases put r <;> rfl
    rw [hwrite]
    cases h : put r with
    | none => exact habsent r h
    | some v =>
      have hvalues : valuesUnder name (Value.named [(name, v)]) = [v.outline] := by
        simp [Value.named, valuesUnder]
      simp only [Option.elim, hvalues]
      exact hput r v h

theorem readsBack_required {name : String} {c : Codec α} (h : c.ReadsBack p) (get : R → α) :
    (required name c get).ReadsBack p [name] get :=
  readsBack_one get (fun r _ hv => Option.some.inj hv ▸ h (get r)) (fun _ hnone => nomatch hnone)

theorem readsBack_withDefault {name : String} {c : Codec α} (h : c.ReadsBack p) (absent : α) (get : R → α) :
    (withDefault name c absent get).ReadsBack p [name] get :=
  readsBack_one get (fun r _ hv => Option.some.inj hv ▸ h (get r)) (fun _ hnone => nomatch hnone)

theorem readsBack_optional {name : String} {c : Codec α} (h : c.ReadsBack p) (hnull : c.NeverNull) (get : R → Option α) :
    (optional name c get).ReadsBack p [name] get := by
  refine readsBack_one get (fun r v hv => ?_) (fun r hnone => ?_)
  · obtain ⟨a, ha, rfl⟩ := Option.map_eq_some_iff.mp hv
    rw [Codec.orNull_read_write h hnull, ha]
  · rw [Option.map_eq_none_iff.mp hnone]

/-- Members of other names do not disturb what a description finds in its own. -/
theorem ReadsBack.found_filter {f : Fields R α} {names : List String} {get : R → α} (h : f.ReadsBack p names get) (r : R)
    {named : List (String × Outline)} (hnamed : named.filter (fun m => m.1 ∈ names) = Value.named (f.write r)) :
    f.Found p named (get r) := by
  rw [← h.knows.found_filter_iff, hnamed]
  exact h.found r

theorem ReadsBack.and {f : Fields R α} {g : Fields R β} {fs gs : List String} {get : R → α} {get' : R → β}
    (hf : f.ReadsBack p fs get) (hg : g.ReadsBack p gs get') (hdisjoint : ∀ name ∈ fs, name ∉ gs) :
    (f.and g).ReadsBack p (fs ++ gs) fun r => (get r, get' r) where
  knows := hf.knows.and hg.knows
  written := by
    intro r m hm
    rcases List.mem_append.mp hm with hm | hm
    · exact List.mem_append_left _ (hf.written r m hm)
    · exact List.mem_append_right _ (hg.written r m hm)
  found := by
    intro r
    have hnamed : Value.named ((f.and g).write r) = Value.named (f.write r) ++ Value.named (g.write r) := List.map_append
    have hfirst := hf.named r
    have hsecond := hg.named r
    rw [found_and hf.knows hg.knows hdisjoint, hnamed]
    refine ⟨hf.found_filter r ?_, hg.found_filter r ?_⟩
    · rw [List.filter_append, List.filter_eq_self.mpr fun m hm => decide_eq_true (hfirst m hm),
        List.filter_eq_nil_iff.mpr fun m hm => ?_, List.append_nil]
      simpa using fun hfs => hdisjoint _ hfs (hsecond m hm)
    · rw [List.filter_append, List.filter_eq_nil_iff.mpr fun m hm => ?_, List.nil_append,
        List.filter_eq_self.mpr fun m hm => decide_eq_true (hsecond m hm)]
      simpa using hdisjoint _ (hfirst m hm)

/-- A record reads back if its fields do and it can be made of them. -/
theorem ReadsBack.codec {f : Fields R α} {names : List String} {get : R → α} (h : f.ReadsBack p.deeper names get)
    {make : α → R} (hmake : ∀ r, make (get r) = r) : (f.codec make).ReadsBack p := by
  intro r
  have hread : f.read p (.object (Value.memberOutlines (f.write r)) none) = .ok (get r) := by
    rw [read_object_eq_ok_iff h.knows, Value.memberOutlines_eq_map]
    exact ⟨rfl, _, rfl, h.found r, fun m hm hother => absurd (h.named r m hm) hother⟩
  show (f.read p (.object (Value.memberOutlines (f.write r)) none)).map make = .ok r
  rw [hread]
  exact congrArg _ (hmake r)

theorem neverNull_codec {f : Fields R α} {make : α → R} : (f.codec make).NeverNull := fun _ h => nomatch h

end Fields

end ArtifactTrust.Json
