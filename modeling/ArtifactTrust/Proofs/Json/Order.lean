import ArtifactTrust.Json.Scalar
import ArtifactTrust.Proofs.Json.Document
import ArtifactTrust.Proofs.Json.Record
import Mathlib.Data.List.Perm.Basic
import Mathlib.Logic.Relation

/-!
# Reading does not depend on the order of members

The members of an object anywhere in a document may be put in another order (`Outline.Permuted`, and `Source.Permuted` for the text
itself). A codec that reads records by the names of their members gives the same value then (`Codec.OrderFree`): values keep their
names, and the fields look at nothing but the values under each name (`Fields.OrderFree`).
-/

namespace ArtifactTrust.Json

open Success Relation

/-! ## Other orders -/

/-- Two outlines that differ in the order of the members of one object. -/
inductive Outline.Permuted : Outline → Outline → Prop where
  | members {ms ns : List (Outline × Outline)} (ending : Option Cause) (h : ms.Perm ns) :
      Permuted (.object ms ending) (.object ns ending)
  | inMember (before after : List (Outline × Outline)) (key : Outline) (ending : Option Cause) {o o' : Outline}
      (h : Permuted o o') : Permuted (.object (before ++ (key, o) :: after) ending) (.object (before ++ (key, o') :: after) ending)
  | inItem (before after : List Outline) (ending : Option Cause) {o o' : Outline} (h : Permuted o o') :
      Permuted (.array (before ++ o :: after) ending) (.array (before ++ o' :: after) ending)

/-- Two values that differ in the order of the members of one object. Members move with the white space around them. -/
inductive Source.Permuted : Source → Source → Prop where
  | members (gap : Gap) {ms ns : List (Keyed Source)} (h : ms.Perm ns) : Permuted (.object gap ms) (.object gap ns)
  | inMember (gap : Gap) (before after : List (Keyed Source)) (key : Placed StringSource) (left right : Gap) {v v' : Source}
      (h : Permuted v v') :
      Permuted (.object gap (before ++ ⟨key, left, v, right⟩ :: after)) (.object gap (before ++ ⟨key, left, v', right⟩ :: after))
  | inItem (gap : Gap) (before after : List (Placed Source)) (left right : Gap) {v v' : Source} (h : Permuted v v') :
      Permuted (.array gap (before ++ ⟨left, v, right⟩ :: after)) (.array gap (before ++ ⟨left, v', right⟩ :: after))

/-- Two documents that differ in the order of the members of any of their objects. White space and the spelling of strings may
differ too. -/
def Document.Reordered (d d' : Document) : Prop := ReflTransGen Outline.Permuted d.inner.outline d'.inner.outline

namespace Source

theorem itemOutlines_eq_map (items : List (Placed Source)) : itemOutlines items = items.map fun item => item.inner.outline := by
  induction items with
  | nil => rfl
  | cons item items ih =>
    obtain ⟨_, _, _⟩ := item
    rw [itemOutlines, ih]
    rfl

theorem memberOutlines_eq_map (members : List (Keyed Source)) :
    memberOutlines members = members.map fun m => (.string m.key.inner.content, m.value.inner.outline) := by
  induction members with
  | nil => rfl
  | cons member members ih =>
    obtain ⟨_, _, _, _⟩ := member
    rw [memberOutlines, ih]
    rfl

/-- What is read of a value in another order is what is read of it, in another order. -/
theorem Permuted.outline {v v' : Source} (h : v.Permuted v') : v.outline.Permuted v'.outline := by
  induction h with
  | members gap h =>
    rw [Source.outline, Source.outline, memberOutlines_eq_map, memberOutlines_eq_map]
    exact .members none (h.map _)
  | inMember gap before after key left right _ ih =>
    simp only [Source.outline, memberOutlines_eq_map, List.map_append, List.map_cons]
    exact .inMember _ _ _ none ih
  | inItem gap before after left right _ ih =>
    simp only [Source.outline, itemOutlines_eq_map, List.map_append, List.map_cons]
    exact .inItem _ _ none ih

end Source

theorem Document.reordered_of_permuted {d d' : Document} (h : d.inner.Permuted d'.inner) : d.Reordered d' := .single h.outline

namespace Outline

theorem Permuted.ne_null {o o' : Outline} (h : o.Permuted o') : o ≠ .null ∧ o' ≠ .null := by
  cases h <;> exact ⟨Outline.noConfusion, Outline.noConfusion⟩

/-- Two outlines that differ in the order of the members of at most one object. -/
def Near : Outline → Outline → Prop := ReflGen Permuted

/-- Two named values with one name that are near each other. -/
def NamedNear (m n : String × Outline) : Prop := m.1 = n.1 ∧ m.2.Near n.2

/-- One replacement in a list. -/
theorem forall₂_replace {α : Type} {r : α → α → Prop} (hrefl : ∀ a, r a a) {a a' : α} (h : r a a') (before after : List α) :
    List.Forall₂ r (before ++ a :: after) (before ++ a' :: after) := by
  have hsame : ∀ as : List α, List.Forall₂ r as as := fun as => List.forall₂_same.mpr fun a _ => hrefl a
  exact List.rel_append (hsame before) (.cons h (hsame after))

/-- An object in another order is an object: its members are in another order, or one of their values is. -/
theorem Permuted.exists_named {named : List (String × Outline)} {ending : Option Cause} {o' : Outline}
    (h : (Outline.object (named.map member) ending).Permuted o') : ∃ named', o' = .object (named'.map member) ending ∧
      (named.Perm named' ∨ List.Forall₂ NamedNear named named') := by
  generalize ho : Outline.object (named.map member) ending = o at h
  cases h with
  | @members _ ns _ h =>
    obtain ⟨rfl, rfl⟩ := Outline.object.inj ho
    have hcomp : Comp (fun ms named => ms = named.map member) List.Perm ns named := by
      rw [List.eq_map_comp_perm]
      exact h.symm
    obtain ⟨named', rfl, hperm⟩ := hcomp
    exact ⟨named', rfl, .inl hperm.symm⟩
  | @inMember before after key _ v v' h =>
    obtain ⟨hmembers, rfl⟩ := Outline.object.inj ho
    obtain ⟨before, rest, rfl, rfl, hrest⟩ := List.map_eq_append_iff.mp hmembers
    obtain ⟨m, after, rfl, hm, rfl⟩ := List.map_eq_cons_iff.mp hrest
    obtain ⟨rfl, rfl⟩ := Prod.mk.inj hm
    refine ⟨before ++ (m.1, v') :: after, by simp [member], .inr ?_⟩
    exact forall₂_replace (fun _ => ⟨rfl, .refl⟩) ⟨rfl, .single h⟩ before after
  | inItem => cases ho

/-- An array in another order is an array with an item in another order. -/
theorem Permuted.exists_items {os : List Outline} {ending : Option Cause} {o' : Outline}
    (h : (Outline.array os ending).Permuted o') : ∃ os', o' = .array os' ending ∧ List.Forall₂ Near os os' := by
  cases h with
  | inItem before after _ h => exact ⟨_, rfl, forall₂_replace (fun _ => .refl) (.single h) before after⟩

theorem valuesUnder_perm {named named' : List (String × Outline)} (h : named.Perm named') (name : String) :
    (valuesUnder name named).Perm (valuesUnder name named') := (h.filter _).map _

theorem valuesUnder_near {named named' : List (String × Outline)} (h : List.Forall₂ NamedNear named named') (name : String) :
    List.Forall₂ Near (valuesUnder name named) (valuesUnder name named') := by
  induction h with
  | nil => exact .nil
  | @cons m n named named' hm _ ih =>
    obtain ⟨key, o⟩ := m
    obtain ⟨key', o'⟩ := n
    obtain ⟨rfl, ho⟩ := hm
    by_cases hkey : key = name
    · subst hkey
      rw [valuesUnder_cons_self, valuesUnder_cons_self]
      exact .cons ho ih
    · rw [valuesUnder_cons_of_ne hkey, valuesUnder_cons_of_ne hkey]
      exact ih

/-- A record in another order gives a field the same values in another order, or in the same order and near them. -/
theorem Permuted.valuesFor {names : List String} {o o' : Outline} (hcomplete : o.Complete names) (h : o.Permuted o')
    (name : String) (place : Nat) : (o.valuesFor name place).Perm (o'.valuesFor name place) ∨
      List.Forall₂ Near (o.valuesFor name place) (o'.valuesFor name place) := by
  cases o with
  | object members ending =>
    obtain ⟨-, named, rfl, -⟩ := hcomplete
    obtain ⟨named', rfl, hnamed⟩ := h.exists_named
    rw [valuesFor_member, valuesFor_member]
    exact hnamed.imp (valuesUnder_perm · name) (valuesUnder_near · name)
  | array items ending =>
    obtain ⟨items', rfl, hnear⟩ := h.exists_items
    refine .inr ?_
    show List.Forall₂ Near items[place]?.toList items'[place]?.toList
    clear h hcomplete
    induction hnear generalizing place with
    | nil => exact .nil
    | cons ho _ ih =>
      cases place with
      | zero => exact .cons ho .nil
      | succ place =>
        rw [List.getElem?_cons_succ, List.getElem?_cons_succ]
        exact ih place
  | _ => exact hcomplete.elim

/-- What holds of every named value holds of them in another order, if it does not depend on the order within a value. -/
theorem forall_named {named named' : List (String × Outline)}
    (h : named.Perm named' ∨ List.Forall₂ NamedNear named named') {P : String → Outline → Prop}
    (hP : ∀ name o o', o.Permuted o' → P name o → P name o') (hall : ∀ m ∈ named, P m.1 m.2) : ∀ m ∈ named', P m.1 m.2 := by
  rcases h with hperm | hnear
  · exact fun m hm => hall m (hperm.mem_iff.mpr hm)
  · induction hnear with
    | nil => exact fun m hm => nomatch hm
    | @cons m m' named named' hm _ ih =>
      obtain ⟨hfirst, hrest⟩ := List.forall_mem_cons.mp hall
      refine List.forall_mem_cons.mpr ⟨?_, ih hrest⟩
      obtain ⟨hname, hvalue⟩ := hm
      rw [← hname]
      generalize m'.2 = o' at hvalue
      cases hvalue with
      | refl => exact hfirst
      | single hvalue => exact hP m.1 m.2 o' hvalue hfirst

theorem Permuted.passOver {o o' : Outline} (h : o.Permuted o') (ho : o.passOver = .ok ()) : o'.passOver = .ok () := by
  induction h with
  | members ending h =>
    rw [Outline.passOver, passMembers_eq_ok_iff] at ho ⊢
    exact ⟨ho.1, fun m hm => ho.2 m (h.mem_iff.mpr hm)⟩
  | inMember before after key ending _ ih =>
    rw [Outline.passOver, passMembers_eq_ok_iff, List.forall_mem_append, List.forall_mem_cons] at ho ⊢
    obtain ⟨hending, hbefore, ho, hafter⟩ := ho
    exact ⟨hending, hbefore, ih ho, hafter⟩
  | inItem before after ending _ ih =>
    rw [Outline.passOver, passItems_eq_ok_iff, List.forall_mem_append, List.forall_mem_cons] at ho ⊢
    obtain ⟨hending, hbefore, ho, hafter⟩ := ho
    exact ⟨hending, hbefore, ih ho, hafter⟩

theorem Permuted.readAll {o o' : Outline} (h : o.Permuted o') {depth : Nat} (ho : o.readAll depth = .ok ()) :
    o'.readAll depth = .ok () := by
  induction h generalizing depth with
  | members ending h =>
    rw [Outline.readAll] at ho ⊢
    split at ho
    case isTrue => cases ho
    case isFalse hroom =>
      rw [if_neg hroom]
      rw [readMembers_eq_ok_iff] at ho ⊢
      exact ⟨ho.1, fun m hm => ho.2 m (h.mem_iff.mpr hm)⟩
  | inMember before after key ending _ ih =>
    rw [Outline.readAll] at ho ⊢
    split at ho
    case isTrue => cases ho
    case isFalse hroom =>
      rw [if_neg hroom]
      rw [readMembers_eq_ok_iff, List.forall_mem_append, List.forall_mem_cons] at ho ⊢
      obtain ⟨hending, hbefore, ⟨hkey, ho⟩, hafter⟩ := ho
      exact ⟨hending, hbefore, ⟨hkey, ih ho⟩, hafter⟩
  | inItem before after ending _ ih =>
    rw [Outline.readAll] at ho ⊢
    split at ho
    case isTrue => cases ho
    case isFalse hroom =>
      rw [if_neg hroom]
      rw [readItems_eq_ok_iff, List.forall_mem_append, List.forall_mem_cons] at ho ⊢
      obtain ⟨hending, hbefore, ho, hafter⟩ := ho
      exact ⟨hending, hbefore, ih ho, hafter⟩

end Outline

open Outline

/-! ## Values that are not records -/

/-- A codec reads a value alike in every order. -/
def Codec.OrderFree {α : Type} (c : Codec α) : Prop :=
  ∀ ⦃p : Place⦄ ⦃o o' : Outline⦄ ⦃a : α⦄, o.Permuted o' → c.read p o = .ok a → c.read p o' = .ok a

namespace Codec

variable {α : Type}

theorem OrderFree.near {c : Codec α} (h : c.OrderFree) {p : Place} {o o' : Outline} {a : α} (ho : o.Near o')
    (hread : c.read p o = .ok a) : c.read p o' = .ok a := by
  cases ho with
  | refl => exact hread
  | single ho => exact h ho hread

/-- What is read from no container has no order. -/
theorem orderFree_text : text.OrderFree := by
  intro p o o' s ho hread
  cases ho <;> cases hread

theorem orderFree_ofText {parse? : String → Option α} {render : α → String} : (ofText parse? render).OrderFree := by
  intro p o o' a ho hread
  cases ho <;> cases hread

theorem orderFree_int64 : int64.OrderFree := by
  intro p o o' n ho hread
  cases ho <;>
    · simp only [int64] at hread
      split at hread <;> simp at hread

/-- A name may stand in an object, but only alone and with `null`. -/
theorem orderFree_oneOf {choices : List (String × α)} {name : α → String} : (oneOf choices name).OrderFree := by
  intro p o o' a ho hread
  cases o with
  | object ms ending =>
    cases ms with
    | nil =>
      simp only [oneOf, bind_eq_ok] at hread
      obtain ⟨_, _, hread⟩ := hread
      cases hread
    | cons m rest =>
      obtain ⟨key, value⟩ := m
      -- Only one member is read, and its value has no order.
      have halone : value = .null ∧ rest = [] := by
        simp only [oneOf, bind_eq_ok] at hread
        obtain ⟨_, _, _, _, hread⟩ := hread
        split at hread
        case h_1 =>
          split at hread
          case isTrue hempty => exact ⟨rfl, List.isEmpty_iff.mp hempty⟩
          case isFalse => cases hread
        case h_2 =>
          obtain ⟨_, hkind, _⟩ := bind_eq_ok.mp hread
          exact absurd hkind wrongKind_ne_ok
      obtain ⟨rfl, rfl⟩ := halone
      suffices o' = .object [(key, .null)] ending by rwa [this]
      generalize hms : [(key, Outline.null)] = ms at ho
      cases ho with
      | members _ h =>
        subst hms
        rw [List.singleton_perm.mp h]
      | inMember before after _ _ h =>
        cases before with
        | nil =>
          cases hms
          cases h
        | cons => simp at hms
  | array => cases hread
  | _ => cases ho

theorem OrderFree.list {c : Codec α} (h : c.OrderFree) : (Codec.list c).OrderFree := by
  intro p o o' as ho hread
  cases o with
  | array os ending =>
    obtain ⟨os', rfl, hnear⟩ := ho.exists_items
    simp only [Codec.list, readItems_eq_ok_iff] at hread ⊢
    refine ⟨hread.1, ?_⟩
    have hitems := hread.2
    clear hread ho
    induction hnear generalizing as with
    | nil => exact hitems
    | cons ho _ ih =>
      obtain ⟨a, as, ha, has, rfl⟩ := List.forall₂_cons_left_iff.mp hitems
      exact .cons (h.near ho ha) (ih has)
  | object => cases hread
  | _ => cases ho

theorem OrderFree.orNull {c : Codec α} (h : c.OrderFree) : c.orNull.OrderFree := by
  intro p o o' a ho hread
  obtain ⟨hnull, hnull'⟩ := ho.ne_null
  rw [orNull_read_of_ne c p hnull] at hread
  rw [orNull_read_of_ne c p hnull']
  obtain ⟨b, hb, rfl⟩ := map_eq_ok.mp hread
  exact map_eq_ok.mpr ⟨b, h ho hb, rfl⟩

end Codec

/-! ## Records -/

namespace Fields

variable {R α β : Type}

/-- A field finds the same among the same values in another order: if there are two, it finds nothing. -/
theorem FoundAmong.perm {read : Outline → Except Cause α} {absent : Option α} {os os' : List Outline} {a : α}
    (h : FoundAmong read absent os a) (hperm : os.Perm os') : FoundAmong read absent os' a := by
  match os, h with
  | [], h =>
    rw [List.nil_perm.mp hperm]
    exact h
  | [o], h =>
    rw [← List.singleton_perm.mp hperm]
    exact h

/-- A field finds the same in a value that is read alike. -/
theorem FoundAmong.near {read : Outline → Except Cause α} {absent : Option α} {os os' : List Outline} {a : α}
    (h : FoundAmong read absent os a) (hnear : List.Forall₂ Near os os')
    (hread : ∀ o ∈ os, ∀ o', o.Permuted o' → read o = .ok a → read o' = .ok a) : FoundAmong read absent os' a := by
  match os, os', hnear, h with
  | [], [], _, h => exact h
  | [o], [o'], .cons ho .nil, h =>
    cases ho with
    | refl => exact h
    | single ho => exact hread o List.mem_cons_self o' ho h

/-- Fields find the same in members in another order. -/
structure OrderFree (f : Fields R α) (names : List String) : Prop where
  knows : f.Knows names
  found : ∀ ⦃p named named' a⦄, (named.Perm named' ∨ List.Forall₂ NamedNear named named') →
    f.Found p named a → f.Found p named' a
  items : ∀ ⦃p ending os os' a rest⦄, List.Forall₂ Near os os' → f.takeItems p ending os = .ok (a, rest) →
    ∃ rest', f.takeItems p ending os' = .ok (a, rest') ∧ List.Forall₂ Near rest rest'

/-- A field takes the first item. -/
theorem takeItems_one_near {name : String} {read : Place → Outline → Except Cause α} {absent : Option α} {put : R → Option Value}
    {p : Place} {ending : Option Cause} {os os' rest : List Outline} {a : α} (h : List.Forall₂ Near os os')
    (htake : (one name read absent put).takeItems p ending os = .ok (a, rest))
    (hread : ∀ o ∈ os.head?, ∀ o', o.Permuted o' → read p o = .ok a → read p o' = .ok a) :
    ∃ rest', (one name read absent put).takeItems p ending os' = .ok (a, rest') ∧ List.Forall₂ Near rest rest' := by
  rcases takeItems_one.mp htake with ⟨o, rfl, ho⟩ | ⟨rfl, rfl, hending, habsent⟩
  · obtain ⟨o', rest', hnear, hrest, rfl⟩ := List.forall₂_cons_left_iff.mp h
    refine ⟨rest', takeItems_one.mpr (.inl ⟨o', rfl, ?_⟩), hrest⟩
    cases hnear with
    | refl => exact ho
    | single hnear => exact hread o rfl o' hnear ho
  · cases h
    exact ⟨[], takeItems_one.mpr (.inr ⟨rfl, rfl, hending, habsent⟩), .nil⟩

theorem orderFree_one {name : String} {c : Codec α} {absent : Option α} {put : R → Option Value} (h : c.OrderFree) :
    (one name c.read absent put).OrderFree [name] where
  knows := knows_one
  found := by
    intro p named named' a hnamed hfound
    rw [found_one] at hfound ⊢
    rcases hnamed with hperm | hnear
    · exact hfound.perm (valuesUnder_perm hperm name)
    · exact hfound.near (valuesUnder_near hnear name) fun o _ o' ho => h ho
  items := fun _ _ _ _ _ _ hnear htake => takeItems_one_near hnear htake fun o _ o' ho => h ho

theorem orderFree_required {name : String} {c : Codec α} (h : c.OrderFree) (get : R → α) :
    (required name c get).OrderFree [name] := orderFree_one h

theorem orderFree_withDefault {name : String} {c : Codec α} (h : c.OrderFree) (absent : α) (get : R → α) :
    (withDefault name c absent get).OrderFree [name] := orderFree_one h

theorem orderFree_optional {name : String} {c : Codec α} (h : c.OrderFree) (get : R → Option α) :
    (optional name c get).OrderFree [name] := orderFree_one h.orNull

theorem OrderFree.and {f : Fields R α} {g : Fields R β} {fs gs : List String} (hf : f.OrderFree fs) (hg : g.OrderFree gs)
    (hdisjoint : ∀ name ∈ fs, name ∉ gs) : (f.and g).OrderFree (fs ++ gs) where
  knows := hf.knows.and hg.knows
  found := by
    rintro p named named' ⟨a, b⟩ hnamed hfound
    rw [found_and hf.knows hg.knows hdisjoint] at hfound ⊢
    exact ⟨hf.found hnamed hfound.1, hg.found hnamed hfound.2⟩
  items := by
    rintro p ending os os' ⟨a, b⟩ rest hnear htake
    obtain ⟨middle, hfirst, hsecond⟩ := takeItems_and.mp htake
    obtain ⟨middle', hfirst, hmiddle⟩ := hf.items hnear hfirst
    obtain ⟨rest', hsecond, hrest⟩ := hg.items hmiddle hsecond
    exact ⟨rest', takeItems_and.mpr ⟨middle', hfirst, hsecond⟩, hrest⟩

/-- Fields find the same in a record in another order, written as an object or as an array. -/
theorem OrderFree.read {f : Fields R α} {names : List String} (h : f.OrderFree names) {p : Place} {o o' : Outline} {a : α}
    (ho : o.Permuted o') (hread : f.read p o = .ok a) : f.read p o' = .ok a := by
  cases o with
  | object ms ending =>
    obtain ⟨rfl, named, rfl, hfound, hpass⟩ := (read_object_eq_ok_iff h.knows).mp hread
    obtain ⟨named', rfl, hnamed⟩ := ho.exists_named
    have hpass := forall_named hnamed (P := fun name o => name ∉ names → o.passOver = .ok ())
      (fun _ _ _ ho hpass hname => ho.passOver (hpass hname)) hpass
    exact (read_object_eq_ok_iff h.knows).mpr ⟨rfl, named', rfl, h.found hnamed hfound, hpass⟩
  | array os ending =>
    obtain ⟨rfl, htake⟩ := read_array_eq_ok_iff.mp hread
    obtain ⟨os', rfl, hnear⟩ := ho.exists_items
    obtain ⟨rest', htake, hrest⟩ := h.items hnear htake
    cases hrest
    exact read_array_eq_ok_iff.mpr ⟨rfl, htake⟩
  | _ => cases ho

/-- A record is read alike in every order. -/
theorem OrderFree.codec {f : Fields R α} {names : List String} (h : f.OrderFree names) (make : α → R) :
    (f.codec make).OrderFree := by
  intro p o o' r ho hread
  obtain ⟨a, hfields, rfl⟩ := map_eq_ok.mp hread
  exact map_eq_ok.mpr ⟨a, h.read ho hfields, rfl⟩

end Fields

end ArtifactTrust.Json
