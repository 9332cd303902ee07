import ArtifactTrust.Proofs.Json.Fields

/-!
# What values and records are read from

`Codec.ReadsFrom` says which values a codec reads, and what from. A record gives each of its fields some values: those under the
name of the field where it is written as an object, the one in the place of the field where it is written as an array. What a
description makes of a record depends on these values alone (`Fields.Makes.read_eq_ok_iff`), and for two descriptions, one after
the other, it is what each makes of its own (`Fields.Makes.and`).
-/

namespace ArtifactTrust.Json

open Success

/-- The values that a record gives each field, by the name and the place of the field. -/
abbrev Given := String → Nat → List Outline

/-- What is given to the fields behind the first ones. -/
def Given.behind (given : Given) (count : Nat) : Given := fun name place => given name (count + place)

namespace Fields

variable {R α β : Type}

/-- What fields with these names make of the values that a record gives them, in either form of the record. -/
structure Makes (f : Fields R α) (names : List String) (made : Place → Given → α → Prop) : Prop where
  knows : f.Knows names
  found : ∀ p named a, f.Found p named a ↔ made p (fun name _ => valuesUnder name named) a
  items : ∀ p items a rest, f.takeItems p none items = .ok (a, rest) ↔
    made p (fun _ place => items[place]?.toList) a ∧ rest = items.drop names.length

theorem makes_one {name : String} {read : Place → Outline → Except Cause α} {absent : Option α} {put : R → Option Value} :
    (one name read absent put).Makes [name] fun p given a => FoundAmong (read p) absent (given name 0) a where
  knows := knows_one
  found := fun _ _ _ => found_one
  items := by
    intro p items a rest
    rw [takeItems_one_eq_ok_iff, List.head?_eq_getElem?, List.length_singleton, List.drop_one]

theorem Makes.and {f : Fields R α} {g : Fields R β} {fs gs : List String} {F : Place → Given → α → Prop}
    {G : Place → Given → β → Prop} (hf : f.Makes fs F) (hg : g.Makes gs G) (hdisjoint : ∀ name ∈ fs, name ∉ gs) :
    (f.and g).Makes (fs ++ gs) fun p given ab => F p given ab.1 ∧ G p (given.behind fs.length) ab.2 where
  knows := hf.knows.and hg.knows
  found := by
    intro p named ab
    rw [found_and hf.knows hg.knows hdisjoint, hf.found, hg.found]
    rfl
  items := by
    intro p items ab rest
    -- The second description starts at the item where the first one has stopped.
    have hbehind : (fun _ place => (items.drop fs.length)[place]?.toList) =
        Given.behind (fun _ place => items[place]?.toList) fs.length := by
      funext name place
      rw [Given.behind, List.getElem?_drop]
    rw [takeItems_and, List.length_append, ← List.drop_drop, ← hbehind]
    simp only [hf.items, hg.items]
    constructor
    · rintro ⟨middle, ⟨hfirst, rfl⟩, hsecond, hrest⟩
      exact ⟨⟨hfirst, hsecond⟩, hrest⟩
    · rintro ⟨⟨hfirst, hsecond⟩, hrest⟩
      exact ⟨_, ⟨hfirst, rfl⟩, hsecond, hrest⟩

/-- A record is read if it is one for these names and gives the fields what they make a value of. -/
theorem Makes.read_eq_ok_iff {f : Fields R α} {names : List String} {made : Place → Given → α → Prop}
    (h : f.Makes names made) {p : Place} {o : Outline} {a : α} :
    f.read p o = .ok a ↔ o.Complete names ∧ made p.deeper (fun name place => o.valuesFor name place) a := by
  cases o with
  | object members ending =>
    rw [read_object_eq_ok_iff h.knows]
    constructor
    · rintro ⟨hending, named, rfl, hfound, hpass⟩
      simp only [Outline.valuesFor_member]
      exact ⟨⟨hending, named, rfl, hpass⟩, (h.found _ _ _).mp hfound⟩
    · rintro ⟨⟨hending, named, rfl, hpass⟩, hmade⟩
      simp only [Outline.valuesFor_member] at hmade
      exact ⟨hending, named, rfl, (h.found _ _ _).mpr hmade, hpass⟩
  | array items ending =>
    have hall : [] = items.drop names.length ↔ items.length ≤ names.length := by rw [eq_comm, List.drop_eq_nil_iff]
    rw [read_array_eq_ok_iff]
    constructor
    · rintro ⟨rfl, htake⟩
      obtain ⟨hmade, hrest⟩ := (h.items _ _ _ _).mp htake
      exact ⟨⟨rfl, hall.mp hrest⟩, hmade⟩
    · rintro ⟨⟨rfl, hlength⟩, hmade⟩
      exact ⟨rfl, (h.items _ _ _ _).mpr ⟨hmade, hall.mpr hlength⟩⟩
  | _ => simp only [Fields.read, Codec.wrongKind_ne_ok, Outline.Complete, false_and]

end Fields

/-! ## Values wherever they stand -/

/-- A codec reads a value from the outlines that have it, in every place. -/
def Codec.ReadsFrom {α : Type} (c : Codec α) (has : Outline → α → Prop) : Prop := ∀ p o a, c.read p o = .ok a ↔ has o a

namespace Codec

variable {α : Type} {c : Codec α} {has : Outline → α → Prop} {p : Place} {os : List Outline}

/-- A text is read from a string that is readable. -/
theorem readsFrom_text : text.ReadsFrom fun o s => o = .string (.ok s) := by
  intro p o s
  cases o with
  | string content => simp [text]
  | _ => simp only [text, wrongKind_ne_ok, reduceCtorEq]

theorem readItems_eq_ok_iff {read : Outline → Except Cause α} {ending : Option Cause} {as : List α} :
    readItems read ending os = .ok as ↔ ending = none ∧ List.Forall₂ (fun o a => read o = .ok a) os as := by
  induction os generalizing as with
  | nil =>
    rw [readItems, map_eq_ok, exists_unit_eq_ok, closed_eq_ok_iff, List.forall₂_nil_left_iff, eq_comm (a := as)]
  | cons o os ih =>
    simp only [readItems, bind_eq_ok, pure_eq_ok, ih, List.forall₂_cons_left_iff]
    constructor
    · rintro ⟨a, ha, as, ⟨hending, has⟩, rfl⟩
      exact ⟨hending, a, as, ha, has, rfl⟩
    · rintro ⟨hending, a, as, ha, has, rfl⟩
      exact ⟨a, ha, as, ⟨hending, has⟩, rfl⟩

/-- A list is read from an array that goes to its end, item by item. -/
theorem ReadsFrom.list (h : c.ReadsFrom has) :
    (Codec.list c).ReadsFrom fun o as => ∃ items, o = .array items none ∧ List.Forall₂ has items as := by
  intro p o as
  cases o with
  | array items ending =>
    simp only [Codec.list, readItems_eq_ok_iff, h p.deeper, Outline.array.injEq]
    constructor
    · rintro ⟨rfl, hitems⟩
      exact ⟨items, ⟨rfl, rfl⟩, hitems⟩
    · rintro ⟨_, ⟨rfl, rfl⟩, hitems⟩
      exact ⟨rfl, hitems⟩
  | _ => simp only [Codec.list, wrongKind_ne_ok, reduceCtorEq, false_and, exists_false]

/-- A required field is read from the only value that it is given. -/
theorem ReadsFrom.foundAmong_required (h : c.ReadsFrom has) {a : α} :
    Fields.FoundAmong (c.read p) none os a ↔ ∃ o, os = [o] ∧ has o a := by
  match os with
  | [] => simp [Fields.FoundAmong]
  | [o] => simp [Fields.FoundAmong, h p o]
  | _ :: _ :: _ => simp [Fields.FoundAmong]

/-- Where a field may be missing, nothing may be given to it. -/
theorem ReadsFrom.foundAmong_default (h : c.ReadsFrom has) {absent a : α} :
    Fields.FoundAmong (c.read p) (some absent) os a ↔ (os = [] ∧ a = absent) ∨ ∃ o, os = [o] ∧ has o a := by
  match os with
  | [] => simp [Fields.FoundAmong, eq_comm]
  | [o] => simp [Fields.FoundAmong, h p o]
  | _ :: _ :: _ => simp [Fields.FoundAmong]

/-- A field that may be missing may be `null` as well. -/
theorem ReadsFrom.foundAmong_optional (h : c.ReadsFrom has) (hnull : ∀ a, ¬has .null a) {a : Option α} :
    Fields.FoundAmong (c.orNull.read p) (some none) os a ↔
      ((os = [] ∨ os = [.null]) ∧ a = none) ∨ ∃ o b, os = [o] ∧ has o b ∧ a = some b := by
  match os with
  | [] => simp [Fields.FoundAmong, eq_comm]
  | [o] =>
    by_cases ho : o = .null
    · subst ho
      simp [Fields.FoundAmong, orNull, hnull, eq_comm]
    · rw [Fields.FoundAmong, orNull_read_of_ne c p ho, map_eq_ok]
      simp [h p o, ho, eq_comm (a := a)]
  | _ :: _ :: _ => simp [Fields.FoundAmong]

end Codec

/-! ## Records wherever they stand -/

namespace Fields

variable {R α β : Type} {name : String} {c : Codec α} {has : Outline → α → Prop}

/-- The same may be said of what fields make in other words. -/
theorem Makes.congr {f : Fields R α} {names : List String} {made made' : Place → Given → α → Prop} (h : f.Makes names made)
    (hsame : ∀ p given a, made p given a ↔ made' p given a) : f.Makes names made' where
  knows := h.knows
  found := fun p named a => (h.found p named a).trans (hsame _ _ _)
  items := fun p items a rest => (h.items p items a rest).trans (and_congr_left' (hsame _ _ _))

theorem makes_required (h : c.ReadsFrom has) (get : R → α) :
    (required name c get).Makes [name] fun _ given a => ∃ o, given name 0 = [o] ∧ has o a :=
  makes_one.congr fun _ _ _ => h.foundAmong_required

theorem makes_withDefault (h : c.ReadsFrom has) (absent : α) (get : R → α) :
    (withDefault name c absent get).Makes [name] fun _ given a =>
      (given name 0 = [] ∧ a = absent) ∨ ∃ o, given name 0 = [o] ∧ has o a :=
  makes_one.congr fun _ _ _ => h.foundAmong_default

theorem makes_optional (h : c.ReadsFrom has) (hnull : ∀ a, ¬has .null a) (get : R → Option α) :
    (optional name c get).Makes [name] fun _ given a =>
      ((given name 0 = [] ∨ given name 0 = [.null]) ∧ a = none) ∨ ∃ o b, given name 0 = [o] ∧ has o b ∧ a = some b :=
  makes_one.congr fun _ _ _ => h.foundAmong_optional hnull

/-- A record is read from what its fields are, wherever it stands, if they are. -/
theorem Makes.readsFrom_codec {f : Fields R α} {names : List String} {made : Given → α → Prop}
    (h : f.Makes names fun _ => made) (make : α → R) :
    (f.codec make).ReadsFrom fun o r => o.Complete names ∧ ∃ a, made (fun name place => o.valuesFor name place) a ∧ make a = r := by
  intro p o r
  show (f.read p o).map make = .ok r ↔ _
  rw [map_eq_ok]
  simp only [h.read_eq_ok_iff, and_assoc, exists_and_left]

end Fields

end ArtifactTrust.Json
