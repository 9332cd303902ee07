import ArtifactTrust.Json.Codec
import ArtifactTrust.Proofs.Success

/-!
# What a description reads from an object

The members of an object come one after the other, and each is offered to all fields. What comes of it is told here without the
order: a field finds the values under its name, and there is one of them, or none where it may be missing
(`Fields.found_one`); the parts of a description find what is theirs independently of each other (`Fields.found_and`). Every other
member is passed over (`Fields.read_object_eq_ok_iff`).
-/

namespace ArtifactTrust.Json

open Success

/-- A member with a readable name. -/
def Outline.member (m : String × Outline) : Outline × Outline := (.string (.ok m.1), m.2)

/-- The members of an object that have readable names. -/
def Outline.named : Outline → List (String × Outline)
  | .object members _ => members.filterMap fun m => match m.1 with
    | .string (.ok name) => some (name, m.2)
    | _ => none
  | _ => []

theorem Outline.named_member (named : List (String × Outline)) (ending : Option Cause) :
    (Outline.object (named.map member) ending).named = named := by
  rw [Outline.named, List.filterMap_map]
  exact List.filterMap_some

/-- The values under a name, in the order of the members. -/
def valuesUnder (name : String) (named : List (String × Outline)) : List Outline :=
  (named.filter fun m => m.1 = name).map Prod.snd

@[simp] theorem valuesUnder_nil (name : String) : valuesUnder name [] = [] := rfl

theorem valuesUnder_cons_self (name : String) (o : Outline) (named : List (String × Outline)) :
    valuesUnder name ((name, o) :: named) = o :: valuesUnder name named := by
  simp [valuesUnder]

theorem valuesUnder_cons_of_ne {name key : String} (h : key ≠ name) (o : Outline) (named : List (String × Outline)) :
    valuesUnder name ((key, o) :: named) = valuesUnder name named := by
  simp [valuesUnder, h]

theorem closed_eq_ok_iff {ending : Option Cause} {u : Unit} : closed ending = .ok u ↔ ending = none := by
  cases ending <;> simp [closed]

/-- A value of the wrong kind is not read. -/
theorem Codec.wrongKind_ne_ok {α : Type} {o : Outline} {a : α} : wrongKind o ≠ .ok a := by
  intro h
  cases o with
  | string content => cases content <;> cases h
  | number n =>
    obtain ⟨_, _, h⟩ := bind_eq_ok.mp h
    cases h
  | _ => cases h

/-- A value that may be `null` is read as it is where it is something else. -/
theorem Codec.orNull_read_of_ne {α : Type} (c : Codec α) (p : Place) {o : Outline} (h : o ≠ .null) :
    c.orNull.read p o = (c.read p o).map some := by
  cases o <;> first | rfl | exact absurd rfl h

namespace Outline

theorem memberName_eq_ok_iff {key o : Outline} {name : String} :
    key.memberName o = .ok name ↔ key = .string (.ok name) := by
  cases key <;> cases o <;> simp [memberName]

/-! ## Passing over a value, and reading all of it -/

theorem passItems_eq_ok_iff {ending : Option Cause} {os : List Outline} :
    passItems ending os = .ok () ↔ ending = none ∧ ∀ o ∈ os, o.passOver = .ok () := by
  induction os with
  | nil => cases ending <;> simp [passItems]
  | cons o os ih => rw [passItems, bind_eq_ok, exists_unit_eq_ok, ih, List.forall_mem_cons, and_left_comm]

theorem passMembers_eq_ok_iff {ending : Option Cause} {ms : List (Outline × Outline)} :
    passMembers ending ms = .ok () ↔ ending = none ∧ ∀ m ∈ ms, m.2.passOver = .ok () := by
  induction ms with
  | nil => cases ending <;> simp [passMembers]
  | cons m ms ih =>
    obtain ⟨key, o⟩ := m
    rw [passMembers, bind_eq_ok, exists_unit_eq_ok, ih, List.forall_mem_cons, and_left_comm]

theorem readItems_eq_ok_iff {depth : Nat} {ending : Option Cause} {os : List Outline} :
    readItems depth ending os = .ok () ↔ ending = none ∧ ∀ o ∈ os, o.readAll depth = .ok () := by
  induction os with
  | nil => cases ending <;> simp [readItems]
  | cons o os ih => rw [readItems, bind_eq_ok, exists_unit_eq_ok, ih, List.forall_mem_cons, and_left_comm]

theorem readMembers_eq_ok_iff {depth : Nat} {ending : Option Cause} {ms : List (Outline × Outline)} :
    readMembers depth ending ms = .ok () ↔ ending = none ∧
      ∀ m ∈ ms, (∃ name, m.1 = .string (.ok name)) ∧ m.2.readAll depth = .ok () := by
  induction ms with
  | nil => cases ending <;> simp [readMembers]
  | cons m ms ih =>
    obtain ⟨key, o⟩ := m
    have hkey : discard (key.memberName o) = .ok () ↔ ∃ name, key = .string (.ok name) := by
      simp only [← memberName_eq_ok_iff (o := o)]
      cases key.memberName o with
      | error cause => exact ⟨(nomatch ·), fun ⟨_, h⟩ => nomatch h⟩
      | ok name => exact ⟨fun _ => ⟨name, rfl⟩, fun _ => rfl⟩
    rw [readMembers, bind_eq_ok, exists_unit_eq_ok, bind_eq_ok, exists_unit_eq_ok, hkey, ih, List.forall_mem_cons, and_assoc]
    exact ⟨fun ⟨hkey, ho, hending, hms⟩ => ⟨hending, hkey, ho, hms⟩, fun ⟨hending, hkey, ho, hms⟩ => ⟨hkey, ho, hending, hms⟩⟩

/-! ## What a record gives its fields -/

/-- The values that a record gives a field: those under its name in an object, the one in its place in an array. -/
def valuesFor (name : String) (place : Nat) : Outline → List Outline
  | .array items _ => items[place]?.toList
  | o => valuesUnder name o.named

/-- A record for fields with these names: it goes to its end, and what they do not take can be passed over. -/
def Complete (names : List String) : Outline → Prop
  | .object members ending => ending = none ∧ ∃ named : List (String × Outline), members = named.map member ∧
      ∀ m ∈ named, m.1 ∉ names → m.2.passOver = .ok ()
  | .array items ending => ending = none ∧ items.length ≤ names.length
  | _ => False

theorem valuesFor_member (name : String) (place : Nat) (named : List (String × Outline)) (ending : Option Cause) :
    valuesFor name place (.object (named.map member) ending) = valuesUnder name named := by
  rw [valuesFor, named_member]
  exact fun _ _ h => nomatch h

end Outline

namespace Fields

variable {R α β : Type}

/-- One member offered to the fields. -/
def step (f : Fields R α) (p : Place) (slot : f.Slot) (m : String × Outline) : Except Cause f.Slot :=
  (f.take p slot m.1 m.2).getD (.ok slot)

/-- The fields find a value in members, all of them taken. -/
def Found (f : Fields R α) (p : Place) (named : List (String × Outline)) (a : α) : Prop :=
  ∃ slot, named.foldlM (f.step p) f.empty = .ok slot ∧ f.finish slot = .ok a

theorem found_mk {Slot : Type} {empty : Slot} {take : Place → Slot → String → Outline → Option (Except Cause Slot)}
    {finish : Slot → Except Cause α} {takeItems : Place → Option Cause → List Outline → Except Cause (α × List Outline)}
    {write : R → List (String × Value)} {p : Place} {named : List (String × Outline)} {a : α}
    (step : Slot → String × Outline → Except Cause Slot)
    (hstep : ∀ slot m, (take p slot m.1 m.2).getD (.ok slot) = step slot m) :
    (mk Slot empty take finish takeItems write).Found p named a ↔
      ∃ slot, named.foldlM step empty = .ok slot ∧ finish slot = .ok a := by
  have hstep : (fun slot m => (take p slot m.1 m.2).getD (.ok slot)) = step := funext₂ hstep
  rw [← hstep]
  rfl

/-- Which members the fields take is told by the names alone. -/
def Knows (f : Fields R α) (names : List String) : Prop :=
  ∀ p slot key o, (f.take p slot key o).isSome = true ↔ key ∈ names

theorem Knows.take_eq_none {f : Fields R α} {names : List String} (h : f.Knows names) {key : String} (hkey : key ∉ names)
    (p : Place) (slot : f.Slot) (o : Outline) : f.take p slot key o = none := by
  rw [← Option.not_isSome_iff_eq_none, h]
  exact hkey

theorem Knows.exists_take {f : Fields R α} {names : List String} (h : f.Knows names) {key : String} (hkey : key ∈ names)
    (p : Place) (slot : f.Slot) (o : Outline) : ∃ taken, f.take p slot key o = some taken :=
  Option.isSome_iff_exists.mp ((h p slot key o).mpr hkey)

/-- The members that no field takes change nothing. -/
theorem Knows.step_of_notMem {f : Fields R α} {names : List String} (h : f.Knows names) {m : String × Outline}
    (hm : m.1 ∉ names) (p : Place) (slot : f.Slot) : f.step p slot m = .ok slot := by
  rw [step, h.take_eq_none hm]
  rfl

/-- What the fields find is among the members that have one of their names. -/
theorem Knows.found_filter_iff {f : Fields R α} {names : List String} (h : f.Knows names) {p : Place}
    {named : List (String × Outline)} {a : α} :
    f.Found p (named.filter fun m => m.1 ∈ names) a ↔ f.Found p named a := by
  have hfold : ∀ slot, (named.filter fun m => m.1 ∈ names).foldlM (f.step p) slot = named.foldlM (f.step p) slot := by
    induction named with
    | nil => exact fun _ => rfl
    | cons m named ih =>
      intro slot
      by_cases hm : m.1 ∈ names
      · rw [List.filter_cons_of_pos (by simpa using hm), List.foldlM_cons, List.foldlM_cons]
        exact congrArg _ (funext ih)
      · rw [List.filter_cons_of_neg (by simpa using hm), List.foldlM_cons, h.step_of_notMem hm]
        exact ih slot
  simp only [Found, hfold]

theorem takeMembers_nil (f : Fields R α) (p : Place) (ending : Option Cause) (slot slot' : f.Slot) :
    f.takeMembers p ending slot [] = .ok slot' ↔ ending = none ∧ slot = slot' := by
  simp [takeMembers, closed_eq_ok_iff]

theorem takeMembers_cons {f : Fields R α} {names : List String} (h : f.Knows names) (p : Place) (ending : Option Cause)
    (slot slot' : f.Slot) (key o : Outline) (rest : List (Outline × Outline)) :
    f.takeMembers p ending slot ((key, o) :: rest) = .ok slot' ↔ ∃ name next, key = .string (.ok name) ∧
      f.step p slot (name, o) = .ok next ∧ (name ∉ names → o.passOver = .ok ()) ∧
        f.takeMembers p ending next rest = .ok slot' := by
  rw [takeMembers, bind_eq_ok]
  simp only [Outline.memberName_eq_ok_iff]
  refine exists_congr fun name => ?_
  by_cases hname : name ∈ names
  · obtain ⟨taken, htaken⟩ := h.exists_take hname p slot o
    simp [htaken, step, hname]
  · simp only [h.take_eq_none hname, h.step_of_notMem (m := (name, o)) hname, hname, not_false_eq_true, forall_const,
      bind_eq_ok, exists_unit_eq_ok, Except.ok.injEq, exists_and_left, exists_eq_left']

/-- All members are taken or passed over. -/
theorem takeMembers_eq_ok_iff {f : Fields R α} {names : List String} (h : f.Knows names) {p : Place} {ending : Option Cause}
    {slot slot' : f.Slot} {members : List (Outline × Outline)} :
    f.takeMembers p ending slot members = .ok slot' ↔ ending = none ∧ ∃ named : List (String × Outline),
      members = named.map Outline.member ∧ named.foldlM (f.step p) slot = .ok slot' ∧
        ∀ m ∈ named, m.1 ∉ names → m.2.passOver = .ok () := by
  induction members generalizing slot with
  | nil => simp [takeMembers_nil, pure, Except.pure]
  | cons m members ih =>
    obtain ⟨key, o⟩ := m
    simp only [takeMembers_cons h, ih]
    constructor
    · rintro ⟨name, next, rfl, hstep, hpass, hending, named, rfl, hfold, hrest⟩
      refine ⟨hending, (name, o) :: named, rfl, ?_, List.forall_mem_cons.mpr ⟨hpass, hrest⟩⟩
      rw [List.foldlM_cons, bind_eq_ok]
      exact ⟨next, hstep, hfold⟩
    · rintro ⟨hending, named, hmembers, hfold, hpass⟩
      cases named with
      | nil => cases hmembers
      | cons m named =>
        obtain ⟨hm, hnamed⟩ := List.cons.inj hmembers
        cases hm
        rw [List.foldlM_cons, bind_eq_ok] at hfold
        obtain ⟨next, hstep, hfold⟩ := hfold
        obtain ⟨hm, hpass⟩ := List.forall_mem_cons.mp hpass
        exact ⟨m.1, next, rfl, hstep, hm, hending, named, hnamed, hfold, hpass⟩

/-- An object is read if it goes to its end, every name is readable, the fields find their values and every other value can be
passed over. -/
theorem read_object_eq_ok_iff {f : Fields R α} {names : List String} (h : f.Knows names) {p : Place} {ending : Option Cause}
    {members : List (Outline × Outline)} {a : α} :
    f.read p (.object members ending) = .ok a ↔ ending = none ∧ ∃ named : List (String × Outline),
      members = named.map Outline.member ∧ f.Found p.deeper named a ∧ ∀ m ∈ named, m.1 ∉ names → m.2.passOver = .ok () := by
  simp only [read, bind_eq_ok, takeMembers_eq_ok_iff h, Found]
  constructor
  · rintro ⟨slot, ⟨hending, named, hmembers, hfold, hpass⟩, hfinish⟩
    exact ⟨hending, named, hmembers, ⟨slot, hfold, hfinish⟩, hpass⟩
  · rintro ⟨hending, named, hmembers, ⟨slot, hfold, hfinish⟩, hpass⟩
    exact ⟨slot, ⟨hending, named, hmembers, hfold, hpass⟩, hfinish⟩

/-- An array is read if it goes to its end and the fields take all of its items. -/
theorem read_array_eq_ok_iff {f : Fields R α} {p : Place} {ending : Option Cause} {items : List Outline} {a : α} :
    f.read p (.array items ending) = .ok a ↔ ending = none ∧ f.takeItems p.deeper ending items = .ok (a, []) := by
  rw [read, bind_eq_ok]
  constructor
  · rintro ⟨⟨b, rest⟩, htake, hrest⟩
    dsimp only at hrest
    split at hrest
    case isTrue hempty =>
      rw [bind_eq_ok, exists_unit_eq_ok, closed_eq_ok_iff, pure_eq_ok] at hrest
      obtain ⟨hending, rfl⟩ := hrest
      rw [List.isEmpty_iff.mp hempty] at htake
      exact ⟨hending, htake⟩
    case isFalse => cases hrest
  · rintro ⟨rfl, htake⟩
    exact ⟨_, htake, rfl⟩

/-! ## One field -/

/-- A field finds a value among those under its name: the only one, or what stands for it if there is none. -/
def FoundAmong (read : Outline → Except Cause α) (absent : Option α) : List Outline → α → Prop
  | [], a => absent = some a
  | [o], a => read o = .ok a
  | _, _ => False

/-- A field that may not be missing finds the only value there is. -/
theorem FoundAmong.exists_eq_singleton {read : Outline → Except Cause α} {os : List Outline} {a : α}
    (h : FoundAmong read none os a) : ∃ o, os = [o] ∧ read o = .ok a := by
  match os, h with
  | [o], h => exact ⟨o, rfl, h⟩

/-- A field that may be `null` finds something in a value that is not. -/
theorem FoundAmong.isSome_of_ne_null {c : Codec α} {p : Place} {absent : Option (Option α)} {os : List Outline} {a : Option α}
    (h : FoundAmong (c.orNull.read p) absent os a) {o : Outline} (ho : o ∈ os) (hnull : o ≠ .null) : a.isSome = true := by
  match os, h with
  | [o'], h =>
    obtain rfl := List.mem_singleton.mp ho
    rw [FoundAmong, Codec.orNull_read_of_ne c p hnull, map_eq_ok] at h
    obtain ⟨a, -, rfl⟩ := h
    rfl

/-- One member offered to a field that holds a value or nothing yet. -/
def oneStep (name : String) (read : Outline → Except Cause α) (slot : Option α) (m : String × Outline) :
    Except Cause (Option α) :=
  if m.1 = name then
    match slot with
    | some _ => .error .mismatch
    | none => (read m.2).map some
  else .ok slot

/-- After its first value a field takes no other. -/
theorem foldlM_oneStep_some {name : String} {read : Outline → Except Cause α} {a : α} {slot : Option α}
    {named : List (String × Outline)} :
    named.foldlM (oneStep name read) (some a) = .ok slot ↔ valuesUnder name named = [] ∧ slot = some a := by
  induction named with
  | nil =>
    rw [List.foldlM_nil, pure_eq_ok]
    simp [eq_comm]
  | cons m named ih =>
    obtain ⟨key, o⟩ := m
    rw [List.foldlM_cons, bind_eq_ok]
    by_cases hkey : key = name
    · subst hkey
      simp [oneStep, valuesUnder_cons_self]
    · simp [oneStep, hkey, valuesUnder_cons_of_ne, ih]

/-- What a field holds at the end: its only value, or nothing. -/
theorem foldlM_oneStep_none {name : String} {read : Outline → Except Cause α} {slot : Option α}
    {named : List (String × Outline)} :
    named.foldlM (oneStep name read) none = .ok slot ↔
      FoundAmong (fun o => (read o).map some) (some none) (valuesUnder name named) slot := by
  induction named with
  | nil => simp [FoundAmong]
  | cons m named ih =>
    obtain ⟨key, o⟩ := m
    rw [List.foldlM_cons, bind_eq_ok]
    by_cases hkey : key = name
    · subst hkey
      simp only [oneStep, if_true, map_eq_ok, valuesUnder_cons_self]
      cases hrest : valuesUnder key named with
      | nil => simp [foldlM_oneStep_some, hrest, FoundAmong, eq_comm (a := slot)]
      | cons _ _ => simp [foldlM_oneStep_some, hrest, FoundAmong]
    · simp [oneStep, hkey, valuesUnder_cons_of_ne, ih]

section One

variable {name : String} {read : Place → Outline → Except Cause α} {absent : Option α} {put : R → Option Value}

theorem knows_one : (one name read absent put).Knows [name] := by
  intro p slot key o
  simp only [one, List.mem_singleton]
  split <;> simp_all

theorem found_one {p : Place} {named : List (String × Outline)} {a : α} :
    (one name read absent put).Found p named a ↔ FoundAmong (read p) absent (valuesUnder name named) a := by
  unfold one
  refine (found_mk (oneStep name (read p)) fun slot m => ?_).trans ?_
  · unfold oneStep
    split <;> rfl
  · simp only [foldlM_oneStep_none]
    match valuesUnder name named with
    | [] => cases absent <;> simp [FoundAmong]
    | [o] => simp [FoundAmong]
    | _ :: _ :: _ => simp [FoundAmong]

theorem takeItems_one {p : Place} {ending : Option Cause} {items rest : List Outline} {a : α} :
    (one name read absent put).takeItems p ending items = .ok (a, rest) ↔ (∃ o, items = o :: rest ∧ read p o = .ok a) ∨
      (items = [] ∧ rest = [] ∧ ending = none ∧ absent = some a) := by
  unfold one
  cases items with
  | nil =>
    dsimp only
    rw [bind_eq_ok, exists_unit_eq_ok, closed_eq_ok_iff]
    cases absent with
    | none => simp
    | some b =>
      simp only [pure_eq_ok, Prod.mk.injEq]
      constructor
      · rintro ⟨hending, rfl, rfl⟩
        exact .inr ⟨trivial, rfl, hending, rfl⟩
      · rintro (⟨_, hcons, -⟩ | ⟨-, rfl, hending, hb⟩)
        · cases hcons
        · exact ⟨hending, Option.some.inj hb, rfl⟩
  | cons o items =>
    simp only [map_eq_ok, Prod.mk.injEq, List.cons.injEq, reduceCtorEq, false_and, or_false]
    constructor
    · rintro ⟨_, hread, rfl, rfl⟩
      exact ⟨o, ⟨rfl, rfl⟩, hread⟩
    · rintro ⟨_, ⟨rfl, rfl⟩, hread⟩
      exact ⟨a, hread, rfl, rfl⟩

/-- A field takes the first item. If there is none it finds its value among no values. -/
theorem takeItems_one_eq_ok_iff {p : Place} {items rest : List Outline} {a : α} :
    (one name read absent put).takeItems p none items = .ok (a, rest) ↔
      FoundAmong (read p) absent items.head?.toList a ∧ rest = items.tail := by
  rw [takeItems_one]
  cases items with
  | nil =>
    constructor
    · rintro (⟨_, hcons, -⟩ | ⟨-, hrest, -, habsent⟩)
      · cases hcons
      · exact ⟨habsent, hrest⟩
    · rintro ⟨habsent, hrest⟩
      exact .inr ⟨rfl, hrest, rfl, habsent⟩
  | cons o items =>
    constructor
    · rintro (⟨_, hcons, ho⟩ | ⟨hnil, -⟩)
      · cases hcons
        exact ⟨ho, rfl⟩
      · cases hnil
    · rintro ⟨ho, rfl⟩
      exact .inl ⟨o, rfl, ho⟩

end One

/-! ## Two descriptions -/

section And

variable {f : Fields R α} {g : Fields R β} {fs gs : List String}

theorem Knows.and (hf : f.Knows fs) (hg : g.Knows gs) : (f.and g).Knows (fs ++ gs) := by
  intro p slot key o
  rw [List.mem_append, ← hf p slot.1 key o, ← hg p slot.2 key o]
  unfold Fields.and
  dsimp only
  cases f.take p slot.1 key o <;> simp

/-- One member offered to both. -/
def andStep (f : Fields R α) (g : Fields R β) (p : Place) (slot : f.Slot × g.Slot) (m : String × Outline) :
    Except Cause (f.Slot × g.Slot) := do
  let first ← f.step p slot.1 m
  let second ← g.step p slot.2 m
  return (first, second)

theorem foldlM_andStep {p : Place} {slot slot' : f.Slot × g.Slot} {named : List (String × Outline)} :
    named.foldlM (andStep f g p) slot = .ok slot' ↔
      named.foldlM (f.step p) slot.1 = .ok slot'.1 ∧ named.foldlM (g.step p) slot.2 = .ok slot'.2 := by
  induction named generalizing slot with
  | nil => simp [Prod.ext_iff]
  | cons m named ih =>
    simp only [List.foldlM_cons, bind_eq_ok, ih, andStep, pure_eq_ok]
    constructor
    · rintro ⟨_, ⟨first, hfirst, second, hsecond, rfl⟩, hf, hg⟩
      exact ⟨⟨first, hfirst, hf⟩, second, hsecond, hg⟩
    · rintro ⟨⟨first, hfirst, hf⟩, second, hsecond, hg⟩
      exact ⟨(first, second), ⟨first, hfirst, second, hsecond, rfl⟩, hf, hg⟩

/-- Two descriptions of different names find their values in the same members: each member goes to the one that knows its
name, if one does. -/
theorem found_and (hf : f.Knows fs) (hg : g.Knows gs) (hdisjoint : ∀ name ∈ fs, name ∉ gs) {p : Place}
    {named : List (String × Outline)} {a : α} {b : β} :
    (f.and g).Found p named (a, b) ↔ f.Found p named a ∧ g.Found p named b := by
  unfold Fields.and
  refine (found_mk (andStep f g p) fun slot m => ?_).trans ?_
  · unfold andStep
    by_cases hm : m.1 ∈ fs
    · obtain ⟨taken, htaken⟩ := hf.exists_take hm p slot.1 m.2
      rw [hg.step_of_notMem (hdisjoint _ hm), htaken, step, htaken]
      cases taken <;> rfl
    · rw [hf.step_of_notMem hm, hf.take_eq_none hm, step]
      rcases g.take p slot.2 m.1 m.2 with _ | _ | _ <;> rfl
  · simp only [foldlM_andStep, bind_eq_ok, pure_eq_ok, Prod.mk.injEq]
    constructor
    · rintro ⟨slot, ⟨hfold, hfold'⟩, _, hfinish, _, hfinish', rfl, rfl⟩
      exact ⟨⟨slot.1, hfold, hfinish⟩, slot.2, hfold', hfinish'⟩
    · rintro ⟨⟨slot, hfold, hfinish⟩, slot', hfold', hfinish'⟩
      exact ⟨(slot, slot'), ⟨hfold, hfold'⟩, a, hfinish, b, hfinish', rfl, rfl⟩

theorem takeItems_and {p : Place} {ending : Option Cause} {items rest : List Outline} {a : α} {b : β} :
    (f.and g).takeItems p ending items = .ok ((a, b), rest) ↔ ∃ middle, f.takeItems p ending items = .ok (a, middle) ∧
      g.takeItems p ending middle = .ok (b, rest) := by
  unfold Fields.and
  simp only [bind_eq_ok, pure_eq_ok, Prod.exists, Prod.mk.injEq]
  constructor
  · rintro ⟨_, middle, hfirst, _, _, hsecond, ⟨rfl, rfl⟩, rfl⟩
    exact ⟨middle, hfirst, hsecond⟩
  · rintro ⟨middle, hfirst, hsecond⟩
    exact ⟨a, middle, hfirst, b, rest, hsecond, ⟨rfl, rfl⟩, rfl⟩

end And

end Fields

end ArtifactTrust.Json
