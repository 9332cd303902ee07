import ArtifactTrust.Proofs.Der.Parse
import Mathlib.Algebra.Order.BigOperators.Group.List
import Mathlib.Algebra.Order.Group.Nat

/-!
# Writing with shortest lengths

`Element.shorten` is the tree that `Element.toDer` writes: the same elements with every length in the shortest form. Shorter
lengths shrink the content of the constructed elements around them, whose lengths shrink in turn; content that is primitive
stays. Main statement: what is written reads back as the shortened tree, has as many octets as what was read exactly when
there was nothing to shorten, and never changes again (`Element.toDer_canonicalizes`).
-/

namespace ArtifactTrust.Der.Element

variable {depth : Nat} {tag : Tag} {len content inner b : Bytes} {children ts : List Element} {t : Element}

/-! ## Elements in the shortest form -/

/-- The length octets are as few as octets that denote this length can be. -/
def HasShortestLength (t : Element) : Prop :=
  ∀ len, Length.Denotes len t.content.length → t.lengthOctets.length ≤ len.length

/-- An element reaches itself and, if it is constructed, what its children reach. -/
inductive Reaches : Element → Element → Prop where
  | self (t : Element) : Reaches t t
  | inner {t child e : Element} (constructed : t.tag.isConstructed = true) (isChild : child ∈ t.children)
      (reached : Reaches child e) : Reaches t e

/-- All that is reached has its length in the shortest form. -/
def IsShortest (t : Element) : Prop := ∀ e, Reaches t e → e.HasShortestLength

/-- Of the octets that denote a length, `Length.encode` writes the only ones that are shortest. -/
theorem hasShortestLength_iff (length : Length.Denotes len content.length) :
    (mk tag len content children).HasShortestLength ↔ len = Length.encode content.length := by
  constructor
  · intro h
    exact length.eq_encode (h _ (Length.denotes_encode length.lt))
  · rintro rfl
    exact fun _ hlen => hlen.length_encode_le

theorem isShortest_iff :
    t.IsShortest ↔ t.HasShortestLength ∧ (t.tag.isConstructed = true → ∀ child ∈ t.children, child.IsShortest) := by
  constructor
  · intro h
    exact ⟨h t (.self t), fun hc child hm e he => h e (.inner hc hm he)⟩
  · rintro ⟨hself, hinner⟩ e he
    cases he with
    | self => exact hself
    | inner hc hm he => exact hinner hc _ hm e he

/-! ## What is written -/

@[simp] theorem toDerAll_eq_flatMap (ts : List Element) : toDerAll ts = ts.flatMap toDer := by
  induction ts with
  | nil => rfl
  | cons t ts ih => rw [toDerAll, ih, List.flatMap_cons]

theorem toDer_of_constructed (hc : tag.isConstructed = true) :
    (mk tag len content children).toDer = encode tag (children.flatMap toDer) := by
  rw [toDer, if_pos hc, toDerAll_eq_flatMap]

theorem toDer_of_primitive (hp : ¬ tag.isConstructed = true) : (mk tag len content children).toDer = encode tag content := by
  rw [toDer, if_neg hp]

/-- Content that is no longer than it was, under a length in the shortest form, takes no more octets. -/
theorem length_encode_le_octets (length : Length.Denotes len content.length) (hle : inner.length ≤ content.length) :
    (encode tag inner).length ≤ (mk tag len content children).octets.length := by
  have hlen := Nat.le_trans (Length.length_encode_mono hle) length.length_encode_le
  simp only [encode, octets_mk, List.length_append, List.length_cons]
  omega

/-- It takes fewer if it is shorter or if the length was not in the shortest form. -/
theorem length_encode_lt_octets (length : Length.Denotes len content.length) (hle : inner.length ≤ content.length)
    (hlt : inner.length < content.length ∨ len ≠ Length.encode content.length) :
    (encode tag inner).length < (mk tag len content children).octets.length := by
  have hmono := Length.length_encode_mono hle
  have hlen := length.length_encode_le
  simp only [encode, octets_mk, List.length_append, List.length_cons]
  rcases hlt with hlt | hne
  · omega
  · have hmore : (Length.encode content.length).length < len.length := Nat.lt_of_not_le fun h => hne (length.eq_encode h)
    omega

/-- The content of a constructed element does not grow if nothing in it does. -/
theorem IsSplit.length_flatMap_toDer_le (split : IsSplit depth tag content children) (hc : tag.isConstructed = true)
    (h : ∀ child ∈ children, child.toDer.length ≤ child.octets.length) : (children.flatMap toDer).length ≤ content.length := by
  rw [← split.constructed hc, List.length_flatMap, List.length_flatMap]
  exact List.sum_le_sum h

/-- It shrinks if something in it does. -/
theorem IsSplit.length_flatMap_toDer_lt (split : IsSplit depth tag content children) (hc : tag.isConstructed = true)
    (h : ∀ child ∈ children, child.toDer.length ≤ child.octets.length)
    (hlt : ∃ child ∈ children, child.toDer.length < child.octets.length) :
    (children.flatMap toDer).length < content.length := by
  rw [← split.constructed hc, List.length_flatMap, List.length_flatMap]
  exact List.sum_lt_sum _ _ h hlt

namespace IsTree

/-- No element grows. -/
theorem length_toDer_le (h : IsTree depth t) : t.toDer.length ≤ t.octets.length := by
  induction h with
  | @mk depth tag len content children shallow length inner split ih =>
    by_cases hc : tag.isConstructed = true
    · rw [toDer_of_constructed hc]
      exact length_encode_le_octets length (split.length_flatMap_toDer_le hc ih)
    · rw [toDer_of_primitive hc]
      exact length_encode_le_octets length (Nat.le_refl _)

/-- An element that is not in the shortest form shrinks, be it for its own length or for one inside. -/
theorem length_toDer_lt (h : IsTree depth t) (hs : ¬ t.IsShortest) : t.toDer.length < t.octets.length := by
  induction h with
  | @mk depth tag len content children shallow length inner split ih =>
    rw [isShortest_iff, hasShortestLength_iff length, not_and_or] at hs
    by_cases hc : tag.isConstructed = true
    · have hle := fun child hm => (inner child hm).length_toDer_le
      rw [toDer_of_constructed hc]
      refine length_encode_lt_octets length (split.length_flatMap_toDer_le hc hle) ?_
      rcases hs with hown | hinner
      · exact Or.inr hown
      · obtain ⟨child, hm, hchild⟩ : ∃ child ∈ children, ¬ child.IsShortest := by
          by_contra hall
          exact hinner fun _ child hm => of_not_not fun hns => hall ⟨child, hm, hns⟩
        exact Or.inl (split.length_flatMap_toDer_lt hc hle ⟨child, hm, ih child hm hchild⟩)
    · rcases hs with hown | hinner
      · rw [toDer_of_primitive hc]
        exact length_encode_lt_octets length (Nat.le_refl _) (Or.inr hown)
      · exact absurd (fun h => absurd h hc) hinner

/-- An element in the shortest form is written as it was read. -/
theorem toDer_eq_octets (h : IsTree depth t) (hs : t.IsShortest) : t.toDer = t.octets := by
  induction h with
  | @mk depth tag len content children shallow length inner split ih =>
    rw [isShortest_iff, hasShortestLength_iff length] at hs
    obtain ⟨hown, hinner⟩ := hs
    by_cases hc : tag.isConstructed = true
    · have hsame : children.flatMap toDer = content := by
        rw [← split.constructed hc]
        exact List.flatMap_congr fun child hm => ih child hm (hinner hc child hm)
      rw [toDer_of_constructed hc, hsame, encode, ← hown, octets_mk]
    · rw [toDer_of_primitive hc, encode, ← hown, octets_mk]

end IsTree

/-! ## What is read back -/

mutual

/-- The element with every length in the shortest form, as a tree. What was found in a primitive element stays as it is. -/
def shorten : Element → Element
  | mk tag _ content children =>
    if tag.isConstructed then mk tag (Length.encode (toDerAll children).length) (toDerAll children) (shortenAll children)
    else mk tag (Length.encode content.length) content children

/-- The elements one by one, with every length in the shortest form. -/
def shortenAll : List Element → List Element
  | [] => []
  | e :: es => shorten e :: shortenAll es

end

@[simp] theorem shortenAll_eq_map (ts : List Element) : shortenAll ts = ts.map shorten := by
  induction ts with
  | nil => rfl
  | cons t ts ih => rw [shortenAll, ih, List.map_cons]

theorem shorten_of_constructed (hc : tag.isConstructed = true) :
    (mk tag len content children).shorten =
      mk tag (Length.encode (children.flatMap toDer).length) (children.flatMap toDer) (children.map shorten) := by
  rw [shorten, if_pos hc, toDerAll_eq_flatMap, shortenAll_eq_map]

theorem shorten_of_primitive (hp : ¬ tag.isConstructed = true) :
    (mk tag len content children).shorten = mk tag (Length.encode content.length) content children := by
  rw [shorten, if_neg hp]

/-- The shortened tree is that of what is written. -/
@[simp] theorem octets_shorten (t : Element) : t.shorten.octets = t.toDer := by
  obtain ⟨tag, len, content, children⟩ := t
  by_cases hc : tag.isConstructed = true
  · rw [shorten_of_constructed hc, toDer_of_constructed hc, octets_mk, encode]
  · rw [shorten_of_primitive hc, toDer_of_primitive hc, octets_mk, encode]

/-- Shortening keeps a tree a tree: an OCTET STRING has the content that it had, and so the same elements in it. -/
theorem IsTree.shorten (h : IsTree depth t) : IsTree depth t.shorten := by
  induction h with
  | @mk depth tag len content children shallow length inner split ih =>
    by_cases hc : tag.isConstructed = true
    · have hle := split.length_flatMap_toDer_le hc fun child hm => (inner child hm).length_toDer_le
      rw [shorten_of_constructed hc]
      refine .mk shallow (Length.denotes_encode (Nat.lt_of_le_of_lt hle length.lt)) ?_ (.of_constructed hc ?_)
      · exact List.forall_mem_map.mpr ih
      · rw [List.flatMap_map]
        exact List.flatMap_congr fun child _ => octets_shorten child
    · rw [shorten_of_primitive hc]
      exact .mk shallow (Length.denotes_encode length.lt) inner split

/-- Writing the shortened tree changes nothing any more. -/
theorem IsTree.toDer_shorten (h : IsTree depth t) : t.shorten.toDer = t.toDer := by
  induction h with
  | @mk depth tag len content children shallow length inner split ih =>
    by_cases hc : tag.isConstructed = true
    · rw [shorten_of_constructed hc, toDer_of_constructed hc, toDer_of_constructed hc, List.flatMap_map, List.flatMap_congr ih]
    · rw [shorten_of_primitive hc, toDer_of_primitive hc, toDer_of_primitive hc]

/-! ## Positions -/

/-- The element at a position, which is given by the number of a child at each level. -/
def at? (t : Element) : (path : List Nat) → Option Element
  | [] => some t
  | i :: path => t.children[i]?.bind (at? · path)

/-- What shortening must not change: the tag, the number of children and, of a primitive element, the content. -/
def shape (t : Element) : Tag × Nat × Option Bytes :=
  (t.tag, t.children.length, if t.tag.isConstructed then none else some t.content)

theorem shape_shorten (t : Element) : t.shorten.shape = t.shape := by
  obtain ⟨tag, len, content, children⟩ := t
  by_cases hc : tag.isConstructed = true
  · rw [shorten_of_constructed hc]
    simp [shape, Element.tag, Element.children, hc]
  · rw [shorten_of_primitive hc]
    rfl

theorem shape_at?_shorten (t : Element) (path : List Nat) : (t.shorten.at? path).map shape = (t.at? path).map shape := by
  induction path generalizing t with
  | nil => exact congrArg some (shape_shorten t)
  | cons i path ih =>
    obtain ⟨tag, len, content, children⟩ := t
    by_cases hc : tag.isConstructed = true
    · rw [shorten_of_constructed hc]
      simp only [at?, Element.children, List.getElem?_map]
      cases children[i]? with
      | none => rfl
      | some child => exact ih child
    · rw [shorten_of_primitive hc]
      rfl

/-- Writing what was read gives the same octets exactly if every length was in the shortest form, and fewer otherwise. What is
written can be read again; the tree then has the same shape at every position, and is written with the same octets. -/
theorem toDer_canonicalizes (h : parse b = .ok t) :
    (t.toDer = b ↔ t.IsShortest) ∧ (¬ t.IsShortest → t.toDer.length < b.length) ∧
      ∃ t', parse t.toDer = .ok t' ∧ (∀ path, (t'.at? path).map shape = (t.at? path).map shape) ∧ t'.toDer = t.toDer := by
  obtain ⟨ht, rfl⟩ := parse_eq_ok_iff.mp h
  refine ⟨⟨fun heq => ?_, ht.toDer_eq_octets⟩, ht.length_toDer_lt, t.shorten, ?_, shape_at?_shorten t, ht.toDer_shorten⟩
  · exact of_not_not fun hs => Nat.ne_of_lt (ht.length_toDer_lt hs) (congrArg List.length heq)
  · exact parse_eq_ok_iff.mpr ⟨ht.shorten, octets_shorten t⟩

/-- A SEQUENCE and the OCTET STRING in it, which holds an INTEGER, both with a longer length than they need. -/
def nested : Element :=
  mk .sequence [0x81, 0x06] [0x04, 0x81, 0x03, 0x02, 0x01, 0x05]
    [mk ⟨0x04, by decide, by decide⟩ [0x81, 0x03] [0x02, 0x01, 0x05] [mk ⟨0x02, by decide, by decide⟩ [0x01] [0x05] []]]

theorem toDer_canonicalizes_nested :
    parse nested.octets = .ok nested ∧ (nested.toDer = nested.octets ↔ nested.IsShortest) ∧
      (¬ nested.IsShortest → nested.toDer.length < nested.octets.length) ∧
        ∃ t, parse nested.toDer = .ok t ∧ (∀ path, (t.at? path).map shape = (nested.at? path).map shape) ∧
          t.toDer = nested.toDer := by
  have hread : parse nested.octets = .ok nested := by cbv
  exact ⟨hread, toDer_canonicalizes hread⟩

example : (parse [0x30, 0x81, 0x06, 0x04, 0x81, 0x03, 0x02, 0x01, 0x05]).toOption.map toDer =
    some [0x30, 0x05, 0x04, 0x03, 0x02, 0x01, 0x05] := by
  decide +kernel

end ArtifactTrust.Der.Element
