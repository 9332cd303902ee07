import ArtifactTrust.Der.Element
import ArtifactTrust.Proofs.Der.Length

/-!
# The grammar of elements

A tag is no more and no less than its class, the bit for constructed and its number (`Tag.toDer_eq_octet`). `IsElement` says which
octets are an element at a depth, and `Element.IsTree` which tree stands for one. The grammar never looks into the content of a
primitive element. The tree does, under an OCTET STRING, and has there the elements that make up the content if it is made up of
elements, and nothing otherwise. Every element has a tree, and every tree is one of an element (`isElement_iff`).
-/

namespace ArtifactTrust.Der

/-! ## Tags -/

/-- An octet that is a tag: neither of the two universal ones of number 0, and not of number 31, which announces a longer
form. -/
structure IsTagOctet (octet : UInt8) : Prop where
  ne_zero : octet ≠ 0x00
  ne_constructed_zero : octet ≠ 0x20
  shortForm : octet &&& 0x1f ≠ 0x1f

/-- The two universal octets of number 0 differ in the bit for constructed only. -/
theorem reserved_iff (octet : UInt8) : octet &&& 0xdf = 0 ↔ octet = 0x00 ∨ octet = 0x20 := by
  revert octet
  exact Bytes.forall_octet (by decide +kernel)

theorem Tag.isTagOctet (t : Tag) : IsTagOctet t.octet where
  ne_zero h := t.notReserved ((reserved_iff _).mpr (Or.inl h))
  ne_constructed_zero h := t.notReserved ((reserved_iff _).mpr (Or.inr h))
  shortForm := t.shortForm

/-- The tag of an octet that is one. -/
def Tag.ofTagOctet {octet : UInt8} (h : IsTagOctet octet) : Tag where
  octet := octet
  shortForm := h.shortForm
  notReserved hr := ((reserved_iff octet).mp hr).elim h.ne_zero h.ne_constructed_zero

theorem Tag.ofOctet_eq_ok_iff {octet : UInt8} {t : Tag} : Tag.ofOctet octet = .ok t ↔ t.octet = octet := by
  obtain ⟨o, hs, hr⟩ := t
  unfold Tag.ofOctet
  constructor
  · intro h
    split at h
    · split at h
      · cases h; rfl
      · cases h
    · cases h
  · rintro rfl
    rw [dif_pos hs, dif_pos hr]

theorem Tag.isConstructed_iff {t : Tag} : t.isConstructed = true ↔ t.octet &&& 0x20 ≠ 0 := bne_iff_ne

theorem Tag.eq_of_octet {t u : Tag} (h : t.octet = u.octet) : t = u := by
  cases t
  cases u
  cases h
  rfl

/-- The number, the bit for constructed and the class go back into the octet that they were taken from. -/
theorem Tag.toDer_eq_octet (t : Tag) : t.toDer = t.octet := by
  have hall : ∀ octet hs hr, (Tag.mk octet hs hr).toDer = octet := Bytes.forall_octet (by decide +kernel)
  exact hall t.octet t.shortForm t.notReserved

/-- There is no more to a tag than its class, the bit for constructed and its number. -/
theorem Tag.eq_of_parts {t u : Tag} (hclass : t.tagClass = u.tagClass) (hbit : t.isConstructed = u.isConstructed)
    (hnumber : t.number = u.number) : t = u := by
  apply eq_of_octet
  rw [← toDer_eq_octet, ← toDer_eq_octet, toDer, toDer, hclass, hbit, hnumber]

theorem Tag.isUniversal_iff {t : Tag} {number : UInt8} :
    t.isUniversal number = true ↔ t.octet < 0x40 ∧ t.octet &&& 0x1f = number := by
  have hclass : t.tagClass = .universal ↔ t.octet < 0x40 := by
    unfold tagClass
    split
    · simp_all
    · split <;> (try split) <;> simp_all
  rw [isUniversal, Bool.and_eq_true, beq_iff_eq, beq_iff_eq, hclass, Tag.number]

theorem Tag.isContext_iff {t : Tag} {number : UInt8} :
    t.isContext number = true ↔ (¬ t.octet < 0x80 ∧ t.octet < 0xc0) ∧ t.octet &&& 0x1f = number := by
  have hclass : t.tagClass = .contextSpecific ↔ ¬ t.octet < 0x80 ∧ t.octet < 0xc0 := by
    have hlow : t.octet < 0x40 → t.octet < 0x80 := fun h => UInt8.lt_trans h (by decide)
    unfold tagClass
    split
    · rename_i h
      simp [hlow h]
    · split <;> (try split) <;> simp_all
  rw [isContext, Bool.and_eq_true, beq_iff_eq, beq_iff_eq, hclass, Tag.number]

/-- Of the two tags of a SEQUENCE one is constructed. -/
theorem Tag.eq_sequence {t : Tag} (h : t.isSequence = true) (hc : t.isConstructed = true) : t = .sequence := by
  rw [isSequence, isUniversal, Bool.and_eq_true, beq_iff_eq, beq_iff_eq] at h
  exact eq_of_parts h.1 hc h.2

/-- Of the two tags of a context-specific number one is constructed. -/
theorem Tag.octet_of_isContext {t : Tag} (h : t.isContext 3 = true) (hc : t.isConstructed = true) : t.octet = 0xa3 := by
  rw [isContext, Bool.and_eq_true, beq_iff_eq, beq_iff_eq] at h
  rw [← toDer_eq_octet, toDer, h.1, h.2, hc]
  rfl

/-! ## Octets -/

/-- Octets that are an element at a depth: a tag, a length and as much content. The content of a constructed element is made
up of elements one level below; that of a primitive one may be anything. No element stands deeper than 64 levels. -/
inductive IsElement : (depth : Nat) → Bytes → Prop where
  | primitive {depth : Nat} {octet : UInt8} {len content : Bytes} (shallow : depth ≤ 64) (tag : IsTagOctet octet)
      (bit : octet &&& 0x20 = 0) (length : Length.Denotes len content.length) :
      IsElement depth (octet :: len ++ content)
  | constructed {depth : Nat} {octet : UInt8} {len : Bytes} {parts : List Bytes} (shallow : depth ≤ 64)
      (tag : IsTagOctet octet) (bit : octet &&& 0x20 ≠ 0) (length : Length.Denotes len parts.flatten.length)
      (inner : ∀ part ∈ parts, IsElement (depth + 1) part) :
      IsElement depth (octet :: len ++ parts.flatten)

/-- Octets that are made up of elements at a depth. -/
def AreElements (depth : Nat) (b : Bytes) : Prop := ∃ parts : List Bytes, (∀ part ∈ parts, IsElement depth part) ∧ parts.flatten = b

namespace Element

/-! ## Trees -/

/-- The elements that a content is split into under a tag, one level below it, are those that it is made up of. A constructed
tag asks for them; under a primitive OCTET STRING there are none where the content is not made up of elements, and under any
other primitive tag there are never any. -/
structure IsSplit (depth : Nat) (tag : Tag) (content : Bytes) (children : List Element) : Prop where
  constructed : tag.isConstructed = true → children.flatMap octets = content
  octetString : tag.isConstructed = false → tag.isOctetString = true → AreElements depth content →
    children.flatMap octets = content
  none : tag.isConstructed = false → (tag.isOctetString = true → ¬ AreElements depth content) → children = []

/-- An element is the tree of its octets at a depth: at every node the length octets denote the length of the content, and the
children are the trees of the elements that the content is split into. -/
inductive IsTree : (depth : Nat) → Element → Prop where
  | mk {depth : Nat} {tag : Tag} {len content : Bytes} {children : List Element} (shallow : depth ≤ 64)
      (length : Length.Denotes len content.length) (inner : ∀ child ∈ children, IsTree (depth + 1) child)
      (split : IsSplit (depth + 1) tag content children) : IsTree depth (.mk tag len content children)

variable {depth levels : Nat} {tag : Tag} {len content b : Bytes} {children : List Element} {t : Element}

theorem IsSplit.of_constructed (hc : tag.isConstructed = true) (h : children.flatMap octets = content) :
    IsSplit depth tag content children :=
  ⟨fun _ => h, by simp [hc], by simp [hc]⟩

theorem IsSplit.of_areElements (hp : tag.isConstructed = false) (hs : tag.isOctetString = true)
    (hcontent : AreElements depth content) (h : children.flatMap octets = content) : IsSplit depth tag content children :=
  ⟨by simp [hp], fun _ _ _ => h, fun _ hnot => absurd hcontent (hnot hs)⟩

theorem IsSplit.nil (hp : tag.isConstructed = false) (hnot : tag.isOctetString = true → ¬ AreElements depth content) :
    IsSplit depth tag content [] :=
  ⟨by simp [hp], fun _ hs hcontent => absurd hcontent (hnot hs), fun _ _ => rfl⟩

@[simp] theorem octets_mk : (mk tag len content children).octets = tag.octet :: len ++ content := rfl

theorem octets_ne_nil (t : Element) : t.octets ≠ [] := by
  obtain ⟨tag, len, content, children⟩ := t
  simp

/-- No octets are left for no elements. -/
theorem flatMap_octets_eq_nil {ts : List Element} (h : ts.flatMap octets = []) : ts = [] := by
  cases ts with
  | nil => rfl
  | cons t ts =>
    rw [List.flatMap_cons, List.append_eq_nil_iff] at h
    exact absurd h.1 (octets_ne_nil t)

/-- The octets of a tree are an element. -/
theorem IsTree.isElement (h : IsTree depth t) : IsElement depth t.octets := by
  induction h with
  | @mk depth tag len content children shallow length inner split ih =>
    by_cases hc : tag.isConstructed = true
    · obtain rfl := split.constructed hc
      rw [List.flatMap_def] at length
      rw [octets_mk, List.flatMap_def]
      refine .constructed shallow tag.isTagOctet (Tag.isConstructed_iff.mp hc) length fun part hp => ?_
      obtain ⟨child, hm, rfl⟩ := List.mem_map.mp hp
      exact ih child hm
    · exact .primitive shallow tag.isTagOctet (of_not_not fun hb => hc (Tag.isConstructed_iff.mpr hb)) length

/-- Trees for the elements of a content. -/
theorem exists_trees (htree : ∀ b, IsElement depth b → ∃ t, IsTree depth t ∧ t.octets = b) {parts : List Bytes}
    (h : ∀ part ∈ parts, IsElement depth part) :
    ∃ ts : List Element, (∀ t ∈ ts, IsTree depth t) ∧ ts.flatMap octets = parts.flatten := by
  induction parts with
  | nil => exact ⟨[], by simp, rfl⟩
  | cons part parts ih =>
    obtain ⟨t, ht, rfl⟩ := htree part (h part List.mem_cons_self)
    obtain ⟨ts, hts, hb⟩ := ih fun p hp => h p (List.mem_cons_of_mem _ hp)
    exact ⟨t :: ts, List.forall_mem_cons.mpr ⟨ht, hts⟩, by rw [List.flatMap_cons, hb, List.flatten_cons]⟩

/-- The octets of an element are those of a tree. The induction is on the levels that are left below the depth: the trees in
an OCTET STRING are those of elements that the element itself is not made of. -/
theorem exists_isTree (hlevels : 64 < levels + depth) (h : IsElement depth b) : ∃ t, IsTree depth t ∧ t.octets = b := by
  induction levels generalizing depth b with
  | zero => cases h <;> omega
  | succ levels ih =>
    have htree : ∀ b, IsElement (depth + 1) b → ∃ t, IsTree (depth + 1) t ∧ t.octets = b := fun b => ih (by omega)
    cases h with
    | @primitive _ octet len content shallow isTag bit length =>
      have hp : (Tag.ofTagOctet isTag).isConstructed = false :=
        Bool.eq_false_iff.mpr fun hc => Tag.isConstructed_iff.mp hc bit
      by_cases hs : (Tag.ofTagOctet isTag).isOctetString = true ∧ AreElements (depth + 1) content
      · obtain ⟨hs, parts, hparts, rfl⟩ := hs
        obtain ⟨ts, hts, hb⟩ := exists_trees htree hparts
        exact ⟨.mk (Tag.ofTagOctet isTag) len parts.flatten ts,
          .mk shallow length hts (.of_areElements hp hs ⟨parts, hparts, rfl⟩ hb), rfl⟩
      · exact ⟨.mk (Tag.ofTagOctet isTag) len content [],
          .mk shallow length (by simp) (.nil hp fun ho hc => hs ⟨ho, hc⟩), rfl⟩
    | @constructed _ octet len parts shallow isTag bit length inner =>
      obtain ⟨ts, hts, hb⟩ := exists_trees htree inner
      have hc : (Tag.ofTagOctet isTag).isConstructed = true := Tag.isConstructed_iff.mpr bit
      exact ⟨.mk (Tag.ofTagOctet isTag) len parts.flatten ts, .mk shallow length hts (.of_constructed hc hb), rfl⟩

end Element

open Element

/-- Octets are an element exactly when they have a tree. -/
theorem isElement_iff {depth : Nat} {b : Bytes} : IsElement depth b ↔ ∃ t, IsTree depth t ∧ t.octets = b := by
  constructor
  · exact exists_isTree (Nat.lt_add_right depth (Nat.lt_succ_self 64))
  · rintro ⟨t, ht, rfl⟩
    exact ht.isElement

/-- Octets are made up of elements exactly when they are those of a list of trees. -/
theorem areElements_iff {depth : Nat} {b : Bytes} :
    AreElements depth b ↔ ∃ ts : List Element, (∀ t ∈ ts, IsTree depth t) ∧ ts.flatMap octets = b := by
  constructor
  · rintro ⟨parts, hparts, rfl⟩
    exact exists_trees (fun _ => isElement_iff.mp) hparts
  · rintro ⟨ts, hts, rfl⟩
    refine ⟨ts.map octets, fun part hp => ?_, (List.flatMap_def ..).symm⟩
    obtain ⟨t, ht, rfl⟩ := List.mem_map.mp hp
    exact (hts t ht).isElement

end ArtifactTrust.Der
