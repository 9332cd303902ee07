import ArtifactTrust.Proofs.Der.Grammar
import ArtifactTrust.Proofs.Success

/-!
# Reading elements

Reading an element off the front of a buffer gives the tree that the grammar assigns to the octets that it takes, and succeeds
whenever there is an element (`Element.read_eq_ok_iff`). Main statement: a buffer is read exactly when all of it is one
element, and what is read is its tree (`Element.parse_exact`).
-/

namespace ArtifactTrust.Der.Element

open Success

variable {depth levels fuel offset : Nat} {tag : Tag} {content b rest : Bytes} {t : Element} {ts children : List Element}
  {reader : Reader}

/-- A reader takes a tree at a depth off the front, wherever the buffer begins, and gives back the rest. -/
def Reads (reader : Reader) (depth : Nat) : Prop :=
  ∀ offset b t rest, reader offset b = .ok (t, rest) ↔ IsTree depth t ∧ b = t.octets ++ rest

/-- Elements are read until nothing is left. The induction is on the fuel; each element takes at least one octet of it. -/
theorem readAll_eq_ok_iff (hr : Reads reader depth) (hf : b.length ≤ fuel) :
    readAll reader fuel offset b = .ok ts ↔ (∀ t ∈ ts, IsTree depth t) ∧ ts.flatMap octets = b := by
  induction fuel generalizing offset b ts with
  | zero =>
    obtain rfl := List.length_eq_zero_iff.mp (Nat.le_zero.mp hf)
    rw [readAll, Except.ok.injEq]
    exact ⟨fun h => by simp [← h], fun h => (flatMap_octets_eq_nil h.2).symm⟩
  | succ fuel ih =>
    cases b with
    | nil =>
      rw [readAll, Except.ok.injEq]
      exact ⟨fun h => by simp [← h], fun h => (flatMap_octets_eq_nil h.2).symm⟩
    | cons octet b =>
      have hshort : ∀ {t : Element} {rest : Bytes}, octet :: b = t.octets ++ rest → rest.length ≤ fuel := by
        intro t rest h
        have ht := List.length_pos_iff.mpr (octets_ne_nil t)
        have hlen := congrArg List.length h
        rw [List.length_append, List.length_cons] at hlen
        rw [List.length_cons] at hf
        omega
      simp only [readAll, bind_eq_ok, Prod.exists, hr offset _ _ _, pure_eq_ok]
      constructor
      · rintro ⟨t, rest, ⟨ht, hb⟩, more, hmore, rfl⟩
        obtain ⟨hts, rfl⟩ := (ih (hshort hb)).mp hmore
        exact ⟨List.forall_mem_cons.mpr ⟨ht, hts⟩, by rw [List.flatMap_cons, hb]⟩
      · rintro ⟨hts, hb⟩
        cases ts with
        | nil => cases hb
        | cons t ts =>
          obtain ⟨ht, hts⟩ := List.forall_mem_cons.mp hts
          rw [List.flatMap_cons] at hb
          exact ⟨t, _, ⟨ht, hb.symm⟩, ts, (ih (hshort hb.symm)).mpr ⟨hts, rfl⟩, rfl⟩

/-- A content that is not made up of elements is not read as such. -/
theorem exists_readAll_iff (hr : Reads reader depth) :
    (∃ ts, readAll reader content.length offset content = .ok ts) ↔ AreElements depth content := by
  simp only [readAll_eq_ok_iff hr (Nat.le_refl _), areElements_iff]

/-- The children that are read are those that the content is split into. Under a constructed tag they have to be there. -/
theorem readChildren_eq_ok_iff (hr : Reads reader depth) :
    readChildren reader tag offset content = .ok children ↔
      (∀ child ∈ children, IsTree depth child) ∧ IsSplit depth tag content children := by
  have hall : ∀ {ts}, readAll reader content.length offset content = .ok ts ↔
      (∀ t ∈ ts, IsTree depth t) ∧ ts.flatMap octets = content := readAll_eq_ok_iff hr (Nat.le_refl _)
  unfold readChildren
  cases hc : tag.isConstructed with
  | true =>
    rw [if_pos rfl, hall]
    exact and_congr_right fun _ => ⟨.of_constructed hc, fun h => h.constructed hc⟩
  | false =>
    rw [if_neg Bool.false_ne_true]
    cases hs : tag.isOctetString with
    | false =>
      rw [if_neg Bool.false_ne_true, Except.ok.injEq]
      constructor
      · rintro rfl
        exact ⟨by simp, .nil hc (by simp [hs])⟩
      · exact fun h => (h.2.none hc (by simp [hs])).symm
    | true =>
      rw [if_pos rfl]
      cases hread : readAll reader content.length offset content with
      | ok found =>
        have hfound := hall.mp hread
        have hcontent : AreElements depth content := (exists_readAll_iff hr).mp ⟨found, hread⟩
        rw [Except.ok.injEq]
        constructor
        · rintro rfl
          exact ⟨hfound.1, .of_areElements hc hs hcontent hfound.2⟩
        · intro h
          have hchildren := hall.mpr ⟨h.1, h.2.octetString hc hs hcontent⟩
          rw [hread] at hchildren
          exact Except.ok.inj hchildren
      | error fault =>
        have hcontent : ¬ AreElements depth content := by
          intro h
          obtain ⟨found, hfound⟩ := (exists_readAll_iff hr).mpr h
          rw [hread] at hfound
          cases hfound
        rw [Except.ok.injEq]
        constructor
        · rintro rfl
          exact ⟨by simp, .nil hc fun _ => hcontent⟩
        · exact fun h => (h.2.none hc fun _ => hcontent).symm

/-- What reading one element comes to: a tag, a length, as much content as the length says, and the children in it. -/
theorem read_cons_eq_ok_iff {octet : UInt8} :
    read (levels + 1) offset (octet :: b) = .ok (t, rest) ↔
      ∃ tag size taken children, tag.octet = octet ∧ Length.read b = (.ok size, taken) ∧ size ≤ (b.drop taken).length ∧
        readChildren (read levels) tag (offset + 1 + taken) ((b.drop taken).take size) = .ok children ∧
          t = mk tag (b.take taken) ((b.drop taken).take size) children ∧ rest = (b.drop taken).drop size := by
  constructor
  · intro h
    rw [read] at h
    split at h
    · cases h
    · rename_i tag htag
      split at h
      · cases h
      · rename_i size taken hlen
        dsimp only at h
        split at h
        · cases h
        · rename_i hsize
          simp only [bind_eq_ok, pure_eq_ok, Prod.mk.injEq] at h
          obtain ⟨children, hchildren, rfl, rfl⟩ := h
          exact ⟨tag, size, taken, children, Tag.ofOctet_eq_ok_iff.mp htag, hlen, Nat.not_lt.mp hsize, hchildren, rfl, rfl⟩
  · rintro ⟨tag, size, taken, children, htag, hlen, hsize, hchildren, rfl, rfl⟩
    rw [read, Tag.ofOctet_eq_ok_iff.mpr htag]
    dsimp only
    rw [hlen]
    dsimp only
    rw [if_neg (Nat.not_lt.mpr hsize), hchildren]
    rfl

/-- One element is read off the front. The induction is on the levels; the reader of one level less reads the children. -/
theorem read_eq_ok_iff (hlevels : levels + depth = 65) : Reads (read levels) depth := by
  induction levels generalizing depth with
  | zero =>
    intro offset b t rest
    simp only [read, reduceCtorEq, false_iff, not_and]
    intro h
    cases h
    omega
  | succ levels ih =>
    have hr : Reads (read levels) (depth + 1) := ih (by omega)
    intro offset b t rest
    constructor
    · intro h
      cases b with
      | nil => cases h
      | cons octet b =>
        obtain ⟨tag, size, taken, children, rfl, hlen, hsize, hchildren, rfl, rfl⟩ := read_cons_eq_ok_iff.mp h
        obtain ⟨htaken, hdenotes⟩ := Length.denotes_of_read hlen
        obtain ⟨hinner, hsplit⟩ := (readChildren_eq_ok_iff hr).mp hchildren
        have hcontent : ((b.drop taken).take size).length = size := by rw [List.length_take, Nat.min_eq_left hsize]
        rw [← hcontent] at hdenotes
        refine ⟨.mk (by omega) hdenotes hinner hsplit, ?_⟩
        rw [octets_mk, List.append_assoc, List.take_append_drop, List.cons_append, List.take_append_drop]
    · rintro ⟨⟨shallow, length, inner, split⟩, rfl⟩
      rename_i tag len content children
      have hlen := Length.read_append length (content ++ rest)
      have hchildren : readChildren (read levels) tag (offset + 1 + len.length) content = .ok children :=
        (readChildren_eq_ok_iff hr).mpr ⟨inner, split⟩
      rw [octets_mk, List.append_assoc, List.cons_append, read_cons_eq_ok_iff]
      refine ⟨tag, content.length, len.length, children, rfl, hlen, ?_⟩
      rw [List.drop_left, List.take_left, List.take_left, List.drop_left]
      exact ⟨by simp, hchildren, rfl, rfl⟩

/-- At one depth, octets are those of one tree only: it is what the reader takes off. -/
theorem IsTree.eq_of_octets {u : Element} (ht : IsTree depth t) (hu : IsTree depth u) (h : t.octets = u.octets) : t = u := by
  have hshallow : depth ≤ 64 := by
    obtain ⟨shallow, -, -, -⟩ := ht
    exact shallow
  have hr : Reads (read (65 - depth)) depth := read_eq_ok_iff (by omega)
  have hread : read (65 - depth) 0 t.octets = .ok (t, []) := (hr 0 _ _ _).mpr ⟨ht, (List.append_nil _).symm⟩
  have hread' : read (65 - depth) 0 t.octets = .ok (u, []) := (hr 0 _ _ _).mpr ⟨hu, by rw [h, List.append_nil]⟩
  rw [hread] at hread'
  cases hread'
  rfl

/-- A buffer is read when all of it is a tree. -/
theorem parse_eq_ok_iff : parse b = .ok t ↔ IsTree 0 t ∧ t.octets = b := by
  have hr : ∀ t rest, read (maxDepth + 1) 0 b = .ok (t, rest) ↔ IsTree 0 t ∧ b = t.octets ++ rest := read_eq_ok_iff rfl 0 b
  unfold parse
  cases hread : read (maxDepth + 1) 0 b with
  | error fault =>
    simp only [reduceCtorEq, false_iff]
    rintro ⟨ht, rfl⟩
    rw [(hr t []).mpr ⟨ht, (List.append_nil _).symm⟩] at hread
    cases hread
  | ok found =>
    obtain ⟨u, rest⟩ := found
    obtain ⟨hu, rfl⟩ := (hr u rest).mp hread
    cases rest with
    | nil =>
      simp only [List.isEmpty_nil, if_true, Except.ok.injEq, List.append_nil]
      constructor
      · rintro rfl
        exact ⟨hu, rfl⟩
      · rintro ⟨ht, heq⟩
        rw [(hr t []).mpr ⟨ht, by rw [heq]⟩] at hread
        cases hread
        rfl
    | cons octet rest =>
      simp only [List.isEmpty_cons, Bool.false_eq_true, if_false, reduceCtorEq, false_iff]
      rintro ⟨ht, heq⟩
      rw [(hr t []).mpr ⟨ht, by rw [heq, List.append_nil]⟩] at hread
      cases hread

/-- A buffer is read exactly when all of it is one element, and what is read is its tree. Whatever stands in the content of a
primitive element, the element is read, at every depth that elements may have. -/
theorem parse_exact (b : Bytes) :
    ((∃ t, parse b = .ok t) ↔ IsElement 0 b) ∧ (∀ t, parse b = .ok t ↔ IsTree 0 t ∧ t.octets = b) ∧
      ∀ depth ≤ 64, ∀ offset (tag : Tag) len content rest, tag.isConstructed = false →
        Length.Denotes len content.length →
          ∃ t, read (65 - depth) offset (tag.octet :: len ++ content ++ rest) = .ok (t, rest) := by
  refine ⟨?_, fun t => parse_eq_ok_iff, ?_⟩
  · simp only [parse_eq_ok_iff, isElement_iff]
  · intro depth shallow offset tag len content rest hp length
    have hbit : tag.octet &&& 0x20 = 0 :=
      of_not_not fun h => Bool.false_ne_true (hp.symm.trans (Tag.isConstructed_iff.mpr h))
    obtain ⟨t, ht, heq⟩ := isElement_iff.mp (.primitive shallow tag.isTagOctet hbit length)
    exact ⟨t, (read_eq_ok_iff (Nat.sub_add_cancel (Nat.le_succ_of_le shallow)) offset _ t rest).mpr ⟨ht, by rw [heq]⟩⟩

end ArtifactTrust.Der.Element
