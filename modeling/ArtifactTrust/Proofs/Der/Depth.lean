import ArtifactTrust.Proofs.Der.Shortest

/-!
# Elements at other depths

What is an element at a depth is one at every smaller depth (`IsElement.mono`), but its tree may be another: an OCTET STRING at
the lowest level has no elements in it, further up it may have some. Octets alone decide where an element ends (`IsFramed`), so
they split into elements in one way only (`flatten_inj`), and the octets of a tree determine what `Element.toDer` writes for it at
whatever depth it was read (`Element.IsTree.toDer_congr`). A tree further up may have elements where the other one has none, and
has the same ones where the other one has some (`Element.IsTree.unfolds`).

So elements can be taken out of a tree and put together elsewhere. `Element.Fits` says that an element may stand at a depth and is
in the shortest form; what is built of such elements is what `Element.encode` makes of their octets, and fits one level up
(`Element.exists_build_eq`).
-/

namespace ArtifactTrust.Der

/-! ## Where elements end -/

/-- Octets in the form of an element: an octet for the tag, a length, and as much content, whatever it is. -/
inductive IsFramed : Bytes → Prop where
  | mk {octet : UInt8} {len content : Bytes} (length : Length.Denotes len content.length) :
      IsFramed (octet :: len ++ content)

/-- The length tells where the content begins and where it ends. -/
theorem frame_append_inj {octet octet' : UInt8} {len len' content content' rest rest' : Bytes}
    (length : Length.Denotes len content.length) (length' : Length.Denotes len' content'.length)
    (h : octet :: len ++ content ++ rest = octet' :: len' ++ content' ++ rest') :
    octet = octet' ∧ len = len' ∧ content = content' ∧ rest = rest' := by
  rw [List.append_assoc, List.append_assoc, List.cons_append, List.cons_append] at h
  obtain ⟨hoctet, h⟩ := List.cons.inj h
  have hread := Length.read_append length (content ++ rest)
  rw [h, Length.read_append length', Prod.mk.injEq, Except.ok.injEq] at hread
  obtain ⟨hlen, hcontent⟩ := List.append_inj h hread.2.symm
  obtain ⟨hcontent, hrest⟩ := List.append_inj hcontent hread.1.symm
  exact ⟨hoctet, hlen, hcontent, hrest⟩

theorem IsFramed.append_inj {a b rest rest' : Bytes} (ha : IsFramed a) (hb : IsFramed b) (h : a ++ rest = b ++ rest') :
    a = b ∧ rest = rest' := by
  obtain ⟨length⟩ := ha
  obtain ⟨length'⟩ := hb
  obtain ⟨rfl, rfl, rfl, hrest⟩ := frame_append_inj length length' h
  exact ⟨rfl, hrest⟩

theorem IsFramed.ne_nil {b : Bytes} (h : IsFramed b) : b ≠ [] := by
  obtain ⟨-⟩ := h
  exact List.cons_ne_nil _ _

/-- Octets split into elements in one way only. -/
theorem flatten_inj {parts parts' : List Bytes} (h : ∀ part ∈ parts, IsFramed part) (h' : ∀ part ∈ parts', IsFramed part)
    (heq : parts.flatten = parts'.flatten) : parts = parts' := by
  induction parts generalizing parts' with
  | nil =>
    cases parts' with
    | nil => rfl
    | cons part' parts' =>
      rw [List.flatten_nil, List.flatten_cons, eq_comm, List.append_eq_nil_iff] at heq
      exact absurd heq.1 (h' part' List.mem_cons_self).ne_nil
  | cons part parts ih =>
    cases parts' with
    | nil =>
      rw [List.flatten_nil, List.flatten_cons, List.append_eq_nil_iff] at heq
      exact absurd heq.1 (h part List.mem_cons_self).ne_nil
    | cons part' parts' =>
      rw [List.forall_mem_cons] at h h'
      obtain ⟨rfl, hrest⟩ := h.1.append_inj h'.1 heq
      rw [ih h.2 h'.2 hrest]

/-- An element may stand at every smaller depth. -/
theorem IsElement.mono {depth shallower : Nat} {b : Bytes} (h : IsElement depth b) (hle : shallower ≤ depth) :
    IsElement shallower b := by
  induction h generalizing shallower with
  | primitive shallow tag bit length => exact .primitive (Nat.le_trans hle shallow) tag bit length
  | constructed shallow tag bit length inner ih =>
    exact .constructed (Nat.le_trans hle shallow) tag bit length fun part hp => ih part hp (Nat.succ_le_succ hle)

theorem AreElements.mono {depth shallower : Nat} {b : Bytes} (h : AreElements depth b) (hle : shallower ≤ depth) :
    AreElements shallower b := by
  obtain ⟨parts, hparts, hb⟩ := h
  exact ⟨parts, fun part hp => (hparts part hp).mono hle, hb⟩

namespace Element

variable {depth depth' levels : Nat} {tag : Tag} {content : Bytes} {t u : Element} {ts us : List Element}

/-! ## Trees of the same octets -/

theorem IsTree.isFramed (h : IsTree depth t) : IsFramed t.octets := by
  obtain ⟨-, length, -, -⟩ := h
  exact .mk length

/-- The octets determine the tag and the content. -/
theorem IsTree.parts_eq (ht : IsTree depth t) (hu : IsTree depth' u) (h : t.octets = u.octets) :
    t.tag = u.tag ∧ t.content = u.content := by
  obtain ⟨-, length, -, -⟩ := ht
  obtain ⟨-, length', -, -⟩ := hu
  obtain ⟨htag, -, hcontent, -⟩ := frame_append_inj length length' (congrArg (· ++ []) h)
  exact ⟨Tag.eq_of_octet htag, hcontent⟩

/-- Only a constructed element or an OCTET STRING has elements in it, and they make up its content. -/
theorem IsTree.of_children_ne_nil (h : IsTree depth t) (hne : t.children ≠ []) :
    (t.tag.isConstructed = true ∨ t.tag.isOctetString = true) ∧ t.children.flatMap octets = t.content := by
  obtain ⟨-, -, -, split⟩ := h
  rename_i tag len content children
  cases hc : tag.isConstructed with
  | true => exact ⟨.inl hc, split.constructed hc⟩
  | false =>
    by_cases hcontent : tag.isOctetString = true ∧ AreElements (depth + 1) content
    · exact ⟨.inr hcontent.1, split.octetString hc hcontent.1 hcontent.2⟩
    · exact absurd (split.none hc fun hs ha => hcontent ⟨hs, ha⟩) hne

theorem IsTree.flatMap_children_of_constructed (h : IsTree depth t) (hc : t.tag.isConstructed = true) :
    t.children.flatMap octets = t.content := by
  obtain ⟨-, -, -, split⟩ := h
  exact split.constructed hc

theorem IsTree.child (h : IsTree depth t) : ∀ child ∈ t.children, IsTree (depth + 1) child := by
  obtain ⟨-, -, inner, -⟩ := h
  exact inner

/-- Trees of the same octets denote the same object identifier, if any. -/
theorem IsTree.oid_congr (ht : IsTree depth t) (hu : IsTree depth' u) (h : t.octets = u.octets) : t.oid = u.oid := by
  obtain ⟨htag, hcontent⟩ := ht.parts_eq hu h
  simp only [oid, typed, htag, hcontent]

/-- Trees of the same octets have the same elements one after the other. -/
theorem map_octets_eq (ht : ∀ t ∈ ts, ∃ depth, IsTree depth t) (hu : ∀ u ∈ us, ∃ depth, IsTree depth u)
    (h : ts.flatMap octets = us.flatMap octets) : ts.map octets = us.map octets := by
  rw [List.flatMap_def, List.flatMap_def] at h
  refine flatten_inj ?_ ?_ h
  · exact List.forall_mem_map.mpr fun t hm => (ht t hm).elim fun _ h => h.isFramed
  · exact List.forall_mem_map.mpr fun u hm => (hu u hm).elim fun _ h => h.isFramed

theorem flatMap_toDer_congr (h : ts.map octets = us.map octets)
    (htoDer : ∀ t ∈ ts, ∀ u ∈ us, t.octets = u.octets → t.toDer = u.toDer) : ts.flatMap toDer = us.flatMap toDer := by
  induction ts generalizing us with
  | nil => rw [List.map_eq_nil_iff.mp h.symm]
  | cons t ts ih =>
    obtain ⟨u, us, rfl, hu, hus⟩ := List.map_eq_cons_iff.mp h.symm
    rw [List.flatMap_cons, List.flatMap_cons, htoDer t List.mem_cons_self u List.mem_cons_self hu.symm,
      ih hus.symm fun t ht u hu => htoDer t (List.mem_cons_of_mem _ ht) u (List.mem_cons_of_mem _ hu)]

/-- What is written for a tree depends on its octets only, not on the depth it was read at. -/
theorem IsTree.toDer_congr (ht : IsTree depth t) (hu : IsTree depth' u) (h : t.octets = u.octets) : t.toDer = u.toDer := by
  induction ht generalizing depth' u with
  | @mk depth tag len content children shallow length inner split ih =>
    obtain ⟨htag, hcontent⟩ := IsTree.parts_eq (.mk shallow length inner split) hu h
    have huc := hu.child
    have hus := hu.flatMap_children_of_constructed
    obtain ⟨tag', len', content', children'⟩ := u
    obtain rfl : tag = tag' := htag
    obtain rfl : content = content' := hcontent
    by_cases hc : tag.isConstructed = true
    · have hmap : children.map octets = children'.map octets :=
        map_octets_eq (fun t hm => ⟨_, inner t hm⟩) (fun u hm => ⟨_, huc u hm⟩) ((split.constructed hc).trans (hus hc).symm)
      rw [toDer_of_constructed hc, toDer_of_constructed hc,
        flatMap_toDer_congr hmap fun t hm u hu h => ih t hm (huc u hu) h]
    · rw [toDer_of_primitive hc, toDer_of_primitive hc]

/-! ## Trees further up -/

/-- The elements in a node make up its content where the content is made up of elements at all. -/
theorem IsTree.flatMap_children_of_areElements (h : IsTree depth t)
    (hkind : t.tag.isConstructed = true ∨ t.tag.isOctetString = true) (hcontent : AreElements (depth + 1) t.content) :
    t.children.flatMap octets = t.content := by
  obtain ⟨-, -, -, split⟩ := h
  rename_i tag len content children
  cases hc : tag.isConstructed with
  | true => exact split.constructed hc
  | false => exact split.octetString hc (hkind.resolve_left fun h => Bool.false_ne_true (hc.symm.trans h)) hcontent

/-- Further up, a tree of the same octets has the same elements where the other one has some. -/
theorem IsTree.map_children_eq (ht : IsTree depth t) (hu : IsTree depth' u) (hle : depth' ≤ depth) (h : t.octets = u.octets)
    (hne : t.children ≠ []) : t.children.map octets = u.children.map octets := by
  obtain ⟨htag, hcontent⟩ := ht.parts_eq hu h
  obtain ⟨hkind, hflat⟩ := ht.of_children_ne_nil hne
  have hinner : AreElements (depth + 1) u.content := hcontent ▸ areElements_iff.mpr ⟨t.children, ht.child, hflat⟩
  have hflat' := hu.flatMap_children_of_areElements (htag ▸ hkind) (hinner.mono (Nat.succ_le_succ hle))
  exact map_octets_eq (fun t hm => ⟨_, ht.child t hm⟩) (fun u hm => ⟨_, hu.child u hm⟩)
    (hflat.trans (hcontent.trans hflat'.symm))

/-- Lists of trees with the same octets, one by one, have such trees in the same places. -/
theorem exists_getElem?_of_map_eq {ts us : List Element} {place : Nat} (h : ts.map octets = us.map octets)
    (ht : ts[place]? = some t) : ∃ u, us[place]? = some u ∧ u.octets = t.octets := by
  have hplace : (us.map octets)[place]? = some t.octets := by
    rw [← h, List.getElem?_map, ht]
    rfl
  rw [List.getElem?_map] at hplace
  exact Option.map_eq_some_iff.mp hplace

/-- A tree unfolds another one: wherever the other has a node, it has one of the same tag, length and content there, with as
many elements in it if the other's has any. -/
def Unfolds (u t : Element) : Prop :=
  ∀ path e, t.at? path = some e → ∃ e', u.at? path = some e' ∧ e'.tag = e.tag ∧ e'.content = e.content ∧
    e'.octets = e.octets ∧ (e.children ≠ [] → e'.children.length = e.children.length)

/-- A tree of the same octets further up unfolds the other one. The induction is on the path: a step down leads from one pair of
such trees to another. -/
theorem IsTree.unfolds (ht : IsTree depth t) (hu : IsTree depth' u) (hle : depth' ≤ depth) (h : t.octets = u.octets) :
    u.Unfolds t := by
  intro path
  induction path generalizing t u depth depth' with
  | nil =>
    rintro e ⟨⟩
    obtain ⟨htag, hcontent⟩ := ht.parts_eq hu h
    refine ⟨u, rfl, htag.symm, hcontent.symm, h.symm, fun hne => ?_⟩
    have hlength := congrArg List.length (ht.map_children_eq hu hle h hne)
    rwa [List.length_map, List.length_map, eq_comm] at hlength
  | cons i path ih =>
    intro e he
    obtain ⟨child, hchild, he⟩ := Option.bind_eq_some_iff.mp he
    have hmem : child ∈ t.children := List.mem_of_getElem? hchild
    obtain ⟨child', hchild', hsame⟩ :=
      exists_getElem?_of_map_eq (ht.map_children_eq hu hle h (List.ne_nil_of_mem hmem)) hchild
    obtain ⟨e', he', hfacts⟩ := ih (ht.child child hmem) (hu.child child' (List.mem_of_getElem? hchild'))
      (Nat.succ_le_succ hle) hsame.symm e he
    exact ⟨e', Option.bind_eq_some_iff.mpr ⟨child', hchild', he'⟩, hfacts⟩

/-! ## Building -/

/-- A tree in the shortest form, the octets of which may stand at a depth. It may have been read at another one. -/
structure Fits (depth : Nat) (t : Element) : Prop where
  isTree : ∃ depth, IsTree depth t
  isElement : IsElement depth t.octets
  shortest : t.toDer = t.octets

theorem IsTree.fits (h : IsTree depth t) (hs : t.toDer = t.octets) : t.Fits depth := ⟨⟨depth, h⟩, h.isElement, hs⟩

theorem Fits.mono (h : t.Fits depth) (hle : depth' ≤ depth) : t.Fits depth' := ⟨h.isTree, h.isElement.mono hle, h.shortest⟩

/-- Another tree of the same octets fits where it stands. -/
theorem Fits.congr (h : t.Fits depth) (hu : IsTree depth' u) (heq : u.octets = t.octets) : u.Fits depth' := by
  obtain ⟨d, ht⟩ := h.isTree
  exact hu.fits ((hu.toDer_congr ht heq).trans (h.shortest.trans heq.symm))

/-- Of an element in the shortest form, those inside are in the shortest form too. -/
theorem IsTree.child_fits (h : IsTree depth t) (hs : t.toDer = t.octets) (hc : t.tag.isConstructed = true) :
    ∀ child ∈ t.children, child.Fits (depth + 1) := by
  have hshortest : t.IsShortest := of_not_not fun hns => Nat.ne_of_lt (h.length_toDer_lt hns) (congrArg List.length hs)
  intro child hm
  exact (h.child child hm).fits ((h.child child hm).toDer_eq_octets ((isShortest_iff.mp hshortest).2 hc child hm))

theorem flatMap_toDer_eq_octets (h : ∀ t ∈ ts, t.Fits depth) : ts.flatMap toDer = ts.flatMap octets :=
  List.flatMap_congr fun t hm => (h t hm).shortest

/-- What can be read as an element is not too long to be written. Of a longer content the length alone would take more octets
than any length that is read. -/
theorem IsTree.length_lt_of_encode (h : IsTree depth t) (henc : t.octets = encode tag content) :
    content.length < 256 ^ 6 := by
  obtain ⟨-, length, -, -⟩ := h
  rename_i tag' len content' children
  have htotal := congrArg List.length henc
  rw [octets_mk, encode, List.length_append, List.length_append, List.length_cons, List.length_cons] at htotal
  have hlen := length.length_le
  have hread := length.lt
  by_contra hlong
  have hmore : ¬ (Length.significant content.length).length ≤ 6 := by rwa [Length.length_significant_le_iff]
  rw [Length.length_encode_of_ge (by omega)] at htotal
  omega

/-- The parts of an element that is written. -/
theorem IsTree.parts_of_encode (h : IsTree depth t) (henc : t.octets = encode tag content) :
    t.tag = tag ∧ t.content = content := by
  have hlt := h.length_lt_of_encode henc
  obtain ⟨-, length, -, -⟩ := h
  obtain ⟨htag, -, hcontent, -⟩ := frame_append_inj length (Length.denotes_encode hlt) (congrArg (· ++ []) henc)
  exact ⟨Tag.eq_of_octet htag, hcontent⟩

theorem isFramed_encode (h : content.length < 256 ^ 6) : IsFramed (encode tag content) := .mk (Length.denotes_encode h)

/-- The elements in an element that is written of several parts. -/
theorem IsTree.children_of_encode {parts : List Bytes} (h : IsTree depth t) (hc : tag.isConstructed = true)
    (hparts : ∀ part ∈ parts, IsFramed part) (henc : t.octets = encode tag parts.flatten) :
    t.tag = tag ∧ t.children.map octets = parts := by
  obtain ⟨htag, hcontent⟩ := h.parts_of_encode henc
  have hchildren := (h.flatMap_children_of_constructed (htag ▸ hc)).trans hcontent
  rw [List.flatMap_def] at hchildren
  refine ⟨htag, flatten_inj (List.forall_mem_map.mpr fun child hm => (h.child child hm).isFramed) hparts hchildren⟩

/-- Trees of the same octets fit one by one. -/
theorem fits_of_map_eq (h : us.map octets = ts.map octets) (hus : ∀ u ∈ us, IsTree depth' u) (hts : ∀ t ∈ ts, t.Fits depth) :
    ∀ u ∈ us, u.Fits depth' := by
  intro u hu
  obtain ⟨t, ht, heq⟩ := List.mem_map.mp (h ▸ List.mem_map_of_mem (f := octets) hu)
  exact (hts t ht).congr (hus u hu) heq.symm

/-- A constructed element is in the shortest form if its own length is and the elements in it are. -/
theorem IsTree.fits_of_encode (h : IsTree depth t) (hc : tag.isConstructed = true) (henc : t.octets = encode tag content)
    (hchildren : ∀ child ∈ t.children, child.Fits (depth + 1)) : t.Fits depth := by
  obtain ⟨htag, hcontent⟩ := h.parts_of_encode henc
  have hflat := (flatMap_toDer_eq_octets hchildren).trans (h.flatMap_children_of_constructed (htag ▸ hc))
  refine h.fits ?_
  obtain ⟨tag', len, content', children⟩ := t
  obtain rfl : tag' = tag := htag
  rw [toDer_of_constructed hc, henc]
  exact congrArg (encode tag') (hflat.trans hcontent)

/-- A constructed element in the shortest form is written from the elements in it. -/
theorem IsTree.octets_eq_encode (h : IsTree depth t) (hs : t.toDer = t.octets) (hc : t.tag.isConstructed = true) :
    t.octets = encode t.tag (t.children.flatMap octets) := by
  have hchildren := flatMap_toDer_eq_octets (h.child_fits hs hc)
  obtain ⟨tag, len, content, children⟩ := t
  replace hc : tag.isConstructed = true := hc
  rw [← hs, toDer_of_constructed hc]
  exact congrArg (encode tag) hchildren

theorem length_encode_mono {tag tag' : Tag} {content content' : Bytes} (h : content.length ≤ content'.length) :
    (encode tag content).length ≤ (encode tag' content').length := by
  have hmono := Length.length_encode_mono h
  simp only [encode, List.length_append, List.length_cons]
  omega

theorem isElement_encode (hc : tag.isConstructed = true) (shallow : depth ≤ 64)
    (hts : ∀ t ∈ ts, IsElement (depth + 1) t.octets) (hlength : (ts.flatMap octets).length < 256 ^ 6) :
    IsElement depth (encode tag (ts.flatMap octets)) := by
  have hdenotes := Length.denotes_encode hlength
  rw [List.flatMap_def] at hdenotes ⊢
  exact .constructed shallow tag.isTagOctet (Tag.isConstructed_iff.mp hc) hdenotes (List.forall_mem_map.mpr hts)

/-- A primitive element is in the shortest form if its length is. -/
theorem IsTree.fits_of_encode_primitive (h : IsTree depth t) (hp : ¬ tag.isConstructed = true)
    (henc : t.octets = encode tag content) : t.Fits depth := by
  obtain ⟨htag, hcontent⟩ := h.parts_of_encode henc
  refine h.fits ?_
  obtain ⟨tag', len, content', children⟩ := t
  obtain rfl : tag' = tag := htag
  obtain rfl : content' = content := hcontent
  rw [toDer_of_primitive hp, henc]

theorem length_le_length_encode (tag : Tag) (content : Bytes) : content.length ≤ (encode tag content).length := by
  rw [encode, List.length_append]
  omega

/-- Elements that fit, put together under a constructed tag, make an element that fits one level up. -/
theorem exists_build_eq (hc : tag.isConstructed = true) (shallow : depth ≤ 64) (hts : ∀ t ∈ ts, t.Fits (depth + 1))
    (hlength : (ts.flatMap octets).length < 256 ^ 6) :
    ∃ t, build tag ts = .ok t ∧ t.octets = encode tag (ts.flatMap octets) ∧ t.Fits depth := by
  have helement := isElement_encode hc shallow (fun t hm => (hts t hm).isElement) hlength
  obtain ⟨t, ht, henc⟩ := isElement_iff.mp (helement.mono (Nat.zero_le depth))
  have hframed : ∀ part ∈ ts.map octets, IsFramed part :=
    List.forall_mem_map.mpr fun t hm => (hts t hm).isTree.elim fun _ h => h.isFramed
  have hmap := (ht.children_of_encode hc hframed (by rw [henc, List.flatMap_def])).2
  have hfits := ht.fits_of_encode hc henc (fits_of_map_eq hmap ht.child hts)
  refine ⟨t, ?_, henc, ⟨0, ht⟩, henc ▸ helement, hfits.shortest⟩
  rw [build, if_pos hc, toDerAll_eq_flatMap, flatMap_toDer_eq_octets hts]
  exact parse_eq_ok_iff.mpr ⟨ht, henc⟩

end Element

end ArtifactTrust.Der
