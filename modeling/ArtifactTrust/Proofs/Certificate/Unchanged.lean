import ArtifactTrust.Proofs.Certificate.Extensions

/-!
# What becomes of everything else

Leaving an extension out writes what is certified anew: every length in the shortest form, and of each field of number 3 nothing but
the elements of its first element, as a SEQUENCE (`Certificate.without_eq_ok_iff`). Main statement: without an extension to leave out
the octets stay what they were exactly if there is nothing else for this to change (`Certificate.without_absent_iff`).
-/

namespace ArtifactTrust

open Der Element Success

namespace Der.Element

variable {depth : Nat} {tag : Tag} {t : Element} {ts : List Element}

theorem Fits.shorten (h : t.Fits depth) : t.shorten.Fits depth := by
  obtain ⟨d, ht⟩ := h.isTree
  have heq : t.shorten.octets = t.octets := (octets_shorten t).trans h.shortest
  exact ⟨⟨d, ht.shorten⟩, heq ▸ h.isElement, (ht.toDer_shorten.trans (octets_shorten t).symm)⟩

theorem IsTree.fits_shorten (h : IsTree depth t) : t.shorten.Fits depth :=
  h.shorten.fits (h.toDer_shorten.trans (octets_shorten t).symm)

theorem isConstructed_sequence : Tag.sequence.isConstructed = true := rfl

/-- Elements put together under a constructed tag are written in the shortest form. -/
theorem exists_build_eq_toDer (hc : tag.isConstructed = true) (shallow : depth ≤ 64)
    (hts : ∀ t ∈ ts, t.shorten.Fits (depth + 1)) (hlength : (ts.flatMap toDer).length < 256 ^ 6) :
    ∃ t, build tag ts = .ok t ∧ t.toDer = encode tag (ts.flatMap toDer) ∧ t.Fits depth := by
  have hoctets : (ts.map Element.shorten).flatMap octets = ts.flatMap toDer := by
    rw [List.flatMap_map]
    exact List.flatMap_congr fun t _ => octets_shorten t
  obtain ⟨t, ht, hoct, hfits⟩ := exists_build_eq hc shallow (List.forall_mem_map.mpr hts) (hoctets ▸ hlength)
  have htoDer : (ts.map Element.shorten).flatMap toDer = ts.flatMap toDer := by
    rw [← hoctets]
    exact List.flatMap_congr fun u hu => by
      obtain ⟨t, hm, rfl⟩ := List.mem_map.mp hu
      exact (hts t hm).shortest
  refine ⟨t, ?_, by rw [hfits.shortest, hoct, hoctets], hfits⟩
  rw [build, if_pos hc, toDerAll_eq_flatMap] at ht ⊢
  rwa [htoDer] at ht

theorem IsTree.length_content_lt (h : IsTree depth t) : t.content.length < 256 ^ 6 := by
  obtain ⟨-, length, -, -⟩ := h
  exact length.lt

/-- The elements in an element take no more octets than its content. -/
theorem IsTree.length_flatMap_children_le (h : IsTree depth t) : (t.children.flatMap octets).length ≤ t.content.length := by
  by_cases hnil : t.children = []
  · simp [hnil]
  · rw [(h.of_children_ne_nil hnil).2]

theorem IsTree.length_child_le {child : Element} (h : IsTree depth t) (hm : child ∈ t.children) :
    child.octets.length ≤ t.content.length := by
  have hsub := (List.singleton_sublist.mpr hm).flatMap octets
  rw [List.flatMap_singleton] at hsub
  exact hsub.length_le.trans h.length_flatMap_children_le

/-- A content that is no longer, under any tag, takes no more octets. -/
theorem IsTree.length_encode_le {content : Bytes} (h : IsTree depth t) (hle : content.length ≤ t.content.length) :
    (encode tag content).length ≤ t.octets.length := by
  obtain ⟨-, length, -, -⟩ := h
  exact (length_encode_mono (Nat.le_refl _)).trans (length_encode_le_octets length hle)

/-- Only a constructed element of a context-specific number has elements in it. -/
theorem IsTree.isConstructed_of_isContext {child : Element} {number : UInt8} (h : IsTree depth t)
    (hnumber : t.tag.isContext number = true) (hm : child ∈ t.children) : t.tag.isConstructed = true := by
  refine (h.of_children_ne_nil (List.ne_nil_of_mem hm)).1.resolve_right fun hs => ?_
  exact (Tag.isContext_iff.mp hnumber).1.1 (UInt8.lt_trans (Tag.isUniversal_iff.mp hs).1 (by decide))

end Der.Element

namespace Certificate

variable {recognized : List Oid} {der w : Bytes} {c : Certificate} {oid : Oid} {field : Element} {xs kept : List Element}

/-! ## What is written -/

/-- What is written for a field. Of one of number 3 it is the first element, whatever it is, as a SEQUENCE of what it lists. -/
def octetsWithout (oid : Oid) (field : Element) : Bytes :=
  if field.tag.isContext 3 then
    match field.children with
    | [] => field.toDer
    | sequence :: _ =>
      encode field.tag (encode .sequence ((sequence.children.filter fun x => identifier? x ≠ some oid).flatMap toDer))
  else field.toDer

/-- What is written of elements does not take more octets than they had. -/
theorem length_flatMap_toDer_le {depth : Nat} (h : ∀ x ∈ xs, IsTree depth x) :
    (xs.flatMap toDer).length ≤ (xs.flatMap octets).length := by
  rw [List.length_flatMap, List.length_flatMap]
  exact List.sum_le_sum fun x hx => (h x hx).length_toDer_le

/-- A list that keeps some of the elements in an element does not take more octets than the content. -/
theorem length_kept_le {depth : Nat} {sequence : Element} (h : IsTree depth sequence) (hsub : kept.Sublist sequence.children) :
    (kept.flatMap toDer).length ≤ sequence.content.length := by
  calc (kept.flatMap toDer).length
      ≤ (kept.flatMap octets).length := length_flatMap_toDer_le fun x hx => h.child x (hsub.subset hx)
    _ ≤ (sequence.children.flatMap octets).length := (hsub.flatMap octets).length_le
    _ ≤ sequence.content.length := h.length_flatMap_children_le

theorem length_octetsWithout_le {depth : Nat} (h : IsTree depth field) :
    (octetsWithout oid field).length ≤ field.octets.length := by
  unfold octetsWithout
  split
  · split
    · exact h.length_toDer_le
    · rename_i sequence others hchildren
      have hsequence : IsTree (depth + 1) sequence := h.child sequence (hchildren ▸ List.mem_cons_self)
      exact h.length_encode_le ((hsequence.length_encode_le (length_kept_le hsequence List.filter_sublist)).trans
        (h.length_child_le (hchildren ▸ List.mem_cons_self)))
  · exact h.length_toDer_le

/-- A field is written anew if the identifiers of what it lists can be read. -/
theorem exists_fieldWithout (oid : Oid) (h : IsTree 2 field)
    (hall : field.tag.isContext 3 = true → ∀ x ∈ listed field, HasIdentifier x) :
    ∃ g, fieldWithout oid field = .ok g ∧ g.shorten.Fits 2 ∧ g.toDer = octetsWithout oid field := by
  by_cases hnumber : field.tag.isContext 3 = true
  · rw [fieldWithout, octetsWithout, if_pos hnumber, if_pos hnumber]
    cases hchildren : field.children with
    | nil => exact ⟨field, rfl, h.fits_shorten, rfl⟩
    | cons sequence others =>
      have hmem : sequence ∈ field.children := hchildren ▸ List.mem_cons_self
      have hsequence : IsTree 3 sequence := h.child sequence hmem
      have hkeep : keepOthers oid sequence.children = .ok _ :=
        keepOthers_eq_ok_iff.mpr ⟨by simpa [listed, hchildren] using hall hnumber, rfl⟩
      have hlength := length_kept_le hsequence (List.filter_sublist (p := fun x => identifier? x ≠ some oid))
      obtain ⟨inner, hinner, hinnerDer, hinnerFits⟩ := exists_build_eq_toDer isConstructed_sequence (show 3 ≤ 64 by decide)
        (fun x hx => (hsequence.child x (List.filter_sublist.subset hx)).fits_shorten)
        (Nat.lt_of_le_of_lt hlength hsequence.length_content_lt)
      have hinnerLe : ([inner].flatMap toDer).length ≤ field.content.length := by
        rw [List.flatMap_singleton, hinnerDer]
        exact (hsequence.length_encode_le hlength).trans (h.length_child_le hmem)
      obtain ⟨g, hg, hgDer, hgFits⟩ := exists_build_eq_toDer (h.isConstructed_of_isContext hnumber hmem)
        (show 2 ≤ 64 by decide) (List.forall_mem_singleton.mpr hinnerFits.shorten)
        (Nat.lt_of_le_of_lt hinnerLe h.length_content_lt)
      refine ⟨g, ?_, hgFits.shorten, by rw [hgDer, List.flatMap_singleton, hinnerDer]⟩
      exact bind_eq_ok.mpr ⟨_, hkeep, bind_eq_ok.mpr
        ⟨inner, PublicKey.reading_eq_ok.mpr hinner, PublicKey.reading_eq_ok.mpr hg⟩⟩
  · rw [fieldWithout, octetsWithout, if_neg hnumber, if_neg hnumber]
    exact ⟨field, rfl, h.fits_shorten, rfl⟩

/-- The identifiers of what a field lists are read before it is written. -/
theorem hasIdentifier_of_fieldWithout {g : Element} (h : fieldWithout oid field = .ok g)
    (hnumber : field.tag.isContext 3 = true) : ∀ x ∈ listed field, HasIdentifier x := by
  rw [fieldWithout, if_pos hnumber] at h
  split at h
  · rename_i hchildren
    simp [listed, hchildren]
  · rename_i sequence others hchildren
    obtain ⟨kept, hkeep, -⟩ := bind_eq_ok.mp h
    simpa [listed, hchildren] using (keepOthers_eq_ok_iff.mp hkeep).1

/-- The identifiers of everything that is listed can be read. -/
def IdentifiersRead (c : Certificate) : Prop := ∀ x ∈ c.extensionFields.flatMap listed, HasIdentifier x

theorem IdentifiersRead.of_mem (h : c.IdentifiersRead) (hm : field ∈ c.body.children)
    (hnumber : field.tag.isContext 3 = true) : ∀ x ∈ listed field, HasIdentifier x := fun x hx =>
  h x (List.mem_flatMap.mpr ⟨field, List.mem_filter.mpr ⟨hm, hnumber⟩, hx⟩)

/-- What is written where all identifiers can be read. -/
theorem IsParsed.without_eq (h : IsParsed recognized der c) (hread : c.IdentifiersRead) :
    c.without oid = .ok (encode .sequence (c.body.children.flatMap (octetsWithout oid))) := by
  have hchild : ∀ field ∈ c.body.children, IsTree 2 field := h.body_isTree.child
  choose! anew hanew hfits htoDer using fun field (hm : field ∈ c.body.children) =>
    exists_fieldWithout oid (hchild field hm) (hread.of_mem hm)
  have hwritten : (c.body.children.map anew).flatMap toDer = c.body.children.flatMap (octetsWithout oid) := by
    rw [List.flatMap_map]
    exact List.flatMap_congr htoDer
  have hlength : (c.body.children.flatMap (octetsWithout oid)).length ≤ c.body.content.length := by
    calc (c.body.children.flatMap (octetsWithout oid)).length
        ≤ (c.body.children.flatMap octets).length := by
          rw [List.length_flatMap, List.length_flatMap]
          exact List.sum_le_sum fun field hm => length_octetsWithout_le (hchild field hm)
      _ ≤ c.body.content.length := h.body_isTree.length_flatMap_children_le
  obtain ⟨whole, hwhole, hwholeDer, hwholeFits⟩ := exists_build_eq_toDer isConstructed_sequence (show 1 ≤ 64 by decide)
    (List.forall_mem_map.mpr hfits) (hwritten ▸ Nat.lt_of_le_of_lt hlength h.body_isTree.length_content_lt)
  have hmap : c.body.children.mapM (fieldWithout oid) = .ok (c.body.children.map anew) :=
    mapM_eq_ok.mpr (List.forall₂_map_right_iff.mpr (List.forall₂_same.mpr hanew))
  rw [without, h.body_tag]
  refine bind_eq_ok.mpr ⟨_, hmap, bind_eq_ok.mpr ⟨whole, PublicKey.reading_eq_ok.mpr hwhole, ?_⟩⟩
  rw [pure_eq_ok, ← hwholeFits.shortest, hwholeDer, hwritten]

theorem identifiersRead_of_without (h : c.without oid = .ok w) : c.IdentifiersRead := by
  obtain ⟨fields, hfields, -⟩ := bind_eq_ok.mp h
  intro x hx
  obtain ⟨field, hfield, hx⟩ := List.mem_flatMap.mp hx
  obtain ⟨hm, hnumber⟩ := List.mem_filter.mp hfield
  obtain ⟨g, -, hg⟩ := exists_mem_of_forall₂ (mapM_eq_ok.mp hfields) field hm
  exact hasIdentifier_of_fieldWithout hg hnumber x hx

/-- Leaving an extension out succeeds if all identifiers can be read, and then writes every field anew. -/
theorem IsParsed.without_eq_ok_iff (h : IsParsed recognized der c) :
    c.without oid = .ok w ↔ c.IdentifiersRead ∧ w = encode .sequence (c.body.children.flatMap (octetsWithout oid)) := by
  constructor
  · intro hw
    have hread := identifiersRead_of_without hw
    rw [h.without_eq hread, Except.ok.injEq] at hw
    exact ⟨hread, hw.symm⟩
  · rintro ⟨hread, rfl⟩
    exact h.without_eq hread

/-! ## What stays as it is -/

/-- A field with nothing in it, or with a SEQUENCE and nothing else. -/
def IsPlainField (field : Element) : Prop :=
  field.children = [] ∨ ∃ sequence, field.children = [sequence] ∧ sequence.tag = .sequence

theorem toDer_eq_encode {t : Element} (hc : t.tag.isConstructed = true) : t.toDer = encode t.tag (t.children.flatMap toDer) := by
  obtain ⟨tag, len, content, children⟩ := t
  exact toDer_of_constructed hc

/-- A plain field that lists nothing to leave out is written as any other. -/
theorem octetsWithout_eq_toDer {depth : Nat} (h : IsTree depth field)
    (hplain : field.tag.isContext 3 = true → IsPlainField field ∧ ∀ x ∈ listed field, identifier? x ≠ some oid) :
    octetsWithout oid field = field.toDer := by
  by_cases hnumber : field.tag.isContext 3 = true
  · obtain ⟨hchildren | ⟨sequence, hchildren, htag⟩, hkeep⟩ := hplain hnumber
    · rw [octetsWithout, if_pos hnumber, hchildren]
    · have hc := h.isConstructed_of_isContext hnumber (hchildren ▸ List.mem_cons_self)
      have hall : sequence.children.filter (fun x => identifier? x ≠ some oid) = sequence.children :=
        List.filter_eq_self.mpr fun x hx => by simpa using hkeep x (by simpa [listed, hchildren] using hx)
      rw [octetsWithout, if_pos hnumber, toDer_eq_encode hc, hchildren, List.flatMap_singleton,
        toDer_eq_encode (t := sequence) (by rw [htag]; rfl), htag]
      dsimp only
      rw [hall]
  · rw [octetsWithout, if_neg hnumber]

theorem isFramed_toDer {depth : Nat} {t : Element} (h : IsTree depth t) : IsFramed t.toDer :=
  octets_shorten t ▸ h.shorten.isFramed

/-- If a field of number 3 stays as it is, it is plain, and nothing that it lists is left out. -/
theorem isPlainField_of_octetsWithout {depth : Nat} (h : IsTree depth field) (hnumber : field.tag.isContext 3 = true)
    (heq : octetsWithout oid field = field.octets) :
    IsPlainField field ∧ ∀ x ∈ listed field, identifier? x ≠ some oid := by
  cases hchildren : field.children with
  | nil => exact ⟨.inl hchildren, by simp [listed, hchildren]⟩
  | cons sequence others =>
    have hmem : sequence ∈ field.children := hchildren ▸ List.mem_cons_self
    have hsequence : IsTree (depth + 1) sequence := h.child sequence hmem
    have hlength := length_kept_le hsequence (List.filter_sublist (p := fun x => identifier? x ≠ some oid))
    rw [octetsWithout, if_pos hnumber, hchildren] at heq
    dsimp only at heq
    have hparts := (h.children_of_encode (h.isConstructed_of_isContext hnumber hmem)
      (List.forall_mem_singleton.mpr (isFramed_encode (Nat.lt_of_le_of_lt hlength hsequence.length_content_lt)))
      (by rw [List.flatten_singleton, heq])).2
    rw [hchildren, List.map_cons, List.cons.injEq, List.map_eq_nil_iff] at hparts
    obtain ⟨hoctets, rfl⟩ := hparts
    rw [List.flatMap_def] at hoctets
    obtain ⟨htag, hkept⟩ := hsequence.children_of_encode (show Tag.sequence.isConstructed = true from rfl)
      (List.forall_mem_map.mpr fun x hx => isFramed_toDer (hsequence.child x (List.filter_sublist.subset hx))) hoctets
    -- As many elements are kept as there were.
    have hall : sequence.children.filter (fun x => identifier? x ≠ some oid) = sequence.children :=
      List.filter_sublist.eq_of_length (by simpa using (congrArg List.length hkept).symm)
    refine ⟨.inr ⟨sequence, hchildren, htag⟩, fun x hx => ?_⟩
    simpa using List.filter_eq_self.mp hall x (by simpa [listed, hchildren] using hx)

theorem octetsWithout_eq_octets_iff {depth : Nat} (h : IsTree depth field) : octetsWithout oid field = field.octets ↔
    field.toDer = field.octets ∧
      (field.tag.isContext 3 = true → IsPlainField field ∧ ∀ x ∈ listed field, identifier? x ≠ some oid) := by
  constructor
  · intro heq
    have hplain := fun hnumber => isPlainField_of_octetsWithout h hnumber heq
    exact ⟨(octetsWithout_eq_toDer h hplain).symm.trans heq, hplain⟩
  · rintro ⟨hs, hplain⟩
    exact (octetsWithout_eq_toDer h hplain).trans hs

/-- Everything stays as it is if each field does, under a length in the shortest form. -/
theorem IsParsed.encode_eq_signedBytes_iff (h : IsParsed recognized der c) (hread : c.IdentifiersRead) :
    encode .sequence (c.body.children.flatMap (octetsWithout oid)) = c.signedBytes ↔
      c.body.toDer = c.signedBytes ∧ ∀ field ∈ c.body.children, octetsWithout oid field = field.octets := by
  have htree := h.body_isTree
  have hc : c.body.tag.isConstructed = true := by rw [h.body_tag]; rfl
  constructor
  · intro heq
    have hframed : ∀ part ∈ c.body.children.map (octetsWithout oid), IsFramed part := by
      refine List.forall_mem_map.mpr fun field hm => ?_
      obtain ⟨g, -, ⟨⟨_, hg⟩, -⟩, htoDer⟩ := exists_fieldWithout oid (htree.child field hm) (hread.of_mem hm)
      rw [← htoDer, ← octets_shorten]
      exact hg.isFramed
    have hfields := (htree.children_of_encode isConstructed_sequence hframed (by rw [← List.flatMap_def]; exact heq.symm)).2
    have hsame : ∀ field ∈ c.body.children, octetsWithout oid field = field.octets :=
      fun field hm => (List.map_inj_left.mp hfields field hm).symm
    refine ⟨?_, hsame⟩
    rw [← heq, toDer_eq_encode hc, h.body_tag]
    exact congrArg _ (List.flatMap_congr fun field hm =>
      ((octetsWithout_eq_octets_iff (htree.child field hm)).mp (hsame field hm)).1.trans (hsame field hm).symm)
  · rintro ⟨hs, hsame⟩
    rw [List.flatMap_congr hsame]
    have heq := htree.octets_eq_encode hs hc
    rw [h.body_tag] at heq
    exact heq.symm

/-- What the first field of number 3 lists are extensions, whose identifiers have been read. -/
theorem IsParsed.hasIdentifier_firstListed (h : IsParsed recognized der c) (habsent : c.extension? oid = none) :
    ∀ x ∈ c.firstListed, HasIdentifier x ∧ identifier? x ≠ some oid := by
  intro x hx
  obtain ⟨e, hmem, he⟩ := exists_mem_of_forall₂ h.forall_firstListed x hx
  refine ⟨hasIdentifier_of_ofElement he, ?_⟩
  rw [identifier?_eq_some he]
  simpa using List.find?_eq_none.mp habsent e hmem

/-- Leaving out an identifier that no extension has. It succeeds if the identifiers of all that is listed can be read, and then writes
every field anew. The octets are what they were exactly if all lengths are in the shortest form, no field of number 3 holds anything
but a SEQUENCE, and the later of these fields list nothing with this identifier or with one that cannot be read. -/
theorem without_absent_iff (h : parseRecognizing recognized der = .ok c) (habsent : c.extension? oid = none) :
    (∀ w, c.without oid = .ok w ↔
      c.IdentifiersRead ∧ w = encode .sequence (c.body.children.flatMap (octetsWithout oid))) ∧
    (c.without oid = .ok c.signedBytes ↔
      c.body.toDer = c.signedBytes ∧ (∀ field ∈ c.extensionFields, IsPlainField field) ∧
        ∀ field ∈ c.extensionFields.tail, ∀ x ∈ listed field, HasIdentifier x ∧ identifier? x ≠ some oid) := by
  have hparsed := isParsed_of_parse h
  have hfirst := hparsed.hasIdentifier_firstListed habsent
  refine ⟨fun w => hparsed.without_eq_ok_iff, ?_⟩
  rw [hparsed.without_eq_ok_iff, eq_comm (a := c.signedBytes)]
  constructor
  · rintro ⟨hread, heq⟩
    obtain ⟨hs, hsame⟩ := (hparsed.encode_eq_signedBytes_iff hread).mp heq
    have hplain : ∀ field ∈ c.extensionFields, IsPlainField field ∧ ∀ x ∈ listed field, identifier? x ≠ some oid := by
      intro field hfield
      obtain ⟨hm, hnumber⟩ := List.mem_filter.mp hfield
      exact isPlainField_of_octetsWithout (hparsed.body_isTree.child field hm) hnumber (hsame field hm)
    refine ⟨hs, fun field hfield => (hplain field hfield).1, fun field hfield x hx => ?_⟩
    have hfield := List.mem_of_mem_tail hfield
    exact ⟨hread x (List.mem_flatMap.mpr ⟨field, hfield, hx⟩), (hplain field hfield).2 x hx⟩
  · rintro ⟨hs, hplain, hlater⟩
    have hall : ∀ x ∈ c.extensionFields.flatMap listed, HasIdentifier x ∧ identifier? x ≠ some oid := by
      rw [flatMap_listed_eq]
      refine List.forall_mem_append.mpr ⟨hfirst, fun x hx => ?_⟩
      obtain ⟨field, hfield, hx⟩ := List.mem_flatMap.mp hx
      exact hlater field hfield x hx
    have hread : c.IdentifiersRead := fun x hx => (hall x hx).1
    refine ⟨hread, (hparsed.encode_eq_signedBytes_iff hread).mpr ⟨hs, fun field hm => ?_⟩⟩
    refine (octetsWithout_eq_octets_iff (hparsed.body_isTree.child field hm)).mpr ⟨?_, fun hnumber => ?_⟩
    · exact (hparsed.body_isTree.child_fits hs (by rw [hparsed.body_tag]; rfl) field hm).shortest
    · have hfield : field ∈ c.extensionFields := List.mem_filter.mpr ⟨hm, hnumber⟩
      exact ⟨hplain field hfield, fun x hx => (hall x (List.mem_flatMap.mpr ⟨field, hfield, hx⟩)).2⟩

/-- A field of number 3 with a NULL after its SEQUENCE. -/
def surplusField : Bytes := encode extensionsTag (encode .sequence otherExtension ++ [0x05, 0x00])

/-- Whether a certificate has no timestamps, and leaving them out leaves these octets. -/
def leaves (octets : Bytes) (c : Certificate) : Bool :=
  (c.extension? Oid.timestampList).isNone && (c.without Oid.timestampList).toOption == some octets

/-- Two plain fields of number 3 stay as they are. Of the one with a NULL in it the other octets are left, which are not those that it
was written with. -/
theorem fields_facts : ((parse (derEnding twoFields)).toOption.any fun c => leaves c.signedBytes c) = true ∧
    ((parse (derEnding surplusField)).toOption.any fun c =>
      leaves plainCertificate.signedBytes c && plainCertificate.signedBytes != c.signedBytes) = true := by
  decide +kernel

theorem leaves_eq_true_iff {octets : Bytes} : leaves octets c = true ↔
    c.extension? Oid.timestampList = none ∧ c.without Oid.timestampList = .ok octets := by
  rw [leaves, Bool.and_eq_true, Option.isNone_iff_eq_none, beq_iff_eq, toOption_eq_some]

theorem without_absent_twoFields : ∃ c, parse (derEnding twoFields) = .ok c ∧ c.extension? Oid.timestampList = none ∧
    c.without Oid.timestampList = .ok c.signedBytes ∧ c.body.toDer = c.signedBytes ∧
      ∀ field ∈ c.extensionFields, IsPlainField field := by
  obtain ⟨c, hparse, hfacts⟩ := (Option.any_eq_true ..).mp fields_facts.1
  rw [toOption_eq_some] at hparse
  obtain ⟨habsent, hwithout⟩ := leaves_eq_true_iff.mp hfacts
  obtain ⟨hs, hplain, -⟩ := (without_absent_iff hparse habsent).2.mp hwithout
  exact ⟨c, hparse, habsent, hwithout, hs, hplain⟩

/-- A certificate without timestamps has the pre-certificate of another one: what stands after the extensions is lost. -/
theorem surplus_element_lost : ∃ c, parse (derEnding surplusField) = .ok c ∧ c.extension? Oid.timestampList = none ∧
    c.without Oid.timestampList = .ok plainCertificate.signedBytes ∧ plainCertificate.signedBytes ≠ c.signedBytes := by
  obtain ⟨c, hparse, hfacts⟩ := (Option.any_eq_true ..).mp fields_facts.2
  rw [toOption_eq_some] at hparse
  rw [Bool.and_eq_true, leaves_eq_true_iff, bne_iff_ne] at hfacts
  exact ⟨c, hparse, hfacts.1.1, hfacts.1.2, hfacts.2⟩

end Certificate

end ArtifactTrust
