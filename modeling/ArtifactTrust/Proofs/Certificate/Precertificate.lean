import ArtifactTrust.Certificate.Precertificate
import ArtifactTrust.Proofs.Certificate.Parse
import Mathlib.Data.List.Flatten

/-!
# What is left without an extension

Leaving an extension out takes what is certified apart and puts it together again three times: the sequence of the extensions, the
field around it, and the whole. Where every length was in the shortest form before, the only difference is the extension and the
three lengths around it (`Certificate.enclose`).
-/

namespace ArtifactTrust

open Der Element Success

namespace Certificate

variable {recognized : List Oid} {der : Bytes} {c : Certificate} {oid : Oid} {wrapper sequence : Element}
  {before after xs kept : List Element}

/-- The tag of the field that holds the extensions. -/
def extensionsTag : Tag := ⟨0xa3, by decide, by decide⟩

/-- What is certified, put together with shortest lengths: the fields before the extensions, the extensions, and the fields after
them. -/
def enclose (before extensions after : List Element) : Bytes :=
  encode .sequence (before.flatMap octets ++
    encode extensionsTag (encode .sequence (extensions.flatMap octets)) ++ after.flatMap octets)

/-! ## Lists with an element put in -/

theorem mem_inserted {α : Type} {l r : List α} {x y : α} (hy : y ∈ l ++ r) : y ∈ l ++ x :: r :=
  ((List.sublist_cons_self x r).append_left l).subset hy

theorem forall_mem_inserted {α : Type} {p : α → Prop} {l r : List α} {x : α} (hx : p x) (hrest : ∀ y ∈ l ++ r, p y) :
    ∀ y ∈ l ++ x :: r, p y := by
  obtain ⟨hl, hr⟩ := List.forall_mem_append.mp hrest
  exact List.forall_mem_append.mpr ⟨hl, List.forall_mem_cons.mpr ⟨hx, hr⟩⟩

/-! ## Which extensions are kept -/

/-- The identifier that an extension is left out by. -/
def identifier? (x : Element) : Option Oid := x.children.head?.bind fun id => id.oid.toOption

theorem identifier?_eq_some {x : Element} {e : Extension} (h : Extension.ofElement x = .ok e) :
    identifier? x = some e.oid := by
  obtain ⟨id, rest, hchildren, hid⟩ := exists_oid_of_ofElement h
  rw [identifier?, hchildren, List.head?_cons, Option.bind_some, hid]
  rfl

/-- The identifier that an element begins with can be read, if it has elements. -/
def HasIdentifier (x : Element) : Prop := ∀ id ∈ x.children.head?, ∃ o, id.oid = .ok o

/-- Extensions are kept that have another identifier, or none; all identifiers have to be read for this. -/
theorem keepOthers_eq_ok_iff : keepOthers oid xs = .ok kept ↔
    (∀ x ∈ xs, HasIdentifier x) ∧ kept = xs.filter fun x => identifier? x ≠ some oid := by
  induction xs generalizing kept with
  | nil => simp [keepOthers, eq_comm]
  | cons x rest ih =>
    rw [keepOthers, List.forall_mem_cons, List.filter_cons]
    cases hchildren : x.children with
    | nil =>
      simp only [bind_eq_ok, pure_eq_ok, ih]
      simp [HasIdentifier, identifier?, hchildren, eq_comm]
    | cons id more =>
      cases hid : id.oid with
      | error fault => simp [HasIdentifier, hchildren, hid, PublicKey.reading, Except.mapError]
      | ok o =>
        have hhas : HasIdentifier x := by simp [HasIdentifier, hchildren, hid]
        have hidentifier : identifier? x = some o := by simp [identifier?, hchildren, hid, Except.toOption]
        simp only [bind_eq_ok, map_eq_ok, PublicKey.reading_eq_ok, hid, pure_eq_ok, ih, hhas, true_and, hidentifier]
        constructor
        · rintro ⟨_, ⟨_, ho, rfl⟩, _, ⟨hall, rfl⟩, rfl⟩
          cases ho
          refine ⟨hall, ?_⟩
          by_cases ho : o = oid <;> simp [ho]
        · rintro ⟨hall, rfl⟩
          refine ⟨_, ⟨o, rfl, rfl⟩, _, ⟨hall, rfl⟩, ?_⟩
          by_cases ho : o = oid <;> simp [ho]

theorem hasIdentifier_of_ofElement {x : Element} {e : Extension} (h : Extension.ofElement x = .ok e) : HasIdentifier x := by
  obtain ⟨id, more, hchildren, hid⟩ := exists_oid_of_ofElement h
  simp [HasIdentifier, hchildren, hid]

/-- Of extensions that can be read, those with another identifier are kept. -/
theorem keepOthers_eq_ok (h : ∀ x ∈ xs, ∃ e, Extension.ofElement x = .ok e) :
    keepOthers oid xs = .ok (xs.filter fun x => identifier? x ≠ some oid) := by
  refine keepOthers_eq_ok_iff.mpr ⟨fun x hx => ?_, rfl⟩
  obtain ⟨e, he⟩ := h x hx
  exact hasIdentifier_of_ofElement he

/-! ## The parts of what is certified -/

/-- What is certified is in the shortest form, and has one field of number 3, in which there is nothing but a SEQUENCE. -/
structure IsPlain (c : Certificate) (before : List Element) (wrapper sequence : Element) (after : List Element) : Prop where
  shortest : c.body.toDer = c.body.octets
  children : c.body.children = before ++ wrapper :: after
  number : wrapper.tag.isContext 3 = true
  others : ∀ f ∈ before ++ after, f.tag.isContext 3 = false
  child : wrapper.children = [sequence]
  tag : sequence.tag.octet = 0x30

/-- What is certified as a tree of this form: the parts have the tags that `enclose` writes. -/
structure Encloses (c : Certificate) (before : List Element) (wrapper sequence : Element) (after : List Element) : Prop where
  bodyTree : IsTree 1 c.body
  bodyTag : c.body.tag = .sequence
  bodyShortest : c.body.toDer = c.body.octets
  bodyChildren : c.body.children = before ++ wrapper :: after
  others : ∀ f ∈ before ++ after, f.tag.isContext 3 = false
  wrapperTag : wrapper.tag = extensionsTag
  wrapperChildren : wrapper.children = [sequence]
  sequenceTag : sequence.tag = .sequence

theorem IsPlain.encloses (hp : c.IsPlain before wrapper sequence after) (h : IsParsed recognized der c) :
    c.Encloses before wrapper sequence after := by
  have htree : IsTree 2 wrapper :=
    h.body_isTree.child wrapper (hp.children ▸ List.mem_append_right before List.mem_cons_self)
  have hconstructed : wrapper.tag.isConstructed = true := by
    refine (htree.of_children_ne_nil (by simp [hp.child])).1.resolve_right fun hs => ?_
    exact (Tag.isContext_iff.mp hp.number).1.1 (UInt8.lt_trans (Tag.isUniversal_iff.mp hs).1 (by decide))
  exact
    { bodyTree := h.body_isTree
      bodyTag := h.body_tag
      bodyShortest := hp.shortest
      bodyChildren := hp.children
      others := hp.others
      wrapperTag := Tag.eq_of_octet (Tag.octet_of_isContext hp.number hconstructed)
      wrapperChildren := hp.child
      sequenceTag := Tag.eq_of_octet hp.tag }

namespace Encloses

variable (h : c.Encloses before wrapper sequence after)

include h

theorem body_fits : ∀ f ∈ c.body.children, f.Fits 2 :=
  h.bodyTree.child_fits h.bodyShortest (by rw [h.bodyTag]; rfl)

theorem wrapper_mem : wrapper ∈ c.body.children := h.bodyChildren ▸ List.mem_append_right before List.mem_cons_self

theorem wrapper_isTree : IsTree 2 wrapper := h.bodyTree.child wrapper h.wrapper_mem

theorem sequence_isTree : IsTree 3 sequence :=
  h.wrapper_isTree.child sequence (h.wrapperChildren ▸ List.mem_cons_self)

theorem sequence_fits : sequence.Fits 3 := by
  have hfits := h.wrapper_isTree.child_fits (h.body_fits wrapper h.wrapper_mem).shortest (by rw [h.wrapperTag]; rfl)
  exact hfits sequence (h.wrapperChildren ▸ List.mem_cons_self)

theorem extensions_fit : ∀ x ∈ sequence.children, x.Fits 4 :=
  h.sequence_isTree.child_fits h.sequence_fits.shortest (by rw [h.sequenceTag]; rfl)

theorem others_fit : ∀ f ∈ before ++ after, f.Fits 2 :=
  fun f hf => h.body_fits f (h.bodyChildren ▸ mem_inserted hf)

theorem octets_sequence : sequence.octets = encode .sequence (sequence.children.flatMap octets) := by
  have heq := h.sequence_isTree.octets_eq_encode h.sequence_fits.shortest (by rw [h.sequenceTag]; rfl)
  rwa [h.sequenceTag] at heq

theorem octets_wrapper : wrapper.octets = encode extensionsTag sequence.octets := by
  have heq := h.wrapper_isTree.octets_eq_encode (h.body_fits wrapper h.wrapper_mem).shortest (by rw [h.wrapperTag]; rfl)
  rw [h.wrapperTag, h.wrapperChildren] at heq
  simpa using heq

/-- What is certified is put together of its parts. -/
theorem signedBytes_eq : c.signedBytes = enclose before sequence.children after := by
  have heq := h.bodyTree.octets_eq_encode h.bodyShortest (by rw [h.bodyTag]; rfl)
  rw [h.bodyTag, h.bodyChildren, List.flatMap_append, List.flatMap_cons, h.octets_wrapper, h.octets_sequence,
    ← List.append_assoc] at heq
  exact heq

/-- The field of the extensions with some of them kept. -/
theorem exists_fieldWithout_eq (hkeep : keepOthers oid sequence.children = .ok kept)
    (hsub : kept.Sublist sequence.children) :
    ∃ field, fieldWithout oid wrapper = .ok field ∧ field.Fits 2 ∧
      field.octets = encode extensionsTag (encode .sequence (kept.flatMap octets)) ∧
        field.octets.length ≤ wrapper.octets.length := by
  have hfits : ∀ x ∈ kept, x.Fits 4 := fun x hx => h.extensions_fit x (hsub.subset hx)
  have hle : (kept.flatMap octets).length ≤ (sequence.children.flatMap octets).length := (hsub.flatMap octets).length_le
  obtain ⟨inner, hinner, hinnerOctets, hinnerFits⟩ := exists_build_eq (show Tag.sequence.isConstructed = true from rfl)
    (show 3 ≤ 64 by decide) hfits (Nat.lt_of_le_of_lt hle (h.sequence_isTree.length_lt_of_encode h.octets_sequence))
  have hinnerLe : inner.octets.length ≤ sequence.octets.length := by
    rw [hinnerOctets, h.octets_sequence]
    exact length_encode_mono hle
  have hsingle : [inner].flatMap octets = inner.octets := by simp
  obtain ⟨field, hfield, hfieldOctets, hfieldFits⟩ := exists_build_eq
    (show extensionsTag.isConstructed = true from rfl) (show 2 ≤ 64 by decide)
    (show ∀ t ∈ [inner], t.Fits 3 from List.forall_mem_singleton.mpr hinnerFits)
    (hsingle ▸ Nat.lt_of_le_of_lt hinnerLe (h.wrapper_isTree.length_lt_of_encode h.octets_wrapper))
  rw [hsingle] at hfieldOctets
  refine ⟨field, ?_, hfieldFits, by rw [hfieldOctets, hinnerOctets], ?_⟩
  · rw [fieldWithout, if_pos (by rw [h.wrapperTag]; rfl), h.wrapperChildren]
    dsimp only
    rw [h.wrapperTag]
    exact bind_eq_ok.mpr ⟨kept, hkeep, bind_eq_ok.mpr
      ⟨inner, PublicKey.reading_eq_ok.mpr hinner, PublicKey.reading_eq_ok.mpr hfield⟩⟩
  · rw [hfieldOctets, h.octets_wrapper]
    exact length_encode_mono hinnerLe

/-- With some of the extensions kept, the parts are put together again as they were. -/
theorem without_eq (hkeep : keepOthers oid sequence.children = .ok kept) (hsub : kept.Sublist sequence.children) :
    c.without oid = .ok (enclose before kept after) := by
  obtain ⟨field, hfield, hfits, hoctets, hle⟩ := h.exists_fieldWithout_eq hkeep hsub
  have hsame : ∀ f ∈ before ++ after, fieldWithout oid f = .ok f := by
    intro f hf
    rw [fieldWithout, if_neg (by rw [h.others f hf]; decide)]
  have hfields : c.body.children.mapM (fieldWithout oid) = .ok (before ++ field :: after) := by
    rw [h.bodyChildren]
    refine mapM_eq_ok.mpr (List.rel_append ?_ (.cons hfield ?_))
    · exact List.forall₂_same.mpr fun f hf => hsame f (List.mem_append_left after hf)
    · exact List.forall₂_same.mpr fun f hf => hsame f (List.mem_append_right before hf)
  have hall : ∀ f ∈ before ++ field :: after, f.Fits 2 := forall_mem_inserted hfits h.others_fit
  have hlength : ((before ++ field :: after).flatMap octets).length < 256 ^ 6 := by
    have hbody := h.bodyTree.length_lt_of_encode h.signedBytes_eq
    rw [List.flatMap_append, List.flatMap_cons, List.length_append, List.length_append]
    rw [List.length_append, List.length_append, ← h.octets_sequence, ← h.octets_wrapper] at hbody
    omega
  obtain ⟨whole, hwhole, hwholeOctets, -⟩ :=
    exists_build_eq (show Tag.sequence.isConstructed = true from rfl) (show 1 ≤ 64 by decide) hall hlength
  have hoctets' : whole.octets = enclose before kept after := by
    rw [hwholeOctets, List.flatMap_append, List.flatMap_cons, hoctets, ← List.append_assoc, enclose]
  rw [without, h.bodyTag]
  exact bind_eq_ok.mpr ⟨_, hfields, bind_eq_ok.mpr ⟨whole, PublicKey.reading_eq_ok.mpr hwhole, pure_eq_ok.mpr hoctets'⟩⟩

end Encloses

/-! ## One extension less -/

/-- The extensions are told apart by their identifiers: leaving out an identifier leaves out one of them, or nothing. -/
theorem exists_filter_eq {extensions : List Extension}
    (hall : List.Forall₂ (fun x e => Extension.ofElement x = .ok e) xs extensions)
    (hnodup : (extensions.map (·.oid)).Nodup) (oid : Oid) :
    (extensions.find? (fun e => e.oid = oid) = none ∧ xs.filter (fun x => identifier? x ≠ some oid) = xs) ∨
      ∃ l x r e, extensions.find? (fun e => e.oid = oid) = some e ∧ xs = l ++ x :: r ∧ Extension.ofElement x = .ok e ∧
        xs.filter (fun x => identifier? x ≠ some oid) = l ++ r := by
  induction hall with
  | nil => exact .inl ⟨rfl, rfl⟩
  | @cons x e xs extensions hx hall ih =>
    rw [List.map_cons, List.nodup_cons] at hnodup
    rw [List.find?_cons, List.filter_cons, identifier?_eq_some hx]
    by_cases hoid : e.oid = oid
    · have hrest : xs.filter (fun x => identifier? x ≠ some oid) = xs := by
        rcases ih hnodup.2 with ⟨-, hrest⟩ | ⟨l, y, r, e', hfind, -⟩
        · exact hrest
        · -- The identifier would come twice.
          have htwice : oid ∈ extensions.map (·.oid) :=
            List.mem_map.mpr ⟨e', List.mem_of_find?_eq_some hfind, by simpa using List.find?_some hfind⟩
          exact absurd (hoid ▸ htwice) hnodup.1
      exact .inr ⟨[], x, xs, e, by simp [hoid], rfl, hx, by simpa [hoid] using hrest⟩
    · rcases ih hnodup.2 with ⟨hfind, hrest⟩ | ⟨l, y, r, e', hfind, rfl, hy, hrest⟩
      · exact .inl ⟨by simpa [hoid] using hfind, by simpa [hoid] using hrest⟩
      · exact .inr ⟨x :: l, y, r, e', by simpa [hoid] using hfind, rfl, hy, by simpa [hoid] using hrest⟩

/-- Leaving an extension out of an accepted certificate of the plain form. -/
theorem Encloses.without_cases (h : c.Encloses before wrapper sequence after)
    (hall : List.Forall₂ (fun x e => Extension.ofElement x = .ok e) sequence.children c.extensions)
    (hnodup : (c.extensions.map (·.oid)).Nodup) (oid : Oid) :
    (c.extension? oid = none ∧ c.without oid = .ok c.signedBytes) ∨
      ∃ l x r e, c.extension? oid = some e ∧ sequence.children = l ++ x :: r ∧ Extension.ofElement x = .ok e ∧
        (∀ y ∈ l ++ r, ∃ other, Extension.ofElement y = .ok other ∧ other.oid ≠ oid) ∧
          c.without oid = .ok (enclose before (l ++ r) after) := by
  have hread : ∀ x ∈ sequence.children, ∃ e, Extension.ofElement x = .ok e := fun x hx =>
    (exists_mem_of_forall₂ hall x hx).imp fun _ h => h.2
  have hkeep : keepOthers oid sequence.children = .ok _ := keepOthers_eq_ok hread
  have hwithout := h.without_eq hkeep List.filter_sublist
  rcases exists_filter_eq hall hnodup oid with ⟨hfind, hsame⟩ | ⟨l, x, r, e, hfind, hchildren, hx, hkept⟩
  · rw [hsame, ← h.signedBytes_eq] at hwithout
    exact .inl ⟨hfind, hwithout⟩
  · rw [hkept] at hwithout
    refine .inr ⟨l, x, r, e, hfind, hchildren, hx, fun y hy => ?_, hwithout⟩
    obtain ⟨hmem, hne⟩ := List.mem_filter.mp (hkept ▸ hy)
    obtain ⟨other, hother⟩ := hread y hmem
    rw [identifier?_eq_some hother] at hne
    exact ⟨other, hother, by simpa using hne⟩

/-! ## One extension more -/

/-- The field of the extensions as it is read, where its octets are put together of extensions that fit. -/
theorem exists_sequence_of_encode {depth : Nat} (h : IsTree 2 wrapper) (hxs : ∀ x ∈ xs, x.Fits depth)
    (heq : wrapper.octets = encode extensionsTag (encode .sequence (xs.flatMap octets))) :
    ∃ sequence, wrapper.tag = extensionsTag ∧ wrapper.children = [sequence] ∧ sequence.tag = .sequence ∧
      sequence.children.map octets = xs.map octets ∧ wrapper.Fits 2 := by
  have hlength := h.length_lt_of_encode heq
  have hinner := length_le_length_encode .sequence (xs.flatMap octets)
  obtain ⟨hwrapperTag, hwrapperMap⟩ := h.children_of_encode (show extensionsTag.isConstructed = true from rfl)
    (List.forall_mem_singleton.mpr (isFramed_encode (Nat.lt_of_le_of_lt hinner hlength)))
    (by rw [heq, List.flatten_singleton])
  obtain ⟨sequence, hchildren, hsequence⟩ := List.map_eq_singleton_iff.mp hwrapperMap
  have htree : IsTree 3 sequence := h.child sequence (hchildren ▸ List.mem_cons_self)
  obtain ⟨hsequenceTag, hsequenceMap⟩ := htree.children_of_encode (show Tag.sequence.isConstructed = true from rfl)
    (List.forall_mem_map.mpr fun x hx => (hxs x hx).isTree.elim fun _ h => h.isFramed)
    (by rw [hsequence, List.flatMap_def])
  -- The lengths are in the shortest form from the extensions outwards.
  have hsequenceFits : sequence.Fits 3 :=
    htree.fits_of_encode rfl hsequence (fits_of_map_eq hsequenceMap htree.child hxs)
  refine ⟨sequence, hwrapperTag, hchildren, hsequenceTag, hsequenceMap, h.fits_of_encode rfl heq ?_⟩
  rw [hchildren]
  exact List.forall_mem_singleton.mpr hsequenceFits

/-- A certificate the octets of which are put together of parts that fit has these parts, as they are read in it. -/
theorem exists_encloses_of_signedBytes (h : IsParsed recognized der c)
    (hothers : ∀ f ∈ before ++ after, f.Fits 2 ∧ f.tag.isContext 3 = false) {depth : Nat} (hxs : ∀ x ∈ xs, x.Fits depth)
    (heq : c.signedBytes = enclose before xs after) :
    ∃ before' wrapper sequence after', c.Encloses before' wrapper sequence after' ∧
      before'.map octets = before.map octets ∧ sequence.children.map octets = xs.map octets ∧
        after'.map octets = after.map octets := by
  have htree := h.body_isTree
  have hframed : ∀ part ∈ before.map octets ++
      encode extensionsTag (encode .sequence (xs.flatMap octets)) :: after.map octets, IsFramed part := by
    have hlength := htree.length_lt_of_encode heq
    have hfield := length_le_length_encode extensionsTag (encode .sequence (xs.flatMap octets))
    rw [List.length_append, List.length_append] at hlength
    refine forall_mem_inserted (isFramed_encode (by omega)) ?_
    rw [← List.map_append]
    exact List.forall_mem_map.mpr fun f hf => (hothers f hf).1.isTree.elim fun _ h => h.isFramed
  obtain ⟨hbodyTag, hbodyMap⟩ := htree.children_of_encode (show Tag.sequence.isConstructed = true from rfl) hframed (by
    rw [List.flatten_append, List.flatten_cons, ← List.flatMap_def, ← List.flatMap_def, ← List.append_assoc]
    exact heq)
  obtain ⟨before', rest, hchildren, hbefore, hrest⟩ := List.map_eq_append_iff.mp hbodyMap
  obtain ⟨wrapper, after', rfl, hwrapper, hafter⟩ := List.map_eq_cons_iff.mp hrest
  have hwrapperTree : IsTree 2 wrapper := htree.child wrapper (hchildren ▸ List.mem_append_right before' List.mem_cons_self)
  obtain ⟨sequence, hwrapperTag, hwrapperChildren, hsequenceTag, hsequenceMap, hwrapperFits⟩ :=
    exists_sequence_of_encode hwrapperTree hxs hwrapper
  have hothers' : ∀ f ∈ before' ++ after', f.Fits 2 ∧ f.tag.isContext 3 = false := by
    intro f hf
    have hmap : (before' ++ after').map octets = (before ++ after).map octets := by
      rw [List.map_append, List.map_append, hbefore, hafter]
    have hfTree := htree.child f (hchildren ▸ mem_inserted hf)
    obtain ⟨g, hg, heq⟩ := List.mem_map.mp (hmap ▸ List.mem_map_of_mem (f := octets) hf)
    obtain ⟨d, hgTree⟩ := (hothers g hg).1.isTree
    exact ⟨(hothers g hg).1.congr hfTree heq.symm, (hgTree.parts_eq hfTree heq).1 ▸ (hothers g hg).2⟩
  have hbodyFits : c.body.Fits 1 := by
    refine htree.fits_of_encode rfl heq ?_
    rw [hchildren]
    exact forall_mem_inserted hwrapperFits fun f hf => (hothers' f hf).1
  exact ⟨before', wrapper, sequence, after',
    { bodyTree := htree
      bodyTag := hbodyTag
      bodyShortest := hbodyFits.shortest
      bodyChildren := hchildren
      others := fun f hf => (hothers' f hf).2
      wrapperTag := hwrapperTag
      wrapperChildren := hwrapperChildren
      sequenceTag := hsequenceTag }, hbefore, hsequenceMap, hafter⟩

/-- The field of the extensions is the only one of its number. -/
theorem Encloses.filter_eq (h : c.Encloses before wrapper sequence after) :
    c.body.children.filter (fun f => f.tag.isContext 3) = [wrapper] := by
  have hnone : ∀ fs : List Element, (∀ f ∈ fs, f ∈ before ++ after) → fs.filter (fun f => f.tag.isContext 3) = [] :=
    fun fs hfs => List.filter_eq_nil_iff.mpr fun f hf => by simp [h.others f (hfs f hf)]
  have hwrapper : wrapper.tag.isContext 3 = true := by
    rw [h.wrapperTag]
    rfl
  rw [h.bodyChildren, List.filter_append, List.filter_cons, if_pos hwrapper,
    hnone before fun f => List.mem_append_left after, hnone after fun f => List.mem_append_right before, List.nil_append]

/-- Only the octets of the parts matter. -/
theorem enclose_congr {before' after' xs' : List Element} (hbefore : before'.map octets = before.map octets)
    (hxs : xs'.map octets = xs.map octets) (hafter : after'.map octets = after.map octets) :
    enclose before' xs' after' = enclose before xs after := by
  simp only [enclose, List.flatMap_def, hbefore, hxs, hafter]

/-- Elements with the octets of extensions that have other identifiers are kept. -/
theorem filter_eq_self_of_map_eq {ys : List Element} {d d' : Nat} (h : ys.map octets = xs.map octets)
    (hxs : ∀ x ∈ xs, IsTree d x ∧ ∃ e, Extension.ofElement x = .ok e ∧ e.oid ≠ oid)
    (hys : ∀ y ∈ ys, IsTree d' y ∧ ∃ e, Extension.ofElement y = .ok e) :
    ys.filter (fun y => identifier? y ≠ some oid) = ys := by
  refine List.filter_eq_self.mpr fun y hy => ?_
  obtain ⟨x, hx, heq⟩ := List.mem_map.mp (h ▸ List.mem_map_of_mem (f := octets) hy)
  obtain ⟨hxTree, e, he, hne⟩ := hxs x hx
  obtain ⟨hyTree, e', he'⟩ := hys y hy
  rw [identifier?_eq_some he', ← oid_eq_of_ofElement hxTree hyTree heq he he']
  simpa using hne

/-- Leaving out an extension that has been put in gives what was there before. -/
theorem Encloses.without_of_inserted (h : c.Encloses before wrapper sequence after)
    (hothers : ∀ y ∈ sequence.children, ∃ e, Extension.ofElement y = .ok e ∧ e.oid ≠ oid) {l r : List Element}
    {x : Element} {e : Extension} (hchildren : sequence.children = l ++ r) (hx : x.Fits 0)
    (hread : Extension.ofElement x = .ok e) (hoid : e.oid = oid) {c' : Certificate} (h' : IsParsed recognized der c')
    (hsigned : c'.signedBytes = enclose before (l ++ x :: r) after) : c'.without oid = .ok c.signedBytes := by
  have hfits : ∀ y ∈ l ++ x :: r, y.Fits 0 :=
    forall_mem_inserted hx fun y hy => (h.extensions_fit y (hchildren ▸ hy)).mono (by decide)
  obtain ⟨before', wrapper', sequence', after', henc, hbefore, hxs, hafter⟩ :=
    exists_encloses_of_signedBytes h' (fun f hf => ⟨h.others_fit f hf, h.others f hf⟩) hfits hsigned
  obtain ⟨l', rest, hchildren', hl, hrest⟩ := List.map_eq_append_iff.mp (hxs.trans List.map_append)
  obtain ⟨x', r', rfl, hx', hr⟩ := List.map_eq_cons_iff.mp hrest
  have hread' : ∀ y ∈ sequence'.children, IsTree 4 y ∧ ∃ e, Extension.ofElement y = .ok e := fun y hy =>
    ⟨henc.sequence_isTree.child y hy, (exists_mem_of_forall₂ (h'.forall_extension henc.filter_eq henc.wrapperChildren) y
      hy).imp fun _ h => h.2⟩
  have hothers' : ∀ y ∈ l ++ r, IsTree 4 y ∧ ∃ e, Extension.ofElement y = .ok e ∧ e.oid ≠ oid := fun y hy =>
    ⟨h.sequence_isTree.child y (hchildren ▸ hy), hothers y (hchildren ▸ hy)⟩
  have hkept : sequence'.children.filter (fun y => identifier? y ≠ some oid) = l' ++ r' := by
    have hsame := filter_eq_self_of_map_eq (show (l' ++ r').map octets = (l ++ r).map octets by
      rw [List.map_append, List.map_append, hl, hr]) hothers' fun y hy => hread' y (hchildren' ▸ mem_inserted hy)
    obtain ⟨hx'Tree, e', he'⟩ := hread' x' (hchildren' ▸ List.mem_append_right l' List.mem_cons_self)
    obtain ⟨d, hxTree⟩ := hx.isTree
    have hx'Oid : identifier? x' = some oid := by
      rw [identifier?_eq_some he', ← oid_eq_of_ofElement hxTree hx'Tree hx'.symm hread he', hoid]
    rw [hchildren', List.filter_append, List.filter_cons, if_neg (by simp [hx'Oid]), ← List.filter_append, hsame]
  have hkeep : keepOthers oid sequence'.children = .ok _ := keepOthers_eq_ok fun y hy => (hread' y hy).2
  rw [henc.without_eq hkeep List.filter_sublist, hkept, h.signedBytes_eq, hchildren]
  exact congrArg _ (enclose_congr hbefore (by rw [List.map_append, List.map_append, hl, hr]) hafter)

/-- The tag of an OBJECT IDENTIFIER. -/
def oidTag : Tag := .ofTagOctet (⟨by decide, by decide, by decide⟩ : IsTagOctet 0x06)

/-- The tag of an OCTET STRING. -/
def octetStringTag : Tag := .ofTagOctet (⟨by decide, by decide, by decide⟩ : IsTagOctet 0x04)

/-- The element of the identifier of timestamp lists. -/
def timestampListId : Element := .mk oidTag [0x0a] [0x2b, 0x06, 0x01, 0x04, 0x01, 0xd6, 0x79, 0x02, 0x04, 0x02] []

theorem oid_timestampListId : timestampListId.oid = .ok Oid.timestampList := by
  rfl

theorem timestampListId_isTree : IsTree 1 timestampListId :=
  .mk (by decide) (.short (by decide)) (by simp) (.nil rfl fun h => absurd h (by decide))

/-- A list of timestamps as an extension in the shortest form, whatever its value. -/
def timestampExtension (value : Bytes) : Bytes :=
  encode .sequence (timestampListId.octets ++ encode octetStringTag value)

/-- Any value makes an extension with a list of timestamps. -/
theorem exists_timestampExtension (value : Bytes) (h : value.length < 256 ^ 5) :
    ∃ x e, x.octets = timestampExtension value ∧ Element.parse x.octets = .ok x ∧ x.toDer = x.octets ∧
      Extension.ofElement x = .ok e ∧ e.oid = Oid.timestampList ∧ e.content = value := by
  have hbit : octetStringTag.octet &&& 0x20 = 0 := by decide
  obtain ⟨v, hv, hvOctets⟩ := isElement_iff.mp
    (.primitive (show 1 ≤ 64 by decide) octetStringTag.isTagOctet hbit (Length.denotes_encode (n := value.length) (by omega)))
  obtain ⟨hvTag, hvContent⟩ := hv.parts_of_encode hvOctets
  have hvFits := hv.fits_of_encode_primitive (by decide) hvOctets
  have hvLength : v.octets.length < 256 ^ 5 + 8 := by
    have hlen := (Length.denotes_encode (n := value.length) (by omega)).length_le
    rw [hvOctets, List.length_append, List.length_cons]
    omega
  have hinner : ∀ t ∈ [timestampListId, v], t.Fits 1 := by
    refine List.forall_mem_cons.mpr ⟨timestampListId_isTree.fits (by decide), List.forall_mem_singleton.mpr hvFits⟩
  have hoctets : [timestampListId, v].flatMap octets = timestampListId.octets ++ v.octets := by simp
  have hdenotes : Length.Denotes (Length.encode ([timestampListId, v].flatMap octets).length)
      ([timestampListId, v].flatMap octets).length := by
    refine Length.denotes_encode ?_
    have hid : timestampListId.octets.length = 12 := rfl
    rw [hoctets, List.length_append]
    omega
  have hx : IsTree 0 (.mk .sequence _ _ [timestampListId, v]) :=
    .mk (by decide) hdenotes (List.forall_mem_cons.mpr ⟨timestampListId_isTree, List.forall_mem_singleton.mpr hv⟩)
      (.of_constructed rfl rfl)
  refine ⟨_, ⟨Oid.timestampList, false, v⟩, ?_, parse_eq_ok_iff.mpr ⟨hx, rfl⟩,
    (hx.fits_of_encode (show Tag.sequence.isConstructed = true from rfl) rfl hinner).shortest, ?_, rfl, hvContent⟩
  · rw [octets_mk, hoctets, hvOctets]
    rfl
  · have hstring : v.tag.isOctetString = true := hvTag ▸ rfl
    unfold Extension.ofElement
    simp only [Element.children, bind, Except.bind, pure, Except.pure, hstring, if_true, oid_timestampListId]
    rfl

/-! ## The whole -/

/-- Of an accepted certificate of the plain form, leaving out the extension of an identifier leaves the rest as it was, octet for
octet, under lengths that are counted anew; without such an extension everything stays. So a certificate that differs in a list of
timestamps put in somewhere has the first one as its pre-certificate. -/
theorem without_exact (h : parseRecognizing recognized der = .ok c) (hp : c.IsPlain before wrapper sequence after) :
    c.signedBytes = enclose before sequence.children after ∧
      (∀ oid, (c.extension? oid = none ∧ c.without oid = .ok c.signedBytes) ∨
        ∃ l x r e, c.extension? oid = some e ∧ sequence.children = l ++ x :: r ∧ Extension.ofElement x = .ok e ∧
          (∀ y ∈ l ++ r, ∃ other, Extension.ofElement y = .ok other ∧ other.oid ≠ oid) ∧
            c.without oid = .ok (enclose before (l ++ r) after)) ∧
      (c.extension? Oid.timestampList = none → ∀ l r x e, sequence.children = l ++ r → Element.parse x.octets = .ok x →
        x.toDer = x.octets → Extension.ofElement x = .ok e → e.oid = Oid.timestampList →
          ∀ recognized' der' c', parseRecognizing recognized' der' = .ok c' →
            c'.signedBytes = enclose before (l ++ x :: r) after → c'.precertificate = .ok c.signedBytes) := by
  have hparsed := isParsed_of_parse h
  have henc := hp.encloses hparsed
  have hall := hparsed.forall_extension henc.filter_eq hp.child
  refine ⟨henc.signedBytes_eq, henc.without_cases hall hparsed.nodup, ?_⟩
  intro hnone l r x e hchildren hx hs hread hoid recognized' der' c' h' hsigned
  have hothers : ∀ y ∈ sequence.children, ∃ other, Extension.ofElement y = .ok other ∧ other.oid ≠ Oid.timestampList := by
    intro y hy
    obtain ⟨other, hmem, hother⟩ := exists_mem_of_forall₂ hall y hy
    exact ⟨other, hother, by simpa using List.find?_eq_none.mp hnone other hmem⟩
  exact henc.without_of_inserted hothers hchildren ((parse_eq_ok_iff.mp hx).1.fits hs) hread hoid
    (isParsed_of_parse h') hsigned

/-- A certificate on an Ed25519 key, with octets for its extensions. -/
def derWith (extensions : Bytes) : Bytes :=
  encode .sequence
    (encode .sequence
      (Bytes.ofNat 44 0x020101300506032b65703000301e170d3234303130313030303030305a170d3334303130313030303030305a ++
        Bytes.ofNat 46 0x3000302a300506032b65700321003b6a27bcceb6a42d62a3a8d02a6f0d73653215771de243a63ac048a18b59da29 ++
          encode extensionsTag (encode .sequence extensions)) ++
      Bytes.ofNat 10 0x300506032b6570030100)

/-- An extension with another identifier. -/
def otherExtension : Bytes := [0x30, 0x07, 0x06, 0x02, 0x2a, 0x03, 0x04, 0x01, 0x00]

theorem plain_reads : (parse (derWith otherExtension)).toOption.isSome = true := by decide +kernel

theorem stamped_reads : (parse (derWith (timestampExtension [0x04, 0x00] ++ otherExtension))).toOption.isSome = true := by
  decide +kernel

/-- A certificate without a list of timestamps. -/
def plainCertificate : Certificate := (parse (derWith otherExtension)).toOption.get plain_reads

/-- The same certificate with a list of timestamps put in, which is an empty OCTET STRING. -/
def stampedCertificate : Certificate :=
  (parse (derWith (timestampExtension [0x04, 0x00] ++ otherExtension))).toOption.get stamped_reads

/-- Its last field. -/
def plainField : Element := plainCertificate.body.children.getLast (by decide +kernel)

/-- What is in this field. -/
def plainSequence : Element := plainField.children.head (by decide +kernel)

theorem isPlain_plainCertificate :
    plainCertificate.IsPlain plainCertificate.body.children.dropLast plainField plainSequence [] where
  shortest := by decide +kernel
  children := (List.dropLast_append_getLast _).symm
  number := by decide +kernel
  others := by
    have hall : (plainCertificate.body.children.dropLast ++ []).all (fun f => !f.tag.isContext 3) = true := by decide +kernel
    simpa using hall
  child := by
    obtain ⟨s, hs⟩ := List.length_eq_one_iff.mp (show plainField.children.length = 1 by decide +kernel)
    simp [plainSequence, hs]
  tag := by decide +kernel

theorem precertificate_stampedCertificate :
    parse (derWith otherExtension) = .ok plainCertificate ∧
      plainCertificate.IsPlain plainCertificate.body.children.dropLast plainField plainSequence [] ∧
        stampedCertificate.precertificate = .ok plainCertificate.signedBytes := by
  have hplain : parse (derWith otherExtension) = .ok plainCertificate := toOption_eq_some.mp (Option.some_get _).symm
  have hstamped : parse (derWith (timestampExtension [0x04, 0x00] ++ otherExtension)) = .ok stampedCertificate :=
    toOption_eq_some.mp (Option.some_get _).symm
  obtain ⟨x, e, hx, hparse, hshort, hread, hoid, -⟩ := exists_timestampExtension [0x04, 0x00] (by simp)
  have hnone : plainCertificate.extension? Oid.timestampList = none := by
    rw [← Option.isNone_iff_eq_none]
    decide +kernel
  have hsigned : stampedCertificate.signedBytes =
      enclose plainCertificate.body.children.dropLast (x :: plainSequence.children) [] := by
    rw [enclose, List.flatMap_cons, hx]
    decide +kernel
  have hexact := (without_exact hplain isPlain_plainCertificate).2.2 hnone [] plainSequence.children x e
    (List.nil_append _).symm hparse hshort hread hoid
  exact ⟨hplain, isPlain_plainCertificate, hexact _ _ _ hstamped hsigned⟩

end Certificate

end ArtifactTrust
