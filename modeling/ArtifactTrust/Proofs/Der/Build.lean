import ArtifactTrust.Proofs.Der.Depth

/-!
# Elements built to a plan

A plan is a tree of tags that are asked for, by their octet or as a context-specific number, with octets at its leaves
(`Plan`). It is carried out from the leaves up: every element is written and read again before it goes into the one above
(`Plan.build`). Main statement: an element that is built has the plan's tags and octets at every place, holds the elements that
were built for it, and is written as it was read (`Plan.realizes_of_build`). A tag is the one asked for, with one exception: a
context-specific number above 31 spills over into the other bits and gives another tag, which is built all the same
(`Plan.privateUse_of_contextNumber`).
-/

namespace ArtifactTrust.Der

open Element Success

/-! ## Tags that are asked for -/

/-- A tag as it is asked for: by its octet, or by a context-specific number and the bit for constructed. -/
inductive TagRequest where
  | octet (octet : UInt8)
  | context (number : UInt8) (constructed : Bool)

namespace TagRequest

/-- The tag that is made. -/
def make : TagRequest → Except TagFault Tag
  | octet o => Tag.ofOctet o
  | context number constructed => Tag.contextSpecific number constructed

/-- A tag has the class, the bit for constructed and the number that are asked for. An octet has the class in its two upper bits
and the number in its five lower ones. -/
def IsMet (t : Tag) : TagRequest → Prop
  | octet o => t.tagClass.bits = o.toNat / 64 ∧ t.isConstructed = (o.toNat / 32 % 2 == 1) ∧ t.number.toNat = o.toNat % 32
  | context number constructed => t.isContext number = true ∧ t.tagClass = .contextSpecific ∧ t.isConstructed = constructed ∧
      t.number = number

/-- A number that has room in five bits. -/
def HasRoom : TagRequest → Prop
  | octet _ => True
  | context number _ => number < 32

end TagRequest

theorem Tag.bits_tagClass (t : Tag) : t.tagClass.bits = t.octet.toNat / 64 := by
  have hall : ∀ o : UInt8, (if o < 0x40 then TagClass.universal else if o < 0x80 then .application
      else if o < 0xc0 then .contextSpecific else .privateUse).bits = o.toNat / 64 := Bytes.forall_octet (by decide +kernel)
  exact hall t.octet

theorem TagClass.eq_contextSpecific_iff {c : TagClass} : c = .contextSpecific ↔ c.bits = 2 := by
  cases c <;> decide

/-- The bits that are laid together for a context-specific number keep apart exactly if the number has room. -/
theorem Tag.contextSpecific_parts_iff {number : UInt8} {constructed : Bool} {t : Tag}
    (h : Tag.contextSpecific number constructed = .ok t) :
    t.octet.toNat / 64 = 2 ∧ t.isConstructed = constructed ∧ t.number = number ↔ number < 32 := by
  have hall : ∀ (number : UInt8) (constructed : Bool) (o : UInt8), o = 0x80 ||| (if constructed then 0x20 else 0) ||| number →
      (o.toNat / 64 = 2 ∧ (o &&& 0x20 != 0) = constructed ∧ o &&& 0x1f = number ↔ number < 32) := by
    simp only [forall_eq]
    exact Bytes.forall_octet (by decide +kernel)
  exact hall number constructed t.octet (Tag.ofOctet_eq_ok_iff.mp h)

/-- An octet takes apart into the bit for constructed and the number. -/
theorem octet_parts (o : UInt8) : (o &&& 0x20 != 0) = (o.toNat / 32 % 2 == 1) ∧ (o &&& 0x1f).toNat = o.toNat % 32 := by
  revert o
  exact Bytes.forall_octet (by decide +kernel)

/-- The tag that is made is the one asked for, unless a context-specific number has no room. -/
theorem TagRequest.isMet_iff {request : TagRequest} {t : Tag} (h : request.make = .ok t) : request.IsMet t ↔ request.HasRoom := by
  cases request with
  | octet o =>
    obtain rfl := Tag.ofOctet_eq_ok_iff.mp h
    obtain ⟨hconstructed, hnumber⟩ := octet_parts t.octet
    exact iff_of_true ⟨t.bits_tagClass, hconstructed, hnumber⟩ trivial
  | context number constructed =>
    rw [IsMet, HasRoom, ← Tag.contextSpecific_parts_iff h, ← Tag.bits_tagClass, Tag.isContext, Bool.and_eq_true, beq_iff_eq,
      beq_iff_eq, TagClass.eq_contextSpecific_iff]
    constructor
    · rintro ⟨-, hclass, hconstructed, hnumber⟩
      exact ⟨hclass, hconstructed, hnumber⟩
    · rintro ⟨hclass, hconstructed, hnumber⟩
      exact ⟨⟨hclass, hnumber⟩, hclass, hconstructed, hnumber⟩

/-! ## Plans -/

/-- A plan for an element: octets under a primitive tag, or parts under a constructed one. -/
inductive Plan where
  | leaf (request : TagRequest) (content : Bytes)
  | node (request : TagRequest) (parts : List Plan)

/-- The tag that is made for a plan. A fault of it is one of the octets. -/
def TagRequest.tag (request : TagRequest) : Except Error Tag := request.make.mapError fun fault => .malformed (.tag fault)

namespace Plan

mutual

/-- Carries out a plan, the parts first. -/
def build : Plan → Except Error Element
  | leaf request content => do Element.buildPrimitive (← request.tag) content
  | node request parts => do
    let tag ← request.tag
    Element.build tag (← buildAll parts)

/-- Carries out plans in their order. -/
def buildAll : List Plan → Except Error (List Element)
  | [] => .ok []
  | plan :: plans => do
    let e ← build plan
    return e :: (← buildAll plans)

end

/-- An element is what a plan asks for: at every place it has the tag that is asked for, if this has room in one octet; the given
octets at the leaves, and in the nodes the elements that were built for them, in their order; and it is written as it was
read. -/
inductive Realizes : Plan → Element → Prop where
  | leaf {request : TagRequest} {content : Bytes} {e : Element} (tag : request.IsMet e.tag ↔ request.HasRoom)
      (primitive : e.tag.isConstructed = false) (holds : e.content = content) (written : e.toDer = e.octets) :
      Realizes (.leaf request content) e
  | node {request : TagRequest} {parts : List Plan} {e : Element} {built : List Element}
      (tag : request.IsMet e.tag ↔ request.HasRoom) (constructed : e.tag.isConstructed = true)
      (made : List.Forall₂ (fun plan part => build plan = .ok part) parts built)
      (holds : e.children.map octets = built.map octets)
      (inner : ∀ (place : Nat) (plan : Plan) (child : Element), parts[place]? = some plan →
        e.children[place]? = some child → Realizes plan child)
      (written : e.toDer = e.octets) : Realizes (.node request parts) e

variable {plan : Plan} {plans : List Plan} {e t u : Element} {depth depth' : Nat}

theorem buildAll_eq_ok_iff {es : List Element} :
    buildAll plans = .ok es ↔ List.Forall₂ (fun plan e => build plan = .ok e) plans es := by
  induction plans generalizing es with
  | nil => rw [buildAll, Except.ok.injEq, List.forall₂_nil_left_iff, eq_comm]
  | cons plan plans ih =>
    simp only [buildAll, bind_eq_ok, pure_eq_ok, ih, List.forall₂_cons_left_iff]
    constructor
    · rintro ⟨e, he, es, hes, rfl⟩
      exact ⟨e, es, he, hes, rfl⟩
    · rintro ⟨e, es, he, hes, rfl⟩
      exact ⟨e, he, es, hes, rfl⟩

/-- What a plan asks for does not depend on the depth that an element was read at. -/
theorem Realizes.congr (h : Realizes plan t) (ht : IsTree depth t) (hu : IsTree depth' u) (heq : t.octets = u.octets) :
    Realizes plan u := by
  induction h generalizing u depth depth' with
  | leaf tag primitive holds written =>
    obtain ⟨htag, hcontent⟩ := ht.parts_eq hu heq
    exact .leaf (htag ▸ tag) (htag ▸ primitive) (hcontent ▸ holds)
      ((hu.toDer_congr ht heq.symm).trans (written.trans heq))
  | node tag constructed made holds inner written ih =>
    obtain ⟨htag, hcontent⟩ := ht.parts_eq hu heq
    have hflat := (ht.flatMap_children_of_constructed constructed).trans
      (hcontent.trans (hu.flatMap_children_of_constructed (htag ▸ constructed)).symm)
    have hmap := map_octets_eq (fun t hm => ⟨_, ht.child t hm⟩) (fun u hm => ⟨_, hu.child u hm⟩) hflat
    refine .node (htag ▸ tag) (htag ▸ constructed) made (hmap.symm.trans holds) (fun place plan child hplan hchild => ?_)
      ((hu.toDer_congr ht heq.symm).trans (written.trans heq))
    obtain ⟨child', hchild', hsame⟩ := exists_getElem?_of_map_eq hmap.symm hchild
    exact ih place plan child' hplan hchild' (ht.child _ (List.mem_of_getElem? hchild'))
      (hu.child _ (List.mem_of_getElem? hchild)) hsame

/-- What holds of a plan if it holds of the parts, holds of every plan. -/
@[elab_as_elim]
theorem induction {motive : Plan → Prop} (leaf : ∀ request content, motive (.leaf request content))
    (node : ∀ request parts, (∀ part ∈ parts, motive part) → motive (.node request parts)) : ∀ plan, motive plan
  | .leaf request content => leaf request content
  | .node request parts => node request parts fun part _ => induction leaf node part

/-! ## What is built -/

/-- A primitive element reads back with its tag and content, in the shortest form. -/
theorem isTree_of_buildPrimitive {tag : Tag} {content : Bytes} (h : buildPrimitive tag content = .ok e) :
    IsTree 0 e ∧ e.tag = tag ∧ tag.isConstructed = false ∧ e.content = content ∧ e.toDer = e.octets := by
  unfold buildPrimitive at h
  split at h
  case isTrue => cases h
  case isFalse hp =>
    obtain ⟨ht, henc⟩ := parse_eq_ok_iff.mp h
    obtain ⟨htag, hcontent⟩ := ht.parts_of_encode henc
    exact ⟨ht, htag, Bool.eq_false_iff.mpr hp, hcontent, (ht.fits_of_encode_primitive hp henc).shortest⟩

/-- A constructed element reads back with its tag and with the octets of the elements that it was built of, in the shortest
form if they are. -/
theorem isTree_of_build {tag : Tag} {parts : List Element} (h : Element.build tag parts = .ok e)
    (hparts : ∀ part ∈ parts, part.Fits 0) :
    IsTree 0 e ∧ e.tag = tag ∧ tag.isConstructed = true ∧ e.children.map octets = parts.map octets ∧ e.toDer = e.octets := by
  unfold Element.build at h
  split at h
  case isFalse => cases h
  case isTrue hc =>
    rw [toDerAll_eq_flatMap, flatMap_toDer_eq_octets hparts] at h
    obtain ⟨ht, henc⟩ := parse_eq_ok_iff.mp h
    have hframed : ∀ part ∈ parts.map octets, IsFramed part :=
      List.forall_mem_map.mpr fun part hm => (hparts part hm).isTree.elim fun _ h => h.isFramed
    obtain ⟨htag, hmap⟩ := ht.children_of_encode hc hframed (by rw [henc, List.flatMap_def])
    exact ⟨ht, htag, hc, hmap, (ht.fits_of_encode hc henc (fits_of_map_eq hmap ht.child hparts)).shortest⟩

theorem Realizes.written (h : Realizes plan e) : e.toDer = e.octets := by
  cases h with
  | leaf _ _ _ written => exact written
  | node _ _ _ _ _ written => exact written

/-- What is built is read back from its octets alone. -/
theorem isTree_of_plan (h : build plan = .ok e) : IsTree 0 e := by
  cases plan with
  | leaf request content =>
    rw [build, bind_eq_ok] at h
    obtain ⟨tag, -, h⟩ := h
    exact (isTree_of_buildPrimitive h).1
  | node request parts =>
    simp only [build, bind_eq_ok] at h
    obtain ⟨tag, -, built, -, h⟩ := h
    unfold Element.build at h
    split at h
    case isFalse => cases h
    case isTrue => exact (parse_eq_ok_iff.mp h).1

theorem realizes_leaf {request : TagRequest} {content : Bytes} (h : build (.leaf request content) = .ok e) :
    Realizes (.leaf request content) e := by
  rw [build, bind_eq_ok] at h
  obtain ⟨tag, hmake, h⟩ := h
  obtain ⟨-, rfl, hp, hcontent, hwritten⟩ := isTree_of_buildPrimitive h
  exact .leaf (TagRequest.isMet_iff (mapError_eq_ok.mp hmake)) hp hcontent hwritten

/-- A node is what its plan asks for if the parts are. The elements that the parts give are read again inside the one that is
built of them, one level further down and with the same octets. -/
theorem realizes_node {request : TagRequest} {parts : List Plan}
    (hparts : ∀ part ∈ parts, ∀ e, build part = .ok e → Realizes part e) (h : build (.node request parts) = .ok e) :
    Realizes (.node request parts) e := by
  simp only [build, bind_eq_ok, buildAll_eq_ok_iff] at h
  obtain ⟨tag, hmake, built, hmade, h⟩ := h
  have hfits : ∀ part ∈ built, part.Fits 0 := by
    intro part hpart
    obtain ⟨plan, hplan, hbuild⟩ := exists_mem_of_forall₂ hmade.flip part hpart
    exact (isTree_of_plan hbuild).fits (hparts plan hplan part hbuild).written
  obtain ⟨ht, rfl, hc, hmap, hwritten⟩ := isTree_of_build h hfits
  refine .node (TagRequest.isMet_iff (mapError_eq_ok.mp hmake)) hc hmade hmap (fun place plan child hplan hchild => ?_) hwritten
  obtain ⟨part, hpart, hsame⟩ := exists_getElem?_of_map_eq hmap hchild
  have hbuild := rel_of_forall₂ hmade hplan hpart
  have hrealizes := hparts plan (List.mem_of_getElem? hplan) part hbuild
  exact hrealizes.congr (isTree_of_plan hbuild) (ht.child child (List.mem_of_getElem? hchild)) hsame

/-- Whatever the plan, what is built is what it asks for. At every place of the element stand the tag that is asked for, the octets
that are given to a leaf, and in a node the elements that were built for it; the element is written as it was read. Only where
a context-specific number has no room in a tag of one octet is the tag another one. -/
theorem realizes_of_build (h : build plan = .ok e) : Realizes plan e := by
  induction plan using Plan.induction generalizing e with
  | leaf request content => exact realizes_leaf h
  | node request parts ih => exact realizes_node (fun part hpart e hbuild => ih part hpart hbuild) h

/-- A SEQUENCE of an INTEGER and of a constructed context-specific element, in which stand a context-specific number and an OCTET
STRING with the octets of a NULL. -/
def samplePlan : Plan :=
  .node (.octet 0x30) [.leaf (.octet 0x02) [0x05],
    .node (.context 3 true) [.leaf (.context 30 false) [0xaa], .leaf (.octet 0x04) [0x05, 0x00]]]

theorem build_samplePlan : (build samplePlan).toOption.map octets =
    some [0x30, 0x0c, 0x02, 0x01, 0x05, 0xa3, 0x07, 0x9e, 0x01, 0xaa, 0x04, 0x02, 0x05, 0x00] := by decide +kernel

theorem realizes_samplePlan : ∃ e, build samplePlan = .ok e ∧ Realizes samplePlan e := by
  obtain ⟨e, he, -⟩ := Option.map_eq_some_iff.mp build_samplePlan
  rw [toOption_eq_some] at he
  exact ⟨e, he, realizes_of_build he⟩

/-- The context-specific number 64 is asked for, and an element under a private tag is built. -/
theorem privateUse_of_contextNumber : ∃ e, build (.leaf (.context 64 false) [0xaa]) = .ok e ∧ e.tag.tagClass = .privateUse ∧
    ¬ (TagRequest.context 64 false).IsMet e.tag := by
  have hread : build (.leaf (.context 64 false) [0xaa]) =
      .ok (.mk ⟨0xc0, by decide, by decide⟩ [0x01] [0xaa] []) := by cbv
  exact ⟨_, hread, by decide, fun h => absurd h.1 (by decide)⟩

end Plan

end ArtifactTrust.Der
