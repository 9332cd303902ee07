import ArtifactTrust.Proofs.Certificate.Parse
import ArtifactTrust.Proofs.Path.Soundness

/-!
# The key of a certificate

A key is read from an element: its kind from the algorithm and the parameters, its octets from a bit string
(`PublicKey.IsIn`). The element stands deep in a certificate, where an OCTET STRING may show fewer elements than the same octets
do when they are read alone. What a key is read from has elements in it already, so this makes no difference
(`PublicKey.IsIn.of_octets_eq`). Main statement: the octets of a certificate's key, read alone, give the same key, and whatever is
read at a depth is read at every smaller depth, as a tree that unfolds the other one (`PublicKey.ofDer_info`).
-/

namespace ArtifactTrust

open Der Element Success

namespace PublicKey

variable {depth depth' : Nat} {t u : Element} {k : PublicKey}

/-- A key and the element that it is read from: an algorithm, which is named by its first element, and a bit string. -/
inductive IsIn (k : PublicKey) (e : Element) : Prop where
  | mk {algorithm key id : Element} {parameters : List Element} {name : Oid} (children : e.children = [algorithm, key])
      (names : algorithm.children = id :: parameters) (named : id.oid = .ok name)
      (kind : kindOf name parameters.head? = .ok k.kind) (octets : key.wholeOctets = .ok k.octets) (info : e.octets = k.info)

theorem ofElement_eq_ok_iff : ofElement t = .ok k ↔ k.IsIn t := by
  unfold ofElement
  constructor
  · intro h
    split at h
    case h_2 => cases h
    case h_1 algorithm key hchildren =>
      split at h
      case h_1 => cases h
      case h_2 id parameters hnames =>
        simp only [bind_eq_ok, reading_eq_ok, pure_eq_ok] at h
        obtain ⟨name, hname, kind, hkind, octets, hoctets, rfl⟩ := h
        exact .mk hchildren hnames hname hkind hoctets rfl
  · rintro ⟨hchildren, hnames, hname, hkind, hoctets, hinfo⟩
    rw [hchildren]
    dsimp only
    rw [hnames]
    simp only [bind_eq_ok, reading_eq_ok, pure_eq_ok]
    exact ⟨_, hname, _, hkind, _, hoctets, by rw [hinfo]⟩

/-- Of the parameters only the object identifier matters. -/
theorem kindOf_congr {name : Oid} {parameters parameters' : Option Element}
    (h : parameters.map Element.oid = parameters'.map Element.oid) : kindOf name parameters = kindOf name parameters' := by
  cases parameters with
  | none =>
    rw [Option.map_none, eq_comm, Option.map_eq_none_iff] at h
    rw [h]
  | some e =>
    obtain ⟨e', rfl, heq⟩ := Option.map_eq_some_iff.mp h.symm
    unfold kindOf
    dsimp only
    rw [heq]

/-- Trees of the same octets, one by one, denote the same object identifiers. -/
theorem map_oid_eq {ts us : List Element} (ht : ∀ t ∈ ts, IsTree depth t) (hu : ∀ u ∈ us, IsTree depth' u)
    (h : ts.map Element.octets = us.map Element.octets) : ts.map Element.oid = us.map Element.oid := by
  induction ts generalizing us with
  | nil =>
    obtain rfl := List.map_eq_nil_iff.mp h.symm
    rfl
  | cons t ts ih =>
    obtain ⟨u, us, rfl, hsame, hsames⟩ := List.map_eq_cons_iff.mp h.symm
    obtain ⟨ht, hts⟩ := List.forall_mem_cons.mp ht
    obtain ⟨hu, hus⟩ := List.forall_mem_cons.mp hu
    rw [List.map_cons, List.map_cons, ht.oid_congr hu hsame.symm, ih hts hus hsames.symm]

/-- A key that is in an element is in every element of the same octets further up. The element and the algorithm in it have
elements in them, so they have the same ones there. -/
theorem IsIn.of_octets_eq (h : k.IsIn t) (ht : IsTree depth t) (hu : IsTree depth' u) (hle : depth' ≤ depth)
    (heq : t.octets = u.octets) : k.IsIn u := by
  obtain ⟨hchildren, hnames, hname, hkind, hoctets, hinfo⟩ := h
  rename_i algorithm key id parameters name
  have hmap := ht.map_children_eq hu hle heq (by simp [hchildren])
  rw [hchildren] at hmap
  obtain ⟨algorithm', rest, hchildren', halgorithm, hrest⟩ := List.map_eq_cons_iff.mp hmap.symm
  obtain ⟨key', none, rfl, hkey, hnone⟩ := List.map_eq_cons_iff.mp hrest
  obtain rfl := List.map_eq_nil_iff.mp hnone
  have htree : IsTree (depth + 1) algorithm := ht.child _ (by simp [hchildren])
  have htree' : IsTree (depth' + 1) algorithm' := hu.child _ (by simp [hchildren'])
  have hinner := htree.map_children_eq htree' (Nat.succ_le_succ hle) halgorithm.symm (by simp [hnames])
  -- The object identifiers of the algorithm and of its parameters are the same.
  have hoids := map_oid_eq htree.child htree'.child hinner
  rw [hnames, List.map_cons] at hoids
  obtain ⟨id', parameters', hnames', hid, hparameters⟩ := List.map_eq_cons_iff.mp hoids.symm
  have hhead : parameters.head?.map Element.oid = parameters'.head?.map Element.oid := by
    rw [← List.head?_map, ← List.head?_map, hparameters]
  -- So is the bit string.
  have hkeyTree : IsTree (depth + 1) key := ht.child _ (by simp [hchildren])
  have hkeyTree' : IsTree (depth' + 1) key' := hu.child _ (by simp [hchildren'])
  obtain ⟨htag, hcontent⟩ := hkeyTree.parts_eq hkeyTree' hkey.symm
  have hwhole : key'.wholeOctets = key.wholeOctets := by simp only [wholeOctets, typed, htag, hcontent]
  exact .mk hchildren' hnames' (hid.trans hname) ((kindOf_congr hhead).symm.trans hkind) (hwhole.trans hoctets)
    (heq.symm.trans hinfo)

/-- A key that was read from an element somewhere is read from the octets of this element alone. -/
theorem ofDer_of_ofElement (ht : IsTree depth t) (h : ofElement t = .ok k) : ofDer k.info = .ok k := by
  have hin := ofElement_eq_ok_iff.mp h
  have hinfo : t.octets = k.info := by
    obtain ⟨-, -, -, -, -, hinfo⟩ := hin
    exact hinfo
  obtain ⟨u, hu, heq⟩ := isElement_iff.mp (ht.isElement.mono (Nat.zero_le depth))
  unfold ofDer
  rw [bind_eq_ok]
  exact ⟨u, reading_eq_ok.mpr (parse_eq_ok_iff.mpr ⟨hu, heq.trans hinfo⟩),
    ofElement_eq_ok_iff.mpr (hin.of_octets_eq ht hu (Nat.zero_le depth) heq.symm)⟩

end PublicKey

/-- What is read at a depth is read at every smaller depth, wherever it stands in the buffer, as a tree that unfolds the other
one. -/
theorem Der.Element.exists_read_of_le {depth shallower offset : Nat} {b rest : Bytes} {t : Element} (hle : shallower ≤ depth)
    (h : read (65 - depth) offset b = .ok (t, rest)) (offset' : Nat) :
    ∃ u, read (65 - shallower) offset' b = .ok (u, rest) ∧ u.Unfolds t := by
  by_cases hdepth : depth ≤ 65
  · have hlevels : 65 - depth + depth = 65 := Nat.sub_add_cancel hdepth
    have hlevels' : 65 - shallower + shallower = 65 := Nat.sub_add_cancel (Nat.le_trans hle hdepth)
    obtain ⟨ht, rfl⟩ := (read_eq_ok_iff hlevels offset b t rest).mp h
    obtain ⟨u, hu, heq⟩ := isElement_iff.mp (ht.isElement.mono hle)
    exact ⟨u, (read_eq_ok_iff hlevels' offset' _ u rest).mpr ⟨hu, by rw [heq]⟩, ht.unfolds hu hle heq.symm⟩
  · rw [Nat.sub_eq_zero_of_le (Nat.le_of_not_le hdepth)] at h
    cases h

namespace PublicKey

/-- The key of a certificate is what its octets denote: read alone, they give this key. For whatever is read at a depth is read
at every smaller depth as well; the tree has a node with the same tag and content wherever the deeper one has a node, and as
many elements in it where that one has any. -/
theorem ofDer_info :
    (∀ recognized der c, Certificate.parseRecognizing recognized der = .ok c → ofDer c.key.info = .ok c.key) ∧
      ∀ depth shallower, shallower ≤ depth → ∀ offset offset' b t rest, read (65 - depth) offset b = .ok (t, rest) →
        ∃ u, read (65 - shallower) offset' b = .ok (u, rest) ∧ u.Unfolds t := by
  constructor
  · intro recognized der c h
    have hbody := (Certificate.isParsed_of_parse h).body_isTree
    obtain ⟨serial, algorithm, validity, keyInfo, more, hfields, -, -, hkey⟩ := (Certificate.isReadFrom_iff.mp h).body.fields
    have hmem : keyInfo ∈ c.body.children.drop (Certificate.versionFields c.body.children) := by
      rw [← Certificate.eq_drop_of_splitVersion hfields]
      simp
    exact ofDer_of_ofElement (hbody.child keyInfo (List.mem_of_mem_drop hmem)) hkey
  · intro depth shallower hle offset offset' b t rest h
    exact exists_read_of_le hle h offset'

/-- An OCTET STRING with the octets of a NULL in it. At the lowest level there is no room for an element in it. -/
def opaqueNull : Bytes := [0x04, 0x02, 0x05, 0x00]

/-- The key of a certificate, and the octets of a NULL that are seen as an element at the top only. -/
theorem ofDer_info_samples :
    Certificate.parse Path.sampleLeafDer = .ok Path.sampleLeaf ∧ ofDer Path.sampleLeaf.key.info = .ok Path.sampleLeaf.key ∧
      ∃ t u, read (65 - 64) 0 opaqueNull = .ok (t, []) ∧ t.children = [] ∧
        read (65 - 0) 0 opaqueNull = .ok (u, []) ∧ u.Unfolds t := by
  have hparse : Certificate.parse Path.sampleLeafDer = .ok Path.sampleLeaf :=
    toOption_eq_some.mp (Option.some_get Path.sampleLeafDer_reads).symm
  have hread : read (65 - 64) 0 opaqueNull = .ok (.mk ⟨0x04, by decide, by decide⟩ [0x02] [0x05, 0x00] [], []) := by cbv
  obtain ⟨u, hu, hunfolds⟩ := ofDer_info.2 64 0 (by decide) 0 0 _ _ _ hread
  exact ⟨hparse, ofDer_info.1 _ _ _ hparse, _, u, hread, rfl, hu, hunfolds⟩

example : (parse opaqueNull).toOption.map (·.children.length) = some 1 := by decide +kernel

end PublicKey

end ArtifactTrust
