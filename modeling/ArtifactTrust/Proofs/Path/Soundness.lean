import ArtifactTrust.Proofs.Certificate.Name
import ArtifactTrust.Proofs.Path.Verify

/-!
# What a verified path guarantees

`Guaranteed` lists what holds of a path that `Path.verify` has answered with, one field for each guarantee; `verify_sound` says
that all of it holds, whatever the certificates that the path was looked for in.
-/

namespace ArtifactTrust

/-- Names have an identity when one of them is a mail address or a URI. -/
theorem AlternativeNames.identity_ne_none_iff {a : AlternativeNames} :
    a.identity ≠ none ↔ ∃ text, GeneralName.email text ∈ a.names ∨ GeneralName.uri text ∈ a.names := by
  have hnone : a.identity = none ↔ a.email = none ∧ a.uri = none := by
    rw [identity]
    cases a.email <;> simp
  rw [ne_eq, hnone, email_eq_none_iff, uri_eq_none_iff, exists_or, not_and_or, not_forall_not, not_forall_not]

/-- A certificate has an identity when one of its names is a mail address or a URI. -/
theorem Certificate.identity_ne_none_iff {c : Certificate} : c.identity ≠ none ↔
    ∃ names, c.names = some names ∧ ∃ text, GeneralName.email text ∈ names.names ∨ GeneralName.uri text ∈ names.names := by
  simp only [← AlternativeNames.identity_ne_none_iff, Certificate.identity]
  cases c.names <;> simp

namespace Path

variable {leaf : Certificate} {trusted untrusted path : List Certificate} {t : Instant}

/-- What a verified path guarantees. Place 0 is the leaf. -/
structure Guaranteed (leaf : Certificate) (trusted untrusted : List Certificate) (t : Instant) (path : List Certificate) :
    Prop where
  starts : path.head? = some leaf
  two_le_length : 2 ≤ path.length
  /-- All certificates above the leaf were given. -/
  given : ∀ c ∈ path.tail, c ∈ trusted ∨ c ∈ untrusted
  /-- No two certificates certify the same. -/
  distinct : (path.map (·.signedBytes)).Nodup
  /-- Each certificate's signature verifies under the key of the next one. -/
  signed : path.IsChain fun child parent => child.isSignedBy parent.key = true
  /-- Each certificate's issuer has the name of the next one's subject. -/
  named : path.IsChain fun child parent => child.issuer.octets = parent.subject.octets
  /-- Where the key of the issuer is identified on both sides, it is the same key. -/
  identified : path.IsChain fun child parent => ∀ wanted found, child.authorityKeyId = some wanted →
    parent.subjectKeyId = some found → wanted = found
  /-- The last certificate is self-signed. -/
  ends : ∃ root, path.getLast? = some root ∧ root.isSelfSigned = true
  /-- No earlier one is. -/
  climbs : ∀ c ∈ path.dropLast, c.isSelfSigned = false
  /-- A certificate of the path certifies the same as a trusted one. -/
  anchored : ∃ c ∈ path, ∃ a ∈ trusted, c.signedBytes = a.signedBytes
  leaf_not_authority : leaf.isAuthority = false
  leaf_signs : ∃ usage, leaf.usage = some usage ∧ usage.digitalSignature = true
  /-- The leaf has a mail address or a URI as a name. -/
  leaf_named : ∃ names, leaf.names = some names ∧
    ∃ text, GeneralName.email text ∈ names.names ∨ GeneralName.uri text ∈ names.names
  authorities : ∀ c ∈ path.tail, c.isAuthority = true
  /-- An authority with a limit has at most so many certificates between the leaf and itself, self-issued ones not counted. -/
  limits : ∀ place c most, 1 ≤ place → path[place]? = some c → c.constraints.bind (·.pathLength) = some most →
    (countBetween path place : Int) ≤ most
  valid : ∀ c ∈ path, c.notBefore ≤ t ∧ t ≤ c.notAfter

/-- Whatever holds of all neighbours by their places holds along the path. -/
theorem isChain_of_getElem? {R : Certificate → Certificate → Prop}
    (h : ∀ place child parent, path[place]? = some child → path[place + 1]? = some parent → R child parent) :
    path.IsChain R := by
  induction path with
  | nil => exact List.IsChain.nil
  | cons c path ih =>
    cases path with
    | nil => exact List.IsChain.singleton _
    | cons d path =>
      exact List.isChain_cons_cons.mpr ⟨h 0 c d rfl rfl, ih fun place child parent hc hp => h (place + 1) child parent hc hp⟩

/-- An issuer has the key identifier that is asked for, where both are known. -/
theorem keyId_eq_of_isIssuedBy {c issuer : Certificate} {wanted found : Bytes} (h : c.isIssuedBy issuer = true)
    (hw : c.authorityKeyId = some wanted) (hf : issuer.subjectKeyId = some found) : wanted = found := by
  rw [Certificate.isIssuedBy, Bool.and_eq_true, Certificate.namesIssuer, hw, hf] at h
  exact eq_of_beq h.1

/-- Every path that is verified has all that a verified path guarantees. -/
theorem verify_sound (h : verify leaf trusted untrusted t = .ok path) : Guaranteed leaf trusted untrusted t path := by
  obtain ⟨hj, hno⟩ := verify_eq_ok_iff.mp h
  have hc := hj.complete
  have hpath := hc.eq_cons
  have hleaf : path[0]? = some leaf := by rw [hpath]; rfl
  have hplace : ∀ c ∈ path.tail, ∃ place, 1 ≤ place ∧ path[place]? = some c := by
    intro c hm
    obtain ⟨i, hi⟩ := List.mem_iff_getElem?.mp hm
    exact ⟨i + 1, by omega, by rw [hpath, List.getElem?_cons_succ, hi]⟩
  constructor
  case starts => exact hc.starts
  case two_le_length =>
    obtain ⟨issuer, above, rfl⟩ := eq_cons_cons_of_verify h
    simp
  case given =>
    intro c hm
    rcases mem_pool (hc.pooled c hm) with ht | hu | rfl
    · exact Or.inl ht
    · exact Or.inr hu
    · -- The leaf is in its own pool, but no path meets it twice.
      have hd := hc.distinct
      rw [hpath, List.map_cons, List.nodup_cons] at hd
      exact absurd (List.mem_map_of_mem hm) hd.1
  case distinct => exact hc.distinct
  case signed => exact hc.issued.imp fun _ _ hi => (Bool.and_eq_true_iff.mp hi).2
  case named =>
    refine isChain_of_getElem? fun place child parent hcd hp => ?_
    by_contra hne
    exact hno (.brokenNames place) ⟨child, parent, hcd, hp, hne⟩
  case identified => exact hc.issued.imp fun _ _ hi wanted found hw hf => keyId_eq_of_isIssuedBy hi hw hf
  case ends => exact hc.ends
  case climbs => exact hc.climbs
  case anchored => exact hj.anchored
  case leaf_not_authority => exact Bool.eq_false_iff.mpr fun ha => hno .leafIsAuthority ⟨leaf, hleaf, ha⟩
  case leaf_signs =>
    by_contra hn
    exact hno .noDigitalSignature ⟨leaf, hleaf, hn⟩
  case leaf_named => exact Certificate.identity_ne_none_iff.mp fun hn => hno .noIdentity ⟨leaf, hleaf, hn⟩
  case authorities =>
    intro c hm
    obtain ⟨place, hp, hc⟩ := hplace c hm
    by_contra hn
    exact hno (.notAuthority place) ⟨hp, c, hc, Bool.eq_false_iff.mpr hn⟩
  case limits =>
    intro place c most hp hc hm
    exact Int.not_lt.mp fun hlt => hno (.lengthExceeded place) ⟨hp, c, most, hc, hm, hlt⟩
  case valid =>
    intro c hm
    obtain ⟨place, hc⟩ := List.mem_iff_getElem?.mp hm
    by_contra hn
    exact hno (.notValid place t) ⟨rfl, c, hc, hn⟩

/-! ## A verified path -/

/-- The encoding of a root, which has signed itself. -/
def sampleRootDer : Bytes :=
  Bytes.ofNat 48 0x3081d6308189a003020102020101300506032b6570300c310a300806035504030c0172301e170d323430313031303030 ++
  Bytes.ofNat 48 0x3030305a170d3334303130313030303030305a300c310a300806035504030c0172302a300506032b65700321008a88e3 ++
  Bytes.ofNat 48 0xdd7409f195fd52db2d3cba5d72ca6709bf1d94121bf3748801b40f6f5ca310300e300c0603551d13040530030101ff30 ++
  Bytes.ofNat 48 0x0506032b6570034100db09198e3c4ba02d50c5849d5302e8049442534dccce0800966834f7a1856543419f6e31b4d376 ++
  Bytes.ofNat 25 0xe4192e690c5188091b0054b78aff34e472de1a445cfcb3d707

/-- The encoding of a leaf that the root has issued. -/
def sampleLeafDer : Bytes :=
  Bytes.ofNat 48 0x3081e5308198a003020102020102300506032b6570300c310a300806035504030c0172301e170d323430363031303030 ++
  Bytes.ofNat 48 0x3030305a170d3234303630313030313030305a300c310a300806035504030c016c302a300506032b6570032100813977 ++
  Bytes.ofNat 48 0x0ea87d175f56a35466c34c7ecccb8d8a91b4ee37a25df60f5b8fc9b394a31f301d300b0603551d0f040403020780300e ++
  Bytes.ofNat 48 0x0603551d11040730058103614062300506032b6570034100ac43215c1a584fe4170588eeb269265abfaa9228fea6ca29 ++
  Bytes.ofNat 40 0x78a3923f533d59811a8bdf89d8fc88124ff75b15f1571e41999cd7cd241ac74fd10b20f4534b4603

theorem sampleRootDer_reads : (Certificate.parse sampleRootDer).toOption.isSome = true := by decide +kernel

theorem sampleLeafDer_reads : (Certificate.parse sampleLeafDer).toOption.isSome = true := by decide +kernel

/-- The root of its encoding. -/
def sampleRoot : Certificate := (Certificate.parse sampleRootDer).toOption.get sampleRootDer_reads

/-- The leaf of its encoding. -/
def sampleLeaf : Certificate := (Certificate.parse sampleLeafDer).toOption.get sampleLeafDer_reads

/-- An instant at which both are valid. -/
def sampleTime : Instant := ⟨1717200300, 0⟩

theorem sample_facts : sampleLeaf.isSelfSigned = false ∧ sampleRoot.isSelfSigned = true ∧
    sampleLeaf.isIssuedBy sampleRoot = true ∧ sampleLeaf.signedBytes ≠ sampleRoot.signedBytes ∧
    faults sampleTime [sampleLeaf, sampleRoot] = [] := by decide +kernel

theorem verify_sample : verify sampleLeaf [sampleRoot] [] sampleTime = .ok [sampleLeaf, sampleRoot] := by
  obtain ⟨hl, hr, hi, hne, hf⟩ := sample_facts
  exact verify_eq_ok_iff.mpr ⟨judged_of_root hl hr hi hne, (faults_eq_nil_iff _ _).mp hf⟩

/-- The leaf and the root make up a verified path with all that it guarantees. -/
theorem guaranteed_sample : verify sampleLeaf [sampleRoot] [] sampleTime = .ok [sampleLeaf, sampleRoot] ∧
    Guaranteed sampleLeaf [sampleRoot] [] sampleTime [sampleLeaf, sampleRoot] :=
  ⟨verify_sample, verify_sound verify_sample⟩

end Path

end ArtifactTrust
