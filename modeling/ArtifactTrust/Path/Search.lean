import ArtifactTrust.Certificate.Signature

/-!
# Certificate paths

A path leads from a certificate over its issuers up to a self-signed certificate, which ends it. `Path.search` finds
all paths through a pool of certificates, `Path.isTrusted` tells which of them pass through a trusted certificate, and
`Path.shortest?` takes the shortest.

Certificates that certify the same count as one. The search keeps what the certificates below have certified, so a path
never meets a certificate twice and cycles in the pool are never followed round; it ends because every step up visits a
certificate of the pool that was not visited before (`Path.remaining`).
-/

namespace ArtifactTrust

namespace Certificate

/-- Whether a certificate may have been issued by another: by the identifiers of the keys where both are known, by the names
otherwise. -/
def namesIssuer (c issuer : Certificate) : Bool :=
  match c.authorityKeyId, issuer.subjectKeyId with
  | some wanted, some found => wanted == found
  | _, _ => c.issuer == issuer.subject

/-- Whether a certificate was issued by another: it may have been, and its signature verifies under the other's key. -/
def isIssuedBy (c issuer : Certificate) : Bool := c.namesIssuer issuer && c.isSignedBy issuer.key

/-- Whether a list has a certificate that certifies the same. -/
def isIn (c : Certificate) (cs : List Certificate) : Bool := cs.any c.same

end Certificate

namespace Path

/-- The certificates of a list without repetitions, each where it stands first. -/
def distinct (cs : List Certificate) : List Certificate :=
  cs.foldl (fun pool c => if c.isIn pool then pool else pool ++ [c]) []

/-- The certificates that paths are made of: the trusted ones in front, the leaf last. -/
def pool (leaf : Certificate) (trusted untrusted : List Certificate) : List Certificate :=
  distinct (trusted ++ untrusted ++ [leaf])

/-- The certificates of a pool that may continue a path after a certificate, in the order of the pool. -/
def issuers (pool : List Certificate) (c : Certificate) : List Certificate := pool.filter c.isIssuedBy

/-! ## The search -/

/-- The certificates of a pool that are not visited. What is visited are the octets that certificates certify. -/
def unvisited (pool : List Certificate) (visited : List Bytes) : List Certificate :=
  pool.filter fun c => !visited.contains c.signedBytes

/-- What a search from a certificate can still use up: the certificates that are not visited, and one more if the certificate
itself is not among them. -/
def remaining (pool : List Certificate) (visited : List Bytes) (c : Certificate) : Nat :=
  (unvisited pool visited).length + if c.isIn (unvisited pool visited) then 0 else 1

/-- A certificate certifies the same as itself. -/
theorem same_self (c : Certificate) : c.same c = true := by simp [Certificate.same]

/-- Visiting octets takes the certificates that certify them out of the unvisited ones. -/
theorem unvisited_cons (pool : List Certificate) (octets : Bytes) (visited : List Bytes) :
    unvisited pool (octets :: visited) = (unvisited pool visited).filter fun d => d.signedBytes != octets := by
  simp only [unvisited, List.filter_filter, List.contains_cons, Bool.not_or, bne]

/-- Once a certificate is visited, fewer are unvisited if it was among them. -/
theorem length_unvisited_lt {pool : List Certificate} {visited : List Bytes} {c : Certificate}
    (h : c.isIn (unvisited pool visited)) :
    (unvisited pool (c.signedBytes :: visited)).length < (unvisited pool visited).length := by
  obtain ⟨d, hd, hcd⟩ := List.any_eq_true.mp h
  rw [unvisited_cons, List.length_filter_lt_length_iff_exists]
  refine ⟨d, hd, ?_⟩
  have : c.signedBytes = d.signedBytes := eq_of_beq hcd
  simp [this]

/-- A certificate of the pool that is not visited is among the unvisited ones. -/
theorem isIn_unvisited {pool : List Certificate} {visited : List Bytes} {c : Certificate} (h : c ∈ pool)
    (hv : c.signedBytes ∉ visited) : c.isIn (unvisited pool visited) :=
  List.any_eq_true.mpr ⟨c, List.mem_filter.mpr ⟨h, by simpa using hv⟩, same_self c⟩

/-- Going on from a certificate to one of the pool that is not visited yet uses something up. -/
theorem remaining_lt {pool : List Certificate} {visited : List Bytes} {c issuer : Certificate} (h : issuer ∈ pool)
    (hv : issuer.signedBytes ∉ c.signedBytes :: visited) :
    remaining pool (c.signedBytes :: visited) issuer < remaining pool visited c := by
  have hi := isIn_unvisited h hv
  unfold remaining
  rw [if_pos hi]
  by_cases hc : c.isIn (unvisited pool visited)
  · rw [if_pos hc]
    exact Nat.add_lt_add_right (length_unvisited_lt hc) 0
  · rw [if_neg hc, unvisited_cons]
    exact Nat.lt_succ_of_le (List.length_filter_le _ _)

/-- What a search has found: paths, and what is visited after it, which is what was visited before. -/
structure Found (before : List Bytes) where
  paths : List (List Certificate)
  visited : List Bytes
  restored : visited = before

/-- All paths from a certificate, over certificates of a pool that are not yet visited. The certificate itself counts as
visited while its issuers are gone through, and no longer afterwards. -/
def search (pool : List Certificate) (visited : List Bytes) (c : Certificate) : Found visited :=
  if c.isSelfSigned then ⟨[[c]], visited, rfl⟩
  else
    let found : Found (c.signedBytes :: visited) :=
      (issuers pool c).attach.foldl
        (fun found ⟨issuer, h⟩ =>
          if hv : issuer.signedBytes ∈ found.visited then found
          else
            have : remaining pool found.visited issuer < remaining pool visited c := by
              rw [found.restored] at hv ⊢
              exact remaining_lt (List.mem_filter.mp h).1 hv
            let above := search pool found.visited issuer
            ⟨found.paths ++ above.paths.map (c :: ·), above.visited, above.restored.trans found.restored⟩)
        ⟨[], c.signedBytes :: visited, rfl⟩
    ⟨found.paths, found.visited.tail, by rw [found.restored, List.tail_cons]⟩
termination_by remaining pool visited c

/-- All paths from a leaf. -/
def all (leaf : Certificate) (trusted untrusted : List Certificate) : List (List Certificate) :=
  (search (pool leaf trusted untrusted) [] leaf).paths

/-- The shortest of several lists, the first one of the same length. -/
def shortest? {α : Type} : List (List α) → Option (List α)
  | [] => none
  | p :: ps => match shortest? ps with
    | none => some p
    | some q => if p.length ≤ q.length then some p else some q

/-- Whether a path passes through a trusted certificate. -/
def isTrusted (trusted path : List Certificate) : Bool := path.any fun c => c.isIn trusted

end Path

end ArtifactTrust
