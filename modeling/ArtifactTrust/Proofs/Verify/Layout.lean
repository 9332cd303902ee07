import ArtifactTrust.Proofs.Certificate.Parse
import ArtifactTrust.Proofs.Der.BitString
import ArtifactTrust.Proofs.Path.Soundness
import ArtifactTrust.Proofs.Verify.Signer

/-!
# What stands in a fixed place

The facts of a certificate stand in fixed places: the parts in the certificate, the fields in its body, which are counted from the
serial number on since the version in front of it may be left out. An accepted certificate has all of these places, and each fact
comes from what stands in its own (`Certificate.IsLaidOut`). On a path the issuer of the leaf stands in the second place. Main
statement: no place that is looked up after a certificate has been accepted, or a path found, is missing
(`Verifier.places_exist`).
-/

namespace ArtifactTrust

open Der Success

namespace Certificate

variable {recognized : List Oid} {der : Bytes} {c : Certificate}

/-- The field of the body at a place, counted from the serial number on. -/
def field? (c : Certificate) (place : Nat) : Option Element := c.body.children[versionFields c.body.children + place]?

/-- A certificate has every place that its facts are read from: three parts, and six fields behind the version. The signature
stands in a BIT STRING that has whole octets. -/
structure IsLaidOut (c : Certificate) : Prop where
  parts : c.root.children.length = 3
  body : c.root.children[0]? = some c.body
  algorithm : c.root.children[1]? = some c.algorithm
  signature : ∃ e, c.root.children[2]? = some e ∧ e.tag.isBitString = true ∧ e.content = 0 :: c.signature ∧
    e.wholeOctets = .ok c.signature
  version : versionFields c.body.children = 0 ∨ versionFields c.body.children = 1
  fields : versionFields c.body.children + 6 ≤ c.body.children.length
  serial : ∃ e, c.field? 0 = some e ∧ e.content = c.serial
  issuer : c.field? 2 = some c.issuer
  validity : ∃ e, c.field? 3 = some e ∧ readValidity e = .ok (c.notBefore, c.notAfter)
  subject : c.field? 4 = some c.subject
  key : ∃ e, c.field? 5 = some e ∧ PublicKey.ofElement e = .ok c.key

theorem IsReadFrom.isLaidOut (h : IsReadFrom recognized der c) : c.IsLaidOut := by
  obtain ⟨-, ⟨signatureElement, hchildren, -, hsignature⟩, hbody, -, -⟩ := h
  obtain ⟨serial, algorithm, validity, keyInfo, more, hfields, hserial, hvalidity, hkey⟩ := hbody.fields
  have hdrop := eq_drop_of_splitVersion hfields
  have hplace : ∀ place, c.field? place =
      (serial :: algorithm :: c.issuer :: validity :: c.subject :: keyInfo :: more)[place]? := by
    intro place
    rw [hdrop, List.getElem?_drop]
    rfl
  obtain ⟨htag, hcontent⟩ := Element.wholeOctets_eq_ok_iff.mp hsignature
  exact
    { parts := by rw [hchildren]; rfl
      body := by rw [hchildren]; rfl
      algorithm := by rw [hchildren]; rfl
      signature := ⟨signatureElement, by rw [hchildren]; rfl, htag, hcontent, hsignature⟩
      version := by unfold versionFields; split <;> simp
      fields := by
        have hlength := congrArg List.length hdrop
        simp only [List.length_cons, List.length_drop] at hlength
        omega
      serial := ⟨serial, hplace 0, hserial⟩
      issuer := hplace 2
      validity := ⟨validity, hplace 3, hvalidity⟩
      subject := hplace 4
      key := ⟨keyInfo, hplace 5, hkey⟩ }

end Certificate

namespace Verifier

/-- A path that is found has a second certificate, and the timestamps in the leaf are checked with it. -/
theorem exists_issuer_of_findPath {v : Verifier} {leaf : Certificate} {chain path : List Certificate} {t : Instant}
    (h : v.findPath leaf chain t = .ok path) :
    ∃ issuer, path[0]? = some leaf ∧ path[1]? = some issuer ∧ ∀ p, v.checkTimestamps p path =
      if p.checksTimestamps then
        (leaf.verifyTimestamps issuer v.trust.certificateLogs p.timestampThreshold).mapError .ofTimestamps
      else .ok 0 := by
  obtain ⟨issuer, above, rfl⟩ := (findPath_eq_ok_iff.mp h).eq_cons_cons
  exact ⟨issuer, rfl, rfl, fun _ => rfl⟩

/-- No place that is looked up is missing. Each fact of an accepted certificate comes from an element that stands in its place,
the signature from a BIT STRING with whole octets; and every path that is found has a second certificate, whatever is trusted. -/
theorem places_exist :
    (∀ recognized der c, Certificate.parseRecognizing recognized der = .ok c → c.IsLaidOut) ∧
      ∀ (v : Verifier) leaf chain t path, v.findPath leaf chain t = .ok path →
        ∃ issuer, path[0]? = some leaf ∧ path[1]? = some issuer ∧ ∀ p, v.checkTimestamps p path =
          if p.checksTimestamps then
            (leaf.verifyTimestamps issuer v.trust.certificateLogs p.timestampThreshold).mapError .ofTimestamps
          else .ok 0 := by
  constructor
  · intro recognized der c h
    exact (Certificate.isReadFrom_iff.mp h).isLaidOut
  · intro v leaf chain t path h
    exact exists_issuer_of_findPath h

/-- A verifier that trusts the root of the sample. -/
def rootVerifier : Verifier := ⟨⟨[⟨"root", [Path.sampleRoot], .always⟩], [], []⟩, []⟩

theorem findPath_rootVerifier :
    rootVerifier.findPath Path.sampleLeaf [] Path.sampleTime = .ok [Path.sampleLeaf, Path.sampleRoot] :=
  findPath_eq_ok_iff.mpr ⟨[], ⟨"root", [Path.sampleRoot], .always⟩, [], rfl, rfl, Path.verify_sample, by simp⟩

theorem places_exist_sample : Certificate.parse Path.sampleLeafDer = .ok Path.sampleLeaf ∧ Path.sampleLeaf.IsLaidOut ∧
    rootVerifier.findPath Path.sampleLeaf [] Path.sampleTime = .ok [Path.sampleLeaf, Path.sampleRoot] ∧
    ∃ issuer, [Path.sampleLeaf, Path.sampleRoot][1]? = some issuer := by
  have hparse : Certificate.parse Path.sampleLeafDer = .ok Path.sampleLeaf :=
    toOption_eq_some.mp (Option.some_get Path.sampleLeafDer_reads).symm
  obtain ⟨issuer, -, hissuer, -⟩ := places_exist.2 _ _ _ _ _ findPath_rootVerifier
  exact ⟨hparse, places_exist.1 _ _ _ hparse, findPath_rootVerifier, issuer, hissuer⟩

end Verifier

end ArtifactTrust
