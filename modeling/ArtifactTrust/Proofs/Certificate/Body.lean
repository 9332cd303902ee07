import ArtifactTrust.Certificate.Signature
import ArtifactTrust.Proofs.Certificate.Parse

/-!
# What follows from what is certified

Certificates count as the same when they certify the same octets, whatever signature stands under them. For certificates that
were read from an encoding this loses nothing but the signature: version, names, validity, key and extensions are all read from
the octets that are certified (`Certificate.FollowsBody`). Main statements: two such certificates of the same octets differ in
the signature only (`Certificate.eq_of_signedBytes_eq`), and have issued the same certificates
(`Certificate.isIssuedBy_congr`).
-/

namespace ArtifactTrust.Certificate

variable {a b : Certificate}

/-- A certificate that was read from an encoding, whatever extensions were recognized. -/
def IsRead (c : Certificate) : Prop := ∃ recognized der, parseRecognizing recognized der = .ok c

/-- A body is followed by one certificate only, up to the signature. -/
theorem FollowsBody.eq (ha : FollowsBody a) (hb : FollowsBody b) (h : a.body = b.body) :
    b = { a with root := b.root, algorithm := b.algorithm, signature := b.signature, signatureOid := b.signatureOid } := by
  obtain ⟨⟨serial, _, validity, keyInfo, _, hfields, hserial, hvalidity, hkey⟩, hextensions, hconstraints, husage, hnames,
    ⟨authorityKeyId, hauthority, hjoin⟩, hsubject⟩ := ha
  obtain ⟨⟨serial', _, validity', keyInfo', _, hfields', hserial', hvalidity', hkey'⟩, hextensions', hconstraints', husage',
    hnames', ⟨authorityKeyId', hauthority', hjoin'⟩, hsubject'⟩ := hb
  cases a
  cases b
  dsimp only at *
  subst h
  cases hfields.symm.trans hfields'
  cases hvalidity.symm.trans hvalidity'
  cases hkey.symm.trans hkey'
  cases hextensions.symm.trans hextensions'
  cases hconstraints.symm.trans hconstraints'
  cases husage.symm.trans husage'
  cases hnames.symm.trans hnames'
  cases hauthority.symm.trans hauthority'
  cases hsubject.symm.trans hsubject'
  subst hserial hserial' hjoin hjoin'
  rfl

/-- Certificates of the same octets, read from whatever encodings, differ in nothing but the signature. What they certify was
read at the same depth in both, so it is the same body. -/
theorem eq_of_signedBytes_eq (ha : a.IsRead) (hb : b.IsRead) (h : a.signedBytes = b.signedBytes) :
    b = { a with root := b.root, algorithm := b.algorithm, signature := b.signature, signatureOid := b.signatureOid } := by
  obtain ⟨_, _, ha⟩ := ha
  obtain ⟨_, _, hb⟩ := hb
  have hbody : a.body = b.body := (isParsed_of_parse ha).body_isTree.eq_of_octets (isParsed_of_parse hb).body_isTree h
  exact (isReadFrom_iff.mp ha).body.eq (isReadFrom_iff.mp hb).body hbody

/-- What a certificate has issued is a matter of what it certifies. -/
theorem isIssuedBy_congr (ha : a.IsRead) (hb : b.IsRead) (h : a.signedBytes = b.signedBytes) (c : Certificate) :
    c.isIssuedBy a = c.isIssuedBy b := by
  rw [eq_of_signedBytes_eq ha hb h]
  rfl

end ArtifactTrust.Certificate
