import ArtifactTrust.Curve.Weierstrass
import ArtifactTrust.Der.Canonical

/-!
# ECDSA

A signature is a pair of numbers from 1 up to the order of the curve, a canonical SEQUENCE of two INTEGERs. It is
checked against the digest of the message, cut to the length of the order.
-/

namespace ArtifactTrust.Ecdsa

/-- The number that a digest stands for: its first octets, as many as the order has at most. -/
def digestNumber (c : Curve) (digest : Bytes) : Nat := Bytes.toNat (digest.take c.width)

/-- Whether (r, s) is a signature of a digest: with s' the inverse of s, the point (z s') G + (r s') Q has an x that
is r modulo the order. -/
def accepts (c : Curve) (key : CurvePoint) (digest : Bytes) (r s : Nat) : Bool :=
  if 0 < r ∧ r < c.order ∧ 0 < s ∧ s < c.order then
    let w := Modular.inverse c.order s
    let u := digestNumber c digest * w % c.order
    let v := r * w % c.order
    match c.x? (c.add (c.multiple u c.base) (c.multiple v key)) with
    | some x => x % c.order == r
    | none => false
  else false

/-- Whether octets are a signature of a digest under a key, given as octets too. -/
def verify (c : Curve) (key digest signature : Bytes) : Bool :=
  match c.point? key, Der.Canonical.naturals? signature with
  | some q, some [r, s] => accepts c q digest r s
  | _, _ => false

end ArtifactTrust.Ecdsa
