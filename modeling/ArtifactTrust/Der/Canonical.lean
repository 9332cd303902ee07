import ArtifactTrust.Der.Element

/-!
# Canonical elements

Signatures and the numbers of keys are read more strictly than certificates: every length is in the shortest form, and
an INTEGER has no surplus octet in front (`Canonical.parse?`, `Canonical.naturals?`).
-/

namespace ArtifactTrust.Der.Canonical

/-- The element that a buffer holds, if every length is in the shortest form. -/
def parse? (b : Bytes) : Option Element :=
  match Element.parse b with
  | .ok e => if e.toDer = b then some e else none
  | .error _ => none

/-- The number in the content of an INTEGER, if it is not negative and written in as few octets as can be. -/
def natural? : Bytes → Option Nat
  | [] => none
  | [octet] => if octet < 0x80 then some octet.toNat else none
  | first :: second :: rest =>
    if first < 0x80 ∧ (first ≠ 0 ∨ 0x80 ≤ second) then some (Bytes.toNat (first :: second :: rest)) else none

/-- The numbers of a SEQUENCE of INTEGERs. -/
def naturals? (b : Bytes) : Option (List Nat) := do
  let e ← parse? b
  if e.tag.octet = 0x30 then e.children.mapM fun i => if i.tag.octet = 0x02 then natural? i.content else none
  else none

end ArtifactTrust.Der.Canonical
