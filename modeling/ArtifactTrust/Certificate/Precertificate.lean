import ArtifactTrust.Certificate.Basic

/-!
# Pre-certificates

A log that promises to publish a certificate signs it before the promise is in it. `Certificate.without` gives what is
certified with one extension left out, all lengths around it counted anew; without the list of timestamps it is what
the logs signed (`Certificate.precertificate`).
-/

namespace ArtifactTrust.Certificate

/-- The extensions in a sequence that have another identifier, or none. -/
def keepOthers (oid : Oid) : List Der.Element → Except CryptoError (List Der.Element)
  | [] => .ok []
  | x :: rest => do
    let id ← match x.children with
      | [] => pure none
      | e :: _ => (PublicKey.reading e.oid).map some
    let kept ← keepOthers oid rest
    return if id = some oid then kept else x :: kept

/-- A field of what is certified, without an extension. Only fields of number 3 with an element in them hold
extensions; of their elements, the first is kept. -/
def fieldWithout (oid : Oid) (field : Der.Element) : Except CryptoError Der.Element :=
  if field.tag.isContext 3 then
    match field.children with
    | [] => .ok field
    | sequence :: _ => do
      let kept ← keepOthers oid sequence.children
      let sequence ← PublicKey.reading (Der.Element.build .sequence kept)
      PublicKey.reading (Der.Element.build field.tag [sequence])
  else .ok field

/-- The octets of what is certified, without an extension. -/
def without (c : Certificate) (oid : Oid) : Except CryptoError Bytes := do
  let fields ← c.body.children.mapM (fieldWithout oid)
  return (← PublicKey.reading (Der.Element.build c.body.tag fields)).octets

/-- What logs sign of a certificate. -/
def precertificate (c : Certificate) : Except CryptoError Bytes := c.without Oid.timestampList

end ArtifactTrust.Certificate
