import ArtifactTrust.Digest.Hash
import ArtifactTrust.Json.Codec
import ArtifactTrust.Text.Ascii

/-!
# Values that documents carry as texts

Octets and digests are base64, integers of 64 bits are decimal (a JSON number is read too), and digest algorithms are one of
three names.
-/

namespace ArtifactTrust.Json.Codec

/-- Octets in base64. -/
def octets : Codec Bytes := ofText Base64.decode? Base64.encode

/-- A SHA-256 digest in base64. -/
def sha256 : Codec Sha256Value := ofText (fun s => (Sha256Value.ofBase64 s).toOption) Sha256Value.base64

/-- An integer of 64 bits: a decimal text, or a number. A value of another kind is read to its end before it is refused. -/
def int64 : Codec Int64 where
  read p o := match o with
    | .string content => do
      match Int64Text.parse? (← content) with
      | some n => .ok n
      | none => .error .mismatch
    | .number n => do
      match ← n.read with
      | .int i => if i < 0x8000000000000000 then .ok (Int64.ofInt i) else .error .mismatch
      | .float => .error .mismatch
    | o => do
      if p.buffered then .ok () else o.readAll p.depth
      .error .mismatch
  write n := .text (Int64Text.render n)

/-- One of several names. A name may also stand as the only member of an object, with the value `null`. A value that
is neither text nor object is refused as if it were no JSON. -/
def oneOf {α : Type} (choices : List (String × α)) (name : α → String) : Codec α where
  read p o := match o with
    | .string content => do choose (← content)
    | .object ((key, value) :: rest) ending => do
      let a ← choose (← text.read p key)
      match value with
      | .null => pure ()
      | o => wrongKind o
      if rest.isEmpty then closed ending else .error .malformed
      return a
    | .object [] ending => do
      closed ending
      .error .malformed
    | .fault reading _ => .error reading
    | _ => .error .malformed
  write a := .text (name a)
where
  choose (s : String) : Except Cause α :=
    match choices.find? (fun c => c.1 == s) with
    | some c => .ok c.2
    | none => .error .mismatch

/-- The name of a digest algorithm. -/
def digestAlgorithm : Codec DigestAlgorithm :=
  oneOf ([.sha256, .sha384, .sha512].map fun a => (DigestAlgorithm.name a, a)) DigestAlgorithm.name

end ArtifactTrust.Json.Codec
