import ArtifactTrust.Der.Error
import ArtifactTrust.Time.Instant

/-!
# Content octets

What the content octets of a primitive element denote, tag aside: integers in two's complement, object identifiers as
base-128 arcs, times, bit strings and text.
-/

namespace ArtifactTrust

/-- An object identifier in dotted notation. -/
abbrev Oid : Type := String

namespace Der.Content

/-- An integer of at most eight octets, in two's complement. -/
def integer : Bytes → Except Malformed Int
  | [] => .error .emptyInteger
  | first :: rest =>
    let b := first :: rest
    if 8 < b.length then .error (.wideInteger b.length)
    else if first < 0x80 then .ok (Bytes.toNat b)
    else .ok ((Bytes.toNat b : Int) - (1 <<< (8 * b.length) : Nat))

/-- A truth value: any octet but zero is true. -/
def boolean : Bytes → Except Malformed Bool
  | [octet] => .ok (octet != 0)
  | b => .error (.booleanSize b.length)

/-- The subidentifiers of an object identifier: groups of seven bits, all but the last octet of each marked by the top bit.
`value` is what has been read of the subidentifier at hand. -/
def subidentifiers (value : Nat) : Bytes → Except Malformed (List Nat)
  | [] => .ok []
  | octet :: rest =>
    if 0x200000000000000 ≤ value then .error .wideOidArc
    else
      let value := value * 128 + (octet &&& 0x7f).toNat
      if octet < 0x80 then (subidentifiers 0 rest).map (value :: ·)
      else if rest.isEmpty then .error .openOidArc
      else subidentifiers value rest

/-- The first subidentifier packs two arcs, 40 times the first plus the second; the first arc is at most 2. -/
def unpack : List Nat → List Nat
  | [] => []
  | first :: rest => if first < 80 then first / 40 :: first % 40 :: rest else 2 :: (first - 80) :: rest

/-- The arcs of an object identifier. -/
def arcs (b : Bytes) : Except Malformed (List Nat) :=
  if b.isEmpty then .error .emptyOid else (subidentifiers 0 b).map unpack

/-- Arcs in dotted notation. -/
def dotted (arcs : List Nat) : Oid := ".".intercalate (arcs.map toString)

/-- An object identifier in dotted notation. -/
def oid (b : Bytes) : Except Malformed Oid := (arcs b).map dotted

/-- The two ways to write a year. -/
inductive YearForm where
  | two | four
  deriving DecidableEq, Repr

/-- The number of digits of a year. -/
def YearForm.digits : YearForm → Nat
  | .two => 2
  | .four => 4

/-- The year that the digits mean: of two digits, those from 50 on are in the twentieth century, the others in the
twenty-first. -/
def YearForm.year : YearForm → Nat → Nat
  | .two, n => if 50 ≤ n then 1900 + n else 2000 + n
  | .four, n => n

/-- The characters up to a dot, and those after it if there is one. -/
def splitAtDot (cs : List Char) : List Char × Option (List Char) :=
  match cs.span (· != '.') with
  | (before, []) => (before, none)
  | (before, _ :: after) => (before, some after)

/-- The number of a run of digits. -/
def field (digits : List Char) (start width : Nat) : Nat :=
  ((digits.drop start).take width).foldl (fun n c => n * 10 + (c.toNat - '0'.toNat)) 0

/-- The time of `YYMMDDhhmmss` or `YYYYMMDDhhmmss`, then three digits of a fraction if there is one, then `Z`. -/
def time (form : YearForm) (b : Bytes) : Except Malformed Instant :=
  match Bytes.text? b with
  | none => .error .timeOctets
  | some text =>
    let cs := text.toList
    let (digits, fraction) := splitAtDot cs.dropLast
    let w := form.digits
    let fractionFits := fraction.all fun f => f.length == 3 && f.all Ascii.isDigit
    if cs.getLast? ≠ some 'Z' ∨ digits.length ≠ w + 10 ∨ !digits.all Ascii.isDigit ∨ !fractionFits then
      .error (.timeFormat text)
    else
      let t : DateTime :=
        { date := ⟨form.year (field digits 0 w), field digits w 2, field digits (w + 2) 2⟩
          hour := field digits (w + 4) 2
          minute := field digits (w + 6) 2
          second := field digits (w + 8) 2
          nanos := (fraction.elim 0 fun f => field f 0 3) * 1000000 }
      if t.date.exists? ∧ t.hour < 24 ∧ t.minute < 60 ∧ t.second < 60 then .ok (Instant.ofDateTime t)
      else .error (.timeRange text)

/-- The eight bits of an octet, the most significant first. -/
def octetBits (octet : UInt8) : List Bool :=
  [7, 6, 5, 4, 3, 2, 1, 0].map fun i => octet.toNat.testBit i

/-- The bits of a bit string. The first octet counts the unused bits at the end. -/
def bits : Bytes → Except Malformed (List Bool)
  | [] => .error .emptyBitString
  | unused :: octets =>
    if 7 < unused ∨ (octets.isEmpty ∧ unused ≠ 0) then .error (.unusedBits unused)
    else
      let all := octets.flatMap octetBits
      .ok (all.take (all.length - unused.toNat))

/-- The octets of a bit string without unused bits. -/
def wholeOctets : Bytes → Except Malformed Bytes
  | [] => .error .emptyBitString
  | unused :: octets => if unused = 0 then .ok octets else .error (.partialOctets unused)

/-- Text in UTF-8. -/
def text (b : Bytes) : Except Malformed String :=
  match Bytes.text? b with
  | some text => .ok text
  | none => .error .textOctets

end Der.Content

end ArtifactTrust
