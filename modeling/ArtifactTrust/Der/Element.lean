import ArtifactTrust.Der.Content
import ArtifactTrust.Der.Length

/-!
# Elements

An element is a tag, a length and content. The content of a constructed element is a sequence of elements; so, often, is that
of a primitive OCTET STRING, whose elements are kept when its content splits into elements without remainder. Elements nest
at most 64 levels below the outermost.

`Element.parse` reads a whole buffer, `Element.toDer` writes an element with all lengths in the shortest form, and
`Element.build` and `Element.buildPrimitive` make new elements. Two elements are equal when their octets are.
-/

namespace ArtifactTrust.Der

/-- An element as it was read: its length octets, which need not be the shortest, its content, and the elements in it. -/
inductive Element where
  | mk (tag : Tag) (lengthOctets : Bytes) (content : Bytes) (children : List Element)

namespace Element

/-- The tag. -/
def tag : Element → Tag
  | mk t _ _ _ => t

/-- The octets of the length, as they were read. -/
def lengthOctets : Element → Bytes
  | mk _ l _ _ => l

/-- The content octets. -/
def content : Element → Bytes
  | mk _ _ c _ => c

/-- The elements in the content. -/
def children : Element → List Element
  | mk _ _ _ cs => cs

/-- The tag and length octets. -/
def header (e : Element) : Bytes := e.tag.octet :: e.lengthOctets

/-- All octets of the element. -/
def octets (e : Element) : Bytes := e.header ++ e.content

instance : BEq Element where
  beq a b := a.octets == b.octets

/-- The encoding of a tag and content, with the length in the shortest form. -/
def encode (tag : Tag) (content : Bytes) : Bytes := tag.octet :: Length.encode content.length ++ content

/-! ## Reading -/

/-- Reads one element of a sequence. `offset` is the number of octets in front in the whole buffer, which the words
for a fault name. -/
abbrev Reader : Type := (offset : Nat) → Bytes → Except Malformed (Element × Bytes)

/-- Reads elements until nothing is left. Each takes at least two octets, so `fuel`, the number of octets, is never used
up. -/
def readAll (reader : Reader) : (fuel offset : Nat) → Bytes → Except Malformed (List Element)
  | _, _, [] => .ok []
  | 0, _, _ => .error .endOfBuffer
  | fuel + 1, offset, b => do
    let (element, rest) ← reader offset b
    let more ← readAll reader fuel (offset + (b.length - rest.length)) rest
    return element :: more

/-- The elements that a content is split into under its tag: those of a constructed element have to be read, those of a
non-empty OCTET STRING are dropped when they cannot be. -/
def readChildren (reader : Reader) (tag : Tag) (offset : Nat) (content : Bytes) : Except Malformed (List Element) :=
  if tag.isConstructed then readAll reader content.length offset content
  else if tag.isOctetString then
    match readAll reader content.length offset content with
    | .ok children => .ok children
    | .error _ => .ok []
  else .ok []

/-- Reads the element at the front, which may hold `levels` levels of elements less one. -/
def read : (levels : Nat) → Reader
  | 0, _, _ => .error .tooDeep
  | _ + 1, _, [] => .error .endOfBuffer
  | levels + 1, offset, octet :: rest =>
    match Tag.ofOctet octet with
    | .error fault => .error (.tag fault)
    | .ok tag =>
      match Length.read rest with
      | (.error fault, _) => .error fault
      | (.ok size, taken) =>
        let start := offset + 1 + taken
        let body := rest.drop taken
        if body.length < size then .error (.outOfBuffer size start (start + body.length))
        else do
          let content := body.take size
          let children ← readChildren (read levels) tag start content
          return (mk tag (rest.take taken) content children, body.drop size)

/-- The element that a buffer holds, all of it. -/
def parse (b : Bytes) : Except Error Element :=
  match read (maxDepth + 1) 0 b with
  | .error fault => .error (.malformed fault)
  | .ok (element, rest) => if rest.isEmpty then .ok element else .error (.malformed (.trailing rest.length))

/-! ## Writing and building -/

mutual

/-- The element with every length in the shortest form. A primitive element keeps its content, whatever was found in it. -/
def toDer : Element → Bytes
  | mk tag _ content children => encode tag (if tag.isConstructed then toDerAll children else content)

/-- The elements one after the other, with every length in the shortest form. -/
def toDerAll : List Element → Bytes
  | [] => []
  | e :: es => toDer e ++ toDerAll es

end

/-- A constructed element of the given elements, as it reads back from its encoding. -/
def build (tag : Tag) (children : List Element) : Except Error Element :=
  if tag.isConstructed then parse (encode tag (toDerAll children))
  else .error (.mismatch (.childrenUnder tag))

/-- A primitive element of the given content, as it reads back from its encoding. -/
def buildPrimitive (tag : Tag) (content : Bytes) : Except Error Element :=
  if tag.isConstructed then .error (.mismatch (.contentUnder tag))
  else parse (encode tag content)

/-! ## Typed contents -/

/-- What the content denotes, if the tag holds what is wanted. -/
def typed {α : Type} (e : Element) (wanted : Wanted) (fits : Bool) (value : Bytes → Except Malformed α) :
    Except Error α :=
  if fits then
    match value e.content with
    | .ok a => .ok a
    | .error fault => .error (.malformed fault)
  else .error (.mismatch (.found wanted e.tag))

/-- The value of a BOOLEAN. -/
def boolean (e : Element) : Except Error Bool := e.typed .boolean e.tag.isBoolean Content.boolean

/-- The value of an INTEGER of 64 bits. -/
def integer (e : Element) : Except Error Int := e.typed .integer e.tag.isInteger Content.integer

/-- An OBJECT IDENTIFIER. -/
def oid (e : Element) : Except Error Oid := e.typed .oid e.tag.isOid Content.oid

/-- The instant of a UTCTime or GeneralizedTime. -/
def time (e : Element) : Except Error Instant :=
  e.typed .time (e.tag.isUtcTime || e.tag.isGeneralizedTime)
    (Content.time (if e.tag.isUtcTime then .two else .four))

/-- The bits of a BIT STRING. -/
def bits (e : Element) : Except Error (List Bool) := e.typed .bitString e.tag.isBitString Content.bits

/-- The octets of a BIT STRING without unused bits, which is how keys and signatures are carried. -/
def wholeOctets (e : Element) : Except Error Bytes := e.typed .bitString e.tag.isBitString Content.wholeOctets

/-- The text of a UTF8String, PrintableString or IA5String. -/
def text (e : Element) : Except Error String := e.typed .text e.tag.isText Content.text

end Element

end ArtifactTrust.Der
