import ArtifactTrust.Text.Ascii
import ArtifactTrust.Text.Base64

/-!
# PEM blocks

A block is base64 between a BEGIN and an END line that carry the same label. Text before the block is skipped, lines
of the form `name: value` may come first with a blank line after them, and white space in the base64 does not count.
`Pem.read?` reads the first block of a text, `Pem.contentOf` asks for its label as well, and `Pem.readAll?` reads all
blocks. `Pem.Block.render` writes a block, in lines of 64 characters that end in CR LF.
-/

namespace ArtifactTrust.Pem

/-- A label and the octets under it. -/
structure Block where
  label : String
  content : Bytes
  deriving DecidableEq, Repr

/-- The ASCII octets of a text. -/
def ascii (s : String) : Bytes := Bytes.ofText s

/-- Splits octets around the first place where a marker is met: the octets before it and those after it. The comparison walks
once over the octets and starts over at the octet after a mismatch, so that an occurrence that overlaps a false start is not
seen. `found` octets of the marker have been met just before; `passed` are all octets passed, the last first. -/
def split (marker : Bytes) (found : Nat) (passed : Bytes) : Bytes → Option (Bytes × Bytes)
  | [] => none
  | octet :: rest =>
    let found := if marker[found]? = some octet then found + 1 else 0
    if found = marker.length then some (((octet :: passed).drop marker.length).reverse, rest)
    else split marker found (octet :: passed) rest

/-- Splits octets around the first place where a marker is met. -/
def splitAt? (marker : String) (b : Bytes) : Option (Bytes × Bytes) := split (ascii marker) 0 [] b

/-- The octets without blanks, tabs and line ends in front. -/
def skipBlank (b : Bytes) : Bytes := b.dropWhile fun o => o == 0x20 || o == 0x09 || o == 0x0a || o == 0x0d

/-- The parts of a block as they stand in the text. -/
structure Frame where
  opening : Bytes
  headers : Bytes
  data : Bytes
  closing : Bytes

/-- The frame of the first block and the octets after it. -/
def frame? (b : Bytes) : Option (Frame × Bytes) := do
  let (_, b) ← splitAt? "-----BEGIN " b
  let (opening, b) ← splitAt? "-----" b
  let (body, b) ← splitAt? "-----END " (skipBlank b)
  let (closing, b) ← splitAt? "-----" b
  let (headers, data) := ((splitAt? "\n\n" body).orElse fun _ => splitAt? "\r\n\r\n" body).getD ([], body)
  return (⟨opening, headers, data, closing⟩, skipBlank b)

/-- The lines of a text. A line end closes a line, and none follows the last one. -/
def lines (cs : List Char) : List (List Char) :=
  let pieces := cs.splitOn '\n'
  if pieces.getLast? = some [] then pieces.dropLast else pieces

/-- The block that a frame holds: the labels are equal and not empty, each header has a colon, and the data is base64. -/
def Frame.block? (f : Frame) : Option Block := do
  let label ← Bytes.text? f.opening
  let closing ← Bytes.text? f.closing
  let data ← Bytes.text? f.data
  let headers ← Bytes.text? f.headers
  let content ← Base64.ofLetters? (data.toList.filter fun c => !Text.isBlank c)
  if label ≠ "" ∧ label = closing ∧ (lines headers.toList).all (·.contains ':') then some ⟨label, content⟩ else none

/-- The first block. -/
def read? (b : Bytes) : Option Block := (frame? b).bind fun (f, _) => f.block?

/-- The frames of the blocks one after the other, up to the first place without another one. A frame takes some octets, so
`fuel`, the number of octets, is never used up. -/
def frames : (fuel : Nat) → Bytes → List Frame
  | 0, _ => []
  | fuel + 1, b =>
    match frame? b with
    | some (f, rest) => f :: frames fuel rest
    | none => []

/-- All blocks, if every frame holds one. -/
def readAll? (b : Bytes) : Option (List Block) := (frames b.length b).mapM Frame.block?

/-- Why a text does not give the content of a block with a certain label: it has no block that can be read, or the
first one has another label. -/
inductive Fault where
  | noBlock
  | label (wanted found : String)
  deriving DecidableEq, Repr

/-- The content of the first block of a text, which has to have the label. -/
def contentOf (label text : String) : Except Fault Bytes :=
  match read? (ascii text) with
  | none => .error .noBlock
  | some block => if block.label = label then .ok block.content else .error (.label label block.label)

/-- Cuts a text into lines of 64 characters. -/
def wrap : (fuel : Nat) → List Char → List (List Char)
  | 0, _ => []
  | _, [] => []
  | fuel + 1, cs => cs.take 64 :: wrap fuel (cs.drop 64)

/-- A block as text. -/
def Block.render (b : Block) : String :=
  let letters := Base64.letters b.content
  let data := (wrap letters.length letters).flatMap fun line => line ++ ['\r', '\n']
  "-----BEGIN " ++ b.label ++ "-----\r\n" ++ String.ofList data ++ "-----END " ++ b.label ++ "-----\r\n"

end ArtifactTrust.Pem
