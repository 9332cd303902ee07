import ArtifactTrust.Pattern.Basic
import ArtifactTrust.Pattern.Named

/-!
# Reading escapes and classes

What stands for one character in a pattern, alone or in brackets: escapes (`Atom.readEscape`) and classes in brackets
(`readClass`). A reader gives what it has read and the rest of the text, or nothing if the text has no meaning.
-/

namespace ArtifactTrust.Pattern

/-- How a part of a pattern is to be read. -/
structure Flags where
  ignoreCase : Bool := false
  multiLine : Bool := false
  dotMatchesAll : Bool := false
  anyLineEnd : Bool := false
  unicode : Bool := true
  /-- White space and comments in the pattern do not count. -/
  spaced : Bool := false

/-- How letters are matched. -/
def Flags.caseRule (f : Flags) : CaseRule := if f.ignoreCase then (if f.unicode then .unicode else .ascii) else .exact

/-- A text after the white space and comments in front. A comment runs from a number sign to the end of its line. -/
def skipComments (inComment : Bool) : List Char → List Char
  | [] => []
  | c :: rest =>
    if inComment then skipComments (c != '\n') rest
    else if c = '#' then skipComments true rest
    else if Text.isBlank c then skipComments false rest
    else c :: rest

/-- A text after what does not count in front. -/
def Flags.skip (f : Flags) (s : List Char) : List Char := if f.spaced then skipComments false s else s

/-- What stands for one character or for a place. -/
inductive Atom where
  /-- A character, and whether it was written as an octet. -/
  | literal (c : Char) (octet : Bool)
  | set (s : CharSet)
  | look (condition : Look)

namespace Atom

/-- The scalar value of hexadecimal digits. -/
def ofHex? (digits : List Char) : Option Char := do
  let n ← digits.foldl (fun n c => n.bind fun n => (Ascii.hexDigit? c).map fun d => n * 16 + d) (some 0)
  if !digits.isEmpty ∧ (n < 0xd800 ∨ 0xdfff < n ∧ n < 0x110000) then some (Char.ofNat n) else none

/-- The characters up to a closing brace, and what follows it. -/
def readBraced (f : Flags) : Nat → List Char → Option (List Char × List Char)
  | 0, _ => none
  | fuel + 1, s =>
    match f.skip s with
    | [] => none
    | '}' :: rest => some ([], rest)
    | c :: rest => (readBraced f fuel rest).map fun (inner, rest) => (c :: inner, rest)

/-- A number of characters, and what follows them. -/
def readDigits (f : Flags) : Nat → List Char → Option (List Char × List Char)
  | 0, s => some ([], s)
  | n + 1, s =>
    match f.skip s with
    | [] => none
    | c :: rest => (readDigits f n rest).map fun (digits, rest) => (c :: digits, rest)

/-- A character by its hexadecimal digits: as many as its letter says, or any number of them in braces. -/
def readHex (f : Flags) (letter : Char) (s : List Char) : Option (Atom × List Char) := do
  match f.skip s with
  | '{' :: rest =>
    let (digits, rest) ← readBraced f (rest.length + 1) rest
    return (.literal (← ofHex? digits) false, f.skip rest)
  | s =>
    let (digits, rest) ← readDigits f (if letter = 'x' then 2 else if letter = 'u' then 4 else 8) s
    return (.literal (← ofHex? digits) (letter = 'x'), f.skip rest)

/-- A set by a letter or by what stands in braces: a name, or a property and its value. -/
def readProperty (f : Flags) (negated : Bool) (s : List Char) : Option (Atom × List Char) := do
  guard f.unicode
  let set (negated : Bool) (t : CharTable) : Atom := .set (.table f.caseRule negated t)
  match f.skip s with
  | '{' :: rest =>
    let (name, rest) ← readBraced f (rest.length + 1) rest
    let split (i length : Nat) : Option CharTable := valued? (name.take i) (name.drop (i + length))
    match (List.range name.length).find? fun i => (name.drop i).take 2 == ['!', '='] with
    | some i => return (set (!negated) (← split i 2), rest)
    | none =>
      match name.findIdx? (· == ':') <|> name.findIdx? (· == '=') with
      | some i => return (set negated (← split i 1), rest)
      | none => return (set negated (← named? name), rest)
  | c :: rest =>
    guard (c != '\\')
    return (set negated (← named? [c]), f.skip rest)
  | [] => none

/-- Digits, white space and characters of words. Without Unicode they are those of ASCII, and the others are no set of
characters. -/
def readKind (f : Flags) (letter : Char) : Option Atom := do
  let negated := 'A' ≤ letter && letter ≤ 'Z'
  guard (f.unicode || !negated)
  let table : CharTable := match letter.toLower with
    | 'd' => if f.unicode then Category.decimalNumber else [(0x30, 0x39)]
    | 's' => if f.unicode then Property.blank else [(0x09, 0x0d), (0x20, 0x20)]
    | _ => wordTable f.unicode
  return .set (.table .exact negated table)

/-- The edge of a word. A word in braces may say which edge; anything else in braces is left unread. -/
def readEdge (f : Flags) (s : List Char) : Option (Atom × List Char) := do
  let isNameChar (c : Char) : Bool := c.isAlpha || c == '-'
  match s with
  | '{' :: rest =>
    match f.skip rest with
    | [] => none
    | c :: _ =>
      if !isNameChar c then return (.look (.wordEdge f.unicode), s)
      else
        let (name, rest) ← readBraced f (rest.length + 1) rest
        guard (name.all isNameChar)
        match String.ofList name with
        | "start" => return (.look (.wordStart f.unicode), rest)
        | "end" => return (.look (.wordEnd f.unicode), rest)
        | "start-half" => return (.look (.noWordBefore f.unicode), rest)
        | "end-half" => return (.look (.noWordAfter f.unicode), rest)
        | _ => none
  | _ => return (.look (.wordEdge f.unicode), s)

/-- What a backslash makes of the text after it. Punctuation stands for itself; letters and digits without a meaning
have none. -/
def readEscape (f : Flags) : List Char → Option (Atom × List Char)
  | [] => none
  | c :: rest =>
    let control (n : Nat) : Option (Atom × List Char) := some (.literal (Char.ofNat n) false, rest)
    let look (condition : Look) : Option (Atom × List Char) := some (.look condition, rest)
    match c with
    | 'x' | 'u' | 'U' => readHex f c rest
    | 'p' | 'P' => readProperty f (c = 'P') rest
    | 'd' | 's' | 'w' | 'D' | 'S' | 'W' => (readKind f c).map (·, rest)
    | 'a' => control 0x07
    | 'f' => control 0x0c
    | 't' => control 0x09
    | 'n' => control 0x0a
    | 'r' => control 0x0d
    | 'v' => control 0x0b
    | 'A' => look .textStart
    | 'z' => look .textEnd
    | 'b' => readEdge f rest
    | 'B' => look (.noWordEdge f.unicode)
    | '<' => look (.wordStart f.unicode)
    | '>' => look (.wordEnd f.unicode)
    | _ => if c.toNat < 0x80 ∧ !c.isAlphanum then some (.literal c false, rest) else none

/-- The set of an atom that stands in brackets. Places are not allowed there, nor, without Unicode, characters outside
ASCII. -/
def inBrackets? (f : Flags) : Atom → Option CharSet
  | .literal c _ => if f.unicode || c.toNat < 0x80 then some (.single .exact c) else none
  | .set s => some s
  | .look _ => none

end Atom

/-- A character or an escape in brackets. -/
def readClassAtom (f : Flags) : List Char → Option (Atom × List Char)
  | [] => none
  | '\\' :: rest => Atom.readEscape f rest
  | c :: rest => some (.literal c false, rest)

/-- An item in brackets: a character, an escape, or a range of characters. A hyphen makes no range before a closing
bracket or another hyphen. -/
def readClassItem (f : Flags) (s : List Char) : Option (CharSet × List Char) := do
  let (first, rest) ← readClassAtom f s
  match f.skip rest with
  | [] => none
  | '-' :: rest =>
    match f.skip rest with
    | ']' :: _ | '-' :: _ => return (← first.inBrackets? f, '-' :: rest)
    | rest =>
      let (last, rest) ← readClassAtom f rest
      match first, last with
      | .literal a _, .literal b _ =>
        guard (a ≤ b && (f.unicode || b.toNat < 0x80))
        return (.table .exact false [(a.toNat, b.toNat)], rest)
      | _, _ => none
  | rest => return (← first.inBrackets? f, rest)

/-- A class of ASCII by its name between colons in brackets. -/
def readAsciiClass (f : Flags) (s : List Char) : Option (CharSet × List Char) := do
  match s with
  | '[' :: ':' :: rest =>
    let (negated, rest) := match rest with
      | '^' :: rest => (true, rest)
      | rest => (false, rest)
    match rest.dropWhile (· != ':') with
    | ':' :: ']' :: after =>
      let t ← asciiClass? (String.ofList (rest.takeWhile (· != ':')))
      return (.table f.caseRule negated t, after)
    | _ => none
  | _ => none

/-- What stands at the front of a class: a circumflex that negates it, then hyphens, or a closing bracket, that stand for
themselves. The text begins after the opening bracket. -/
def openClass (f : Flags) (s : List Char) : Bool × List CharSet × List Char :=
  let (negated, s) := match f.skip s with
    | '^' :: rest => (true, f.skip rest)
    | s => (false, s)
  let rec hyphens : Nat → List CharSet → List Char → List CharSet × List Char
    | 0, items, s => (items, s)
    | fuel + 1, items, s =>
      match s with
      | '-' :: rest => hyphens fuel (.single .exact '-' :: items) (f.skip rest)
      | s => (items, s)
  match hyphens s.length [] s with
  | ([], ']' :: rest) => (negated, [.single .exact ']'], f.skip rest)
  | (items, s) => (negated, items, s)

/-- The rest of a class up to its closing bracket, with the items read so far, the last first, and the left side of an
operator if there is one. The fuel bounds the number of items. -/
def readClassItems (f : Flags) (negated : Bool) :
    Nat → Option (SetOperation × CharSet) → List CharSet → List Char → Option (CharSet × List Char)
  | 0, _, _, _ => none
  | fuel + 1, left, items, s =>
    let whole : CharSet :=
      match left with
      | none => .ofItems items.reverse
      | some (operation, left) => .combined f.caseRule operation left (.ofItems items.reverse)
    let s := f.skip s
    match s with
    | [] => none
    | ']' :: rest => if f.unicode || !negated then some (.bracketed f.caseRule negated whole, rest) else none
    | '&' :: '&' :: rest => readClassItems f negated fuel (some (.intersection, whole)) [] rest
    | '-' :: '-' :: rest => readClassItems f negated fuel (some (.difference, whole)) [] rest
    | '~' :: '~' :: rest => readClassItems f negated fuel (some (.symmetricDifference, whole)) [] rest
    | '[' :: rest =>
      match readAsciiClass f s with
      | some (.table rule negatedClass t, rest) =>
        if f.unicode || !negatedClass then
          readClassItems f negated fuel left (.table rule negatedClass t :: items) rest
        else none
      | _ =>
        let (negatedInner, first, rest) := openClass f rest
        match readClassItems f negatedInner fuel none first rest with
        | some (inner, rest) => readClassItems f negated fuel left (inner :: items) rest
        | none => none
    | _ =>
      match readClassItem f s with
      | some (item, rest) => readClassItems f negated fuel left (item :: items) rest
      | none => none

/-- A class, after its opening bracket. -/
def readClass (f : Flags) (s : List Char) : Option (CharSet × List Char) :=
  let (negated, first, rest) := openClass f s
  readClassItems f negated (s.length + 1) none first rest

end ArtifactTrust.Pattern
