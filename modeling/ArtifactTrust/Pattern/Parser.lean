import ArtifactTrust.Pattern.Class

/-!
# Reading patterns

The grammar of patterns (`Pattern.ofString?`): characters, classes and places, groups with flags or names, repetitions
and choices. There is no looking around and no reference to a group. A pattern that is nested too deeply or too large
is refused.
-/

namespace ArtifactTrust.Pattern

/-- A flag set or cleared by its letter. -/
def Flags.set? (f : Flags) (letter : Char) (value : Bool) : Option Flags :=
  match letter with
  | 'i' => some { f with ignoreCase := value }
  | 'm' => some { f with multiLine := value }
  | 's' => some { f with dotMatchesAll := value }
  | 'R' => some { f with anyLineEnd := value }
  | 'u' => some { f with unicode := value }
  | 'x' => some { f with spaced := value }
  | 'U' => some f
  | _ => none

/-- How a parenthesis begins. -/
inductive Opening where
  /-- Flags for the rest of the group around. -/
  | flags (f : Flags)
  /-- A group with its flags, and its name if it has one. -/
  | group (f : Flags) (name : Option (List Char))

/-- Flags up to a colon or a closing parenthesis. No flag is written twice; after a hyphen, which is written once and
not last, they are cleared. -/
def readFlags (f : Flags) (seen : List Char) (cleared : Bool) : List Char → Option (Opening × List Char)
  | [] => none
  | ':' :: rest => if seen.head? = some '-' then none else some (.group f none, rest)
  | ')' :: rest => if seen.isEmpty ∨ seen.head? = some '-' then none else some (.flags f, rest)
  | c :: rest =>
    if seen.contains c then none
    else if c = '-' then readFlags f (c :: seen) true rest
    else match f.set? c !cleared with
      | some f => readFlags f (c :: seen) cleared rest
      | none => none

/-- The name of a group up to its closing angle: a letter or a low line, and after it also digits, points and brackets. -/
def readName (f : Flags) (s : List Char) : Option (Opening × List Char) := do
  let name := s.takeWhile (· != '>')
  let isLetter (c : Char) : Bool := c == '_' || Property.alphabetic.contains c.toNat
  let isInner (c : Char) : Bool :=
    isLetter c || c == '.' || c == '[' || c == ']' || Category.number.contains c.toNat
  guard (name.head?.any isLetter && name.tail.all isInner)
  match s.dropWhile (· != '>') with
  | '>' :: rest => return (.group f (some name), rest)
  | _ => none

/-- What follows an opening parenthesis. -/
def readOpening (f : Flags) (s : List Char) : Option (Opening × List Char) :=
  match f.skip s with
  | '?' :: '=' :: _ | '?' :: '!' :: _ | '?' :: '<' :: '=' :: _ | '?' :: '<' :: '!' :: _ => none
  | '?' :: 'P' :: '<' :: rest => readName f rest
  | '?' :: '<' :: rest => readName f rest
  | '?' :: rest => readFlags f [] false rest
  | s => some (.group f none, s)

/-- A text without a question mark in front, which says only that a repetition prefers few rounds. -/
def dropReluctant : List Char → List Char
  | '?' :: rest => rest
  | s => s

/-- A number between blanks that fits 32 bits, and what follows it. -/
def readCount (f : Flags) (s : List Char) : Option (Nat × List Char) :=
  let rec digits : Nat → List Char → List Char × List Char
    | 0, s => ([], s)
    | fuel + 1, s =>
      match s with
      | c :: rest =>
        if Ascii.isDigit c then let (found, rest) := digits fuel (f.skip rest); (c :: found, rest) else ([], s)
      | [] => ([], [])
  let start := Text.skipBlanks s
  let (found, rest) := digits start.length start
  let rec blanks : Nat → List Char → List Char
    | 0, s => s
    | fuel + 1, s =>
      match s with
      | c :: rest => if Text.isBlank c then blanks fuel (f.skip rest) else s
      | [] => []
  match Ascii.number? found with
  | some n => if n < 0x100000000 then some (n, blanks rest.length rest) else none
  | none => none

/-- The bounds of a repetition, after the opening brace: one number, or a least number with a greatest one or none. -/
def readBounds (f : Flags) (s : List Char) : Option ((Nat × Option Nat) × List Char) := do
  let (least, rest) ← readCount f (f.skip s)
  match rest with
  | '}' :: rest => return ((least, some least), rest)
  | ',' :: rest =>
    match f.skip rest with
    | '}' :: rest => return ((least, none), rest)
    | rest =>
      let (most, rest) ← readCount f rest
      match rest with
      | '}' :: rest =>
        guard (least ≤ most)
        return ((least, some most), rest)
      | _ => none
  | _ => none

/-- The items of a sequence, the last first, with the last one repeated. Flags are not repeated. -/
def repeatLast (least : Nat) (most : Option Nat) : List Node → Option (List Node)
  | [] => none
  | .empty :: _ => none
  | item :: rest => some (.repetition item least most :: rest)

/-- The sequence of some items: a single one is that item. -/
def Node.ofItems : List Node → Node
  | [] => .empty
  | [item] => item
  | items => .sequence items

/-- The choice between some branches: a single one is that branch. -/
def Node.ofBranches : List Node → Node
  | [branch] => branch
  | branches => .choice branches

/-- The pattern of an atom. Without Unicode an octet outside ASCII is no character. -/
def Atom.node? (f : Flags) : Atom → Option Node
  | .literal c octet => if octet && !f.unicode && 0x80 ≤ c.toNat then none else some (.one (.single f.caseRule c))
  | .set s => some (.one s)
  | .look condition => some (.look condition)

/-- Any character; by default none that ends a line. Without Unicode there is no such set of characters. -/
def readDot (f : Flags) : Option Node :=
  if !f.unicode then none
  else if f.dotMatchesAll then some (.one (.table .exact false anyCharacter))
  else if f.anyLineEnd then some (.one (.table .exact true [(0x0a, 0x0a), (0x0d, 0x0d)]))
  else some (.one (.table .exact true [(0x0a, 0x0a)]))

/-- A circumflex. -/
def Flags.start (f : Flags) : Look :=
  if f.multiLine then (if f.anyLineEnd then .anyLineStart else .lineStart) else .textStart

/-- A dollar sign. -/
def Flags.finish (f : Flags) : Look := if f.multiLine then (if f.anyLineEnd then .anyLineEnd else .lineEnd) else .textEnd

/-- The branches of a group, up to its closing parenthesis or the end of the text, with the names used so far, the
branches read, the last first, and the items of the last branch, the last first. Flags set on the way hold up to the
end of the group. The fuel bounds the number of items. -/
def readBranches : Nat → Flags → List (List Char) → List Node → List Node → List Char →
    Option (Node × List (List Char) × List Char)
  | 0, _, _, _, _, _ => none
  | fuel + 1, f, names, branches, items, s => do
    let finished : Node := .ofBranches (Node.ofItems items.reverse :: branches).reverse
    let next (items : List Node) (rest : List Char) : Option (Node × List (List Char) × List Char) :=
      readBranches fuel f names branches items rest
    match f.skip s with
    | [] => return (finished, names, [])
    | ')' :: rest => return (finished, names, ')' :: rest)
    | '|' :: rest => readBranches fuel f names (Node.ofItems items.reverse :: branches) [] rest
    | '(' :: rest =>
      match ← readOpening f rest with
      | (.flags f, rest) => readBranches fuel f names branches (.empty :: items) rest
      | (.group inner name, rest) =>
        guard (name.all fun name => !names.contains name)
        match ← readBranches fuel inner (name.toList ++ names) [] [] rest with
        | (node, names, ')' :: rest) => readBranches fuel f names branches (.group node :: items) rest
        | _ => none
    | '[' :: rest =>
      let (set, rest) ← readClass f rest
      next (.one set :: items) rest
    | '?' :: rest => next (← repeatLast 0 (some 1) items) (dropReluctant rest)
    | '*' :: rest => next (← repeatLast 0 none items) (dropReluctant rest)
    | '+' :: rest => next (← repeatLast 1 none items) (dropReluctant rest)
    | '{' :: rest =>
      let ((least, most), rest) ← readBounds f rest
      next (← repeatLast least most items) (dropReluctant (f.skip rest))
    | '.' :: rest => next ((← readDot f) :: items) rest
    | '^' :: rest => next (.look f.start :: items) rest
    | '$' :: rest => next (.look f.finish :: items) rest
    | '\\' :: rest =>
      let (atom, rest) ← Atom.readEscape f rest
      next ((← atom.node? f) :: items) rest
    | c :: rest => next ((← (Atom.literal c false).node? f) :: items) rest

/-- How deeply a pattern may be nested. -/
def depthLimit : Nat := 250

/-- How many states a machine for a pattern may have: as many as fit 10 MiB at 32 octets each. -/
def sizeLimit : Nat := 10 * 0x100000 / 32

end ArtifactTrust.Pattern

namespace ArtifactTrust

/-- The pattern that a text says, if it says one. -/
def Pattern.ofString? (source : String) : Option Pattern := do
  let s := source.toList
  match ← Pattern.readBranches (s.length + 1) {} [] [] [] s with
  | (node, _, []) =>
    guard (node.depth ≤ Pattern.depthLimit && node.size ≤ Pattern.sizeLimit)
    return ⟨source, node⟩
  | _ => none

end ArtifactTrust
