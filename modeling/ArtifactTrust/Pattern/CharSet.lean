import ArtifactTrust.Text.Ascii
import ArtifactTrust.Text.CaseFolding
import ArtifactTrust.Text.CharTable

/-!
# Sets of characters

The sets that a pattern names: tables, classes in brackets, and what the operators between classes make of them. A set
is kept as it is written; `CharSet.contains` says which characters it holds.
-/

namespace ArtifactTrust.Pattern

/-- Which characters a set does not tell apart: none, letters of ASCII in either case, or all characters that differ in case
only. -/
inductive CaseRule where
  | exact | ascii | unicode
  deriving DecidableEq, Repr

/-- The characters that a rule does not tell from a character, itself included. -/
def CaseRule.variants : CaseRule → Nat → List Nat
  | .exact, n => [n]
  | .ascii, n =>
    if 0x41 ≤ n ∧ n ≤ 0x5a then [n, n + 0x20] else if 0x61 ≤ n ∧ n ≤ 0x7a then [n, n - 0x20] else [n]
  | .unicode, n => CaseFolding.variants n

/-- The operators between classes. -/
inductive SetOperation where
  | intersection | difference | symmetricDifference
  deriving DecidableEq, Repr

/-- Membership in what an operator makes of two sets, by membership in each. -/
def SetOperation.holds : SetOperation → Bool → Bool → Bool
  | .intersection, left, right => left && right
  | .difference, left, right => left && !right
  | .symmetricDifference, left, right => left != right

/-- A set of characters as it is written. -/
inductive CharSet where
  /-- The characters of a table, or all others. -/
  | table (rule : CaseRule) (negated : Bool) (characters : CharTable)
  /-- What stands side by side in brackets. -/
  | union (items : List CharSet)
  /-- Two sides of an operator. -/
  | combined (rule : CaseRule) (operation : SetOperation) (left right : CharSet)
  /-- What stands in brackets, or all other characters. -/
  | bracketed (rule : CaseRule) (negated : Bool) (inner : CharSet)

namespace CharSet

mutual

/-- Whether a set holds a character, given by its code point. Case is disregarded before a set is negated. -/
def contains : CharSet → Nat → Bool
  | .table rule negated characters, n => (rule.variants n).any characters.contains != negated
  | .union items, n => anyContains items n
  | .combined rule operation left right, n =>
    operation.holds ((rule.variants n).any fun m => left.contains m) ((rule.variants n).any fun m => right.contains m)
  | .bracketed rule negated inner, n => ((rule.variants n).any fun m => inner.contains m) != negated

/-- Whether one of some sets holds a character. -/
def anyContains : List CharSet → Nat → Bool
  | [], _ => false
  | set :: rest, n => set.contains n || anyContains rest n

end

mutual

/-- How deeply brackets and operators are nested in a set. -/
def depth : CharSet → Nat
  | .table _ _ _ => 0
  | .union items => depthOfAll items + 1
  | .combined _ _ left right => max left.depth right.depth + 1
  | .bracketed _ _ inner => inner.depth + 1

/-- The greatest depth among some sets. -/
def depthOfAll : List CharSet → Nat
  | [] => 0
  | set :: rest => max set.depth (depthOfAll rest)

end

/-! ## Sizes -/

mutual

/-- Whether a set is written with characters of ASCII alone and without negation. -/
def isAscii : CharSet → Bool
  | .table _ negated characters => !negated && characters.all (·.2 < 0x80)
  | .union items => areAscii items
  | .combined _ _ left right => left.isAscii && right.isAscii
  | .bracketed _ negated inner => !negated && inner.isAscii

/-- Whether all of some sets are written with characters of ASCII alone and without negation. -/
def areAscii : List CharSet → Bool
  | [] => true
  | set :: rest => set.isAscii && areAscii rest

end

mutual

/-- How many ranges the tables of a set have. -/
def rangeCount : CharSet → Nat
  | .table _ _ characters => characters.complement.length
  | .union items => rangeCountOfAll items
  | .combined _ _ left right => left.rangeCount + right.rangeCount
  | .bracketed _ _ inner => inner.rangeCount

/-- How many ranges the tables of some sets have. -/
def rangeCountOfAll : List CharSet → Nat
  | [] => 0
  | set :: rest => set.rangeCount + rangeCountOfAll rest

end

/-- About how many states a machine needs that reads the octets of one character of a set: one for each octet of a single
character, few for a set of ASCII characters, and about two for each range of another set. -/
def size (s : CharSet) : Nat :=
  match s with
  | .table .exact false [(first, last)] =>
    if first = last then (Char.ofNat first).utf8Size else if s.isAscii then 3 else 27 + s.rangeCount * 19 / 10
  | s => if s.isAscii then 3 else 27 + s.rangeCount * 19 / 10

/-- The set of what stands side by side: a single thing is that thing. -/
def ofItems : List CharSet → CharSet
  | [] => .table .exact false []
  | [set] => set
  | items => .union items

/-- The set of one character. -/
def single (rule : CaseRule) (c : Char) : CharSet := .table rule false [(c.toNat, c.toNat)]

end CharSet

end ArtifactTrust.Pattern
