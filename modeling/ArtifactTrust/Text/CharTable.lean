/-!
# Tables of characters

A set of characters as ranges of code points. A long table is written as steps: how many code points are skipped and how many
after them are in the set, in turn.
-/

namespace ArtifactTrust

/-- Ranges of code points, their ends included. -/
abbrev CharTable : Type := List (Nat × Nat)

namespace CharTable

/-- Whether a code point is in a table. -/
def contains (t : CharTable) (n : Nat) : Bool := t.any fun (first, last) => first ≤ n && n ≤ last

/-- The ranges of steps from a code point on. -/
def ofNumbers (start : Nat) : List Nat → CharTable
  | skip :: size :: rest => (start + skip, start + skip + size - 1) :: ofNumbers (start + skip + size) rest
  | _ => []

/-- The table of steps written as decimal numbers with blanks between them. -/
def ofSteps (lines : List String) : CharTable :=
  ofNumbers 0 (lines.flatMap fun line => (line.splitOn " ").filterMap String.toNat?)

/-- The gaps of a table whose ranges are in order, from a code point on. -/
def gapsFrom (start : Nat) : CharTable → CharTable
  | [] => if start ≤ 0x10ffff then [(start, 0x10ffff)] else []
  | (first, last) :: rest =>
    let gaps := gapsFrom (max start (last + 1)) rest
    if start < first then (start, first - 1) :: gaps else gaps

/-- The code points that are not in a table, in as few ranges as there can be. -/
def complement (t : CharTable) : CharTable := gapsFrom 0 (t.mergeSort fun a b => a.1 ≤ b.1)

/-- The code points of a table that are not in another. -/
def without (t u : CharTable) : CharTable := complement (t.complement ++ u)

/-- The code points of a table that are also in another. -/
def within (t u : CharTable) : CharTable := complement (t.complement ++ u.complement)

end CharTable

end ArtifactTrust
