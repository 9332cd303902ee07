/-!
# Integers as doubles

Canonical JSON writes a number as the shortest decimal that reads back as the same double. For an integer this is another
integer (`Double.written`): the same one below 2⁵³ in magnitude, and above it one that is near, with zeros at the end.
-/

namespace ArtifactTrust.Double

/-- The exponent of the spacing of the doubles around a number: they are multiples of this power of two. -/
def spacing (n : Nat) : Nat := n.log2 - 52

/-- The double nearest to a number; of two, the one with an even multiple. -/
def nearest (n : Nat) : Nat :=
  let unit := 1 <<< spacing n
  let q := n / unit
  let r := n % unit
  if unit < 2 * r ∨ (2 * r = unit ∧ q % 2 = 1) then (q + 1) * unit else q * unit

/-- Whether a number reads back as a double: it is at most half way to the doubles on both sides, and half way is near enough
for an even multiple. Below a power of two the doubles are twice as dense. -/
def readsAs (m x : Nat) : Bool :=
  let unit := 1 <<< spacing m
  let even := m / unit % 2 == 0
  let below := if m == 1 <<< m.log2 then unit else 2 * unit
  if even then 4 * m ≤ 4 * x + below && 4 * x ≤ 4 * m + 2 * unit
  else 4 * m < 4 * x + below && 4 * x < 4 * m + 2 * unit

/-- The multiple of a power of ten that reads back as a double and is nearest to it, if there is one. -/
def rounded? (m places : Nat) : Option Nat :=
  let unit := Nat.pow 10 places
  let low := m / unit * unit
  let high := low + unit
  match readsAs m low, readsAs m high with
  | true, true => some (if m - low ≤ high - m then low else high)
  | true, false => some low
  | false, true => some high
  | false, false => none

/-- The number that is written for a double: with as many zeros at the end as can be. -/
def shortest (m : Nat) : Nat :=
  if m < 0x20000000000000 then m
  else ((List.range (Nat.toDigits 10 m).length).reverse.findSome? (rounded? m)).getD m

/-- The integer that canonical JSON has for an integer. -/
def written (n : Int) : Int :=
  let m : Int := shortest (nearest n.natAbs)
  if n < 0 then -m else m

end ArtifactTrust.Double
