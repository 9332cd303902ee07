/-!
# Arithmetic modulo a number

Residues are natural numbers below the modulus. Powers and multiples of points walk over the binary digits of a number
from the front (`ladder`); a non-zero residue of a prime has its inverse as a power.
-/

namespace ArtifactTrust

/-- The binary digits of a number, the most significant first. Zero has one digit. -/
def binary (n : Nat) : List Bool := (List.range (n.log2 + 1)).reverse.map n.testBit

/-- Walks over the binary digits of a number: doubles at each of them, and adds after doubling where the digit is one. -/
def ladder {α : Type} (double add : α → α) (zero : α) (n : Nat) : α :=
  (binary n).foldl (fun acc digit => if digit then add (double acc) else double acc) zero

namespace Modular

/-- The difference of two residues. -/
def sub (m a b : Nat) : Nat := (a + (m - b)) % m

/-- A power of a residue. -/
def pow (m a n : Nat) : Nat := ladder (fun x => x * x % m) (fun x => x * a % m) (1 % m) n

/-- The inverse of a non-zero residue of a prime. -/
def inverse (p a : Nat) : Nat := pow p a (p - 2)

/-- A residue whose square is the given one, if there is one: for a prime that is 3 modulo 4. -/
def root? (p a : Nat) : Option Nat :=
  let r := pow p a ((p + 1) / 4)
  if r * r % p = a then some r else none

end Modular

end ArtifactTrust
