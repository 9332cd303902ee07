import ArtifactTrust.Bytes
import ArtifactTrust.Number.Modular

/-!
# The curve of Ed25519

The points of -x² + y² = 1 + d x² y² over the field of 2²⁵⁵ - 19 elements form a group; the base point has a prime
order. Points are computed with in coordinates (X : Y : Z : T) with x = X / Z, y = Y / Z and T = X Y / Z, where one
formula adds any two points. A point is written as y with the lowest bit of x on top, in 32 octets, the least
significant first.
-/

namespace ArtifactTrust

namespace Bytes

/-- The number that the octets denote, the least significant first. -/
def toNatLittle (b : Bytes) : Nat := toNat b.reverse

end Bytes

/-- A point as (X : Y : Z : T). -/
structure EdwardsPoint where
  x : Nat
  y : Nat
  z : Nat
  t : Nat
  deriving DecidableEq, Repr

namespace Edwards

/-- The prime. -/
def prime : Nat := 0x7fffffffffffffffffffffffffffffffffffffffffffffffffffffffffffffed

/-- The order of the base point. -/
def order : Nat := 0x1000000000000000000000000000000014def9dea2f79cd65812631a5cf5d3ed

/-- The constant of the equation, -121665 / 121666. -/
def d : Nat := 37095705934669439343138083508754565189542113879843219016388785533085940283555

/-- A square root of -1. -/
def rootOfMinusOne : Nat := 19681161376707505956807079304988542015446066515923890162744021073123829784752

/-- The point with affine coordinates. -/
def ofAffine (x y : Nat) : EdwardsPoint := ⟨x, y, 1, x * y % prime⟩

/-- The neutral point. -/
def neutral : EdwardsPoint := ofAffine 0 1

/-- The base point. -/
def base : EdwardsPoint :=
  ofAffine 15112221349535400772501151409588531511454012693041857206046113283949847762202
    46316835694926478169428394003475163141307993866256225615783033603165251855960

/-- The sum of two points. -/
def add (q r : EdwardsPoint) : EdwardsPoint :=
  let a := Modular.sub prime q.y q.x * Modular.sub prime r.y r.x % prime
  let b := (q.y + q.x) * (r.y + r.x) % prime
  let c := 2 * d * (q.t * r.t % prime) % prime
  let e := 2 * (q.z * r.z) % prime
  let f := Modular.sub prime b a
  let g := Modular.sub prime e c
  let h := (e + c) % prime
  let i := (b + a) % prime
  ⟨f * g % prime, h * i % prime, g * h % prime, f * i % prime⟩

/-- The inverse of a point. -/
def negate (q : EdwardsPoint) : EdwardsPoint := { q with x := Modular.sub prime 0 q.x, t := Modular.sub prime 0 q.t }

/-- A multiple of a point. -/
def multiple (n : Nat) (q : EdwardsPoint) : EdwardsPoint := ladder (fun r => add r r) (add q) neutral n

/-- A residue x with v x² = u, if there is one. -/
def ratioRoot? (u v : Nat) : Option Nat :=
  let vv := v * v % prime
  let vvv := vv * v % prime
  let x := u * vvv % prime * Modular.pow prime (u * (vvv * vvv % prime * v % prime) % prime) ((prime - 5) / 8) % prime
  let w := v * (x * x % prime) % prime
  if w = u then some x
  else if w = Modular.sub prime 0 u then some (x * rootOfMinusOne % prime)
  else none

/-- The point that 32 octets denote. The coordinate y is below the prime, and x is not a negative zero. -/
def point? (b : Bytes) : Option EdwardsPoint :=
  let n := Bytes.toNatLittle b
  let y := n % (1 <<< 255)
  let odd := n / (1 <<< 255)
  if b.length = 32 ∧ y < prime then
    let yy := y * y % prime
    (ratioRoot? (Modular.sub prime yy 1) ((d * yy + 1) % prime)).bind fun x =>
      if x % 2 = odd then some (ofAffine x y)
      else if x = 0 then none
      else some (ofAffine (prime - x) y)
  else none

/-- A point as octets. -/
def encode (q : EdwardsPoint) : Bytes :=
  let w := Modular.inverse prime q.z
  let x := q.x * w % prime
  let y := q.y * w % prime
  (Bytes.ofNat 32 (y + (x % 2) <<< 255)).reverse

end Edwards

end ArtifactTrust
