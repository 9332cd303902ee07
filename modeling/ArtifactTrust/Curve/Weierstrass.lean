import ArtifactTrust.Bytes
import ArtifactTrust.Number.Modular

/-!
# The curves P-256 and P-384

The points of the curve y² = x³ - 3x + b over a prime field of 3 modulo 4 form a group of prime order. Points are
computed with in coordinates (X : Y : Z), which stand for x = X / Z² and y = Y / Z³; Z is zero at the neutral point.
`Curve.point?` reads a point in uncompressed or compressed form.
-/

namespace ArtifactTrust

/-- A curve: the prime, the constant b, the base point and its order, and the number of octets of a coordinate. -/
structure Curve where
  prime : Nat
  b : Nat
  baseX : Nat
  baseY : Nat
  order : Nat
  width : Nat
  deriving DecidableEq, Repr

/-- A point as (X : Y : Z). -/
structure CurvePoint where
  x : Nat
  y : Nat
  z : Nat
  deriving DecidableEq, Repr

namespace Curve

/-- P-256. -/
def p256 : Curve where
  prime := 0xffffffff00000001000000000000000000000000ffffffffffffffffffffffff
  b := 0x5ac635d8aa3a93e7b3ebbd55769886bc651d06b0cc53b0f63bce3c3e27d2604b
  baseX := 0x6b17d1f2e12c4247f8bce6e563a440f277037d812deb33a0f4a13945d898c296
  baseY := 0x4fe342e2fe1a7f9b8ee7eb4a7c0f9e162bce33576b315ececbb6406837bf51f5
  order := 0xffffffff00000000ffffffffffffffffbce6faada7179e84f3b9cac2fc632551
  width := 32

/-- P-384. -/
def p384 : Curve where
  prime := 0xfffffffffffffffffffffffffffffffffffffffffffffffffffffffffffffffeffffffff0000000000000000ffffffff
  b := 0xb3312fa7e23ee7e4988e056be3f82d19181d9c6efe8141120314088f5013875ac656398d8a2ed19d2a85c8edd3ec2aef
  baseX := 0xaa87ca22be8b05378eb1c71ef320ad746e1d3b628ba79b9859f741e082542a385502f25dbf55296c3a545e3872760ab7
  baseY := 0x3617de4a96262c6f5d9e98bf9292dc29f8f41dbd289a147ce9da3113b5f0b8c00a60b1ce1d7e819d7a431d7c90ea0e5f
  order := 0xffffffffffffffffffffffffffffffffffffffffffffffffc7634d81f4372ddf581a0db248b0a77aecec196accc52973
  width := 48

/-- The neutral point. -/
def neutral : CurvePoint := ⟨1, 1, 0⟩

/-- The base point. -/
def base (c : Curve) : CurvePoint := ⟨c.baseX, c.baseY, 1⟩

/-- The right side of the equation of the curve. -/
def rightSide (c : Curve) (x : Nat) : Nat := Modular.sub c.prime (x * x % c.prime * x + c.b) (3 * x % c.prime)

/-- Twice a point. -/
def double (c : Curve) (q : CurvePoint) : CurvePoint :=
  let p := c.prime
  let zz := q.z * q.z % p
  let yy := q.y * q.y % p
  let s := q.x * yy % p
  let slope := 3 * (Modular.sub p q.x zz * (q.x + zz)) % p
  let x := Modular.sub p (slope * slope) (8 * s % p)
  { x
    y := Modular.sub p (slope * Modular.sub p (4 * s) x) (8 * (yy * yy) % p)
    z := 2 * (q.y * q.z) % p }

/-- The sum of two points. -/
def add (c : Curve) (q r : CurvePoint) : CurvePoint :=
  if q.z = 0 then r
  else if r.z = 0 then q
  else
    let p := c.prime
    let zz := q.z * q.z % p
    let ww := r.z * r.z % p
    let u := q.x * ww % p
    let v := r.x * zz % p
    let s := q.y * (ww * r.z % p) % p
    let t := r.y * (zz * q.z % p) % p
    if u = v then if s = t then c.double q else neutral
    else
      let h := Modular.sub p v u
      let hh := h * h % p
      let hhh := hh * h % p
      let m := Modular.sub p t s
      let w := u * hh % p
      let x := Modular.sub p (m * m) ((hhh + 2 * w) % p)
      { x
        y := Modular.sub p (m * Modular.sub p w x) (s * hhh % p)
        z := q.z * r.z % p * h % p }

/-- A multiple of a point. -/
def multiple (c : Curve) (n : Nat) (q : CurvePoint) : CurvePoint := ladder c.double (c.add q) neutral n

/-- The coordinate x of a point, which the neutral point does not have. -/
def x? (c : Curve) (q : CurvePoint) : Option Nat :=
  if q.z = 0 then none
  else
    let w := Modular.inverse c.prime q.z
    some (q.x * (w * w % c.prime) % c.prime)

/-- The point that octets denote: 4 and both coordinates, or 2 or 3 and the first one, where the second is even or odd. Each
coordinate is below the prime. -/
def point? (c : Curve) : Bytes → Option CurvePoint
  | [] => none
  | form :: rest =>
    let x := Bytes.toNat (rest.take c.width)
    let y := Bytes.toNat (rest.drop c.width)
    if form = 4 then
      if rest.length = 2 * c.width ∧ x < c.prime ∧ y < c.prime ∧ y * y % c.prime = c.rightSide x then some ⟨x, y, 1⟩
      else none
    else if form = 2 ∨ form = 3 then
      if rest.length = c.width ∧ x < c.prime then
        (Modular.root? c.prime (c.rightSide x)).map fun y =>
          if y % 2 = form.toNat % 2 then ⟨x, y, 1⟩ else ⟨x, c.prime - y, 1⟩
      else none
    else none

end Curve

end ArtifactTrust
