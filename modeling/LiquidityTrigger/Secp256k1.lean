import LiquidityTrigger.Bytes

/-!
# Public key recovery on secp256k1

The curve `y ^ 2 = x ^ 3 + 7` over the field of `fieldOrder` elements, with its generator of order
`groupOrder`. Sums are computed in Jacobian coordinates, `(x, y, z)` standing for the affine point
`(x / z ^ 2, y / z ^ 3)` and `z = 0` for the point at infinity, so that one inversion per recovery
is enough.
-/

namespace LiquidityTrigger.Secp256k1

def fieldOrder : Nat := 2 ^ 256 - 2 ^ 32 - 977

def groupOrder : Nat := 0xFFFFFFFFFFFFFFFFFFFFFFFFFFFFFFFEBAAEDCE6AF48A03BBFD25E8CD0364141

/-- Half the group order, rounded down; the greater `s` of a signature and its twin is above it. -/
def halfOrder : Nat := groupOrder / 2

/-- `base ^ exponent` modulo `modulus`, reading `bits` bits of the exponent. -/
def powMod (modulus : Nat) : Nat → Nat → Nat → Nat
  | 0, _, _ => 1
  | bits + 1, base, exponent =>
      let rest := powMod modulus bits (base * base % modulus) (exponent / 2)
      if exponent % 2 = 1 then rest * base % modulus else rest

def inverseMod (modulus a : Nat) : Nat := powMod modulus 256 a (modulus - 2)

def add (a b : Nat) : Nat := (a + b) % fieldOrder

def sub (a b : Nat) : Nat := (a + (fieldOrder - b % fieldOrder)) % fieldOrder

def mul (a b : Nat) : Nat := a * b % fieldOrder

/-- A point of the curve other than the one at infinity. -/
structure Point where
  x : Nat
  y : Nat
  deriving DecidableEq, Repr

def generator : Point where
  x := 0x79BE667EF9DCBBAC55A06295CE870B07029BFCDB2DCE28D959F2815B16F81798
  y := 0x483ADA7726A3C4655DA4FBFC0E1108A8FD17B448A68554199C47D08FFB10D4B8

/-- A point in Jacobian coordinates; `z = 0` is the point at infinity. -/
structure Jacobian where
  x : Nat
  y : Nat
  z : Nat

namespace Jacobian

def infinity : Jacobian := ⟨1, 1, 0⟩

def ofPoint (p : Point) : Jacobian := ⟨p.x, p.y, 1⟩

def toPoint? (p : Jacobian) : Option Point :=
  if p.z = 0 then none
  else
    let inverse := inverseMod fieldOrder p.z
    let square := mul inverse inverse
    some ⟨mul p.x square, mul p.y (mul square inverse)⟩

def double (p : Jacobian) : Jacobian :=
  if p.z = 0 ∨ p.y = 0 then infinity
  else
    let yy := mul p.y p.y
    let s := mul 4 (mul p.x yy)
    let m := mul 3 (mul p.x p.x)
    let x := sub (mul m m) (mul 2 s)
    ⟨x, sub (mul m (sub s x)) (mul 8 (mul yy yy)), mul 2 (mul p.y p.z)⟩

def add (p q : Jacobian) : Jacobian :=
  if p.z = 0 then q
  else if q.z = 0 then p
  else
    let pz := mul p.z p.z
    let qz := mul q.z q.z
    let u := mul p.x qz
    let u' := mul q.x pz
    let s := mul p.y (mul qz q.z)
    let s' := mul q.y (mul pz p.z)
    if u = u' then if s = s' then double p else infinity
    else
      let h := sub u' u
      let r := sub s' s
      let hh := mul h h
      let hhh := mul hh h
      let v := mul u hh
      let x := sub (sub (mul r r) hhh) (mul 2 v)
      ⟨x, sub (mul r (sub v x)) (mul s hhh), mul h (mul p.z q.z)⟩

def multiply : Nat → Nat → Jacobian → Jacobian
  | 0, _, _ => infinity
  | bits + 1, k, p =>
      let rest := multiply bits (k / 2) (double p)
      if k % 2 = 1 then add rest p else rest

end Jacobian

/-- The point with the given first coordinate whose second one is odd or even, if there is one. -/
def pointAt? (x : Nat) (odd : Bool) : Option Point :=
  let square := add (mul x (mul x x)) 7
  let root := powMod fieldOrder 256 square ((fieldOrder + 1) / 4)
  if mul root root ≠ square then none
  else if (root % 2 = 1) = odd then some ⟨x, root⟩
  else some ⟨x, (fieldOrder - root) % fieldOrder⟩

/-- The public key under which `(r, s)` is a signature of the message hash, where the second
coordinate of the hidden point has the given parity. -/
def recover (hash r s : Nat) (odd : Bool) : Option Point :=
  if r = 0 ∨ s = 0 ∨ groupOrder ≤ r ∨ groupOrder ≤ s then none
  else do
    let hidden ← pointAt? r odd
    let inverse := inverseMod groupOrder r
    let u := (groupOrder - hash % groupOrder * inverse % groupOrder) % groupOrder
    let v := s * inverse % groupOrder
    ((Jacobian.multiply 256 u (.ofPoint generator)).add
      (Jacobian.multiply 256 v (.ofPoint hidden))).toPoint?

end LiquidityTrigger.Secp256k1
