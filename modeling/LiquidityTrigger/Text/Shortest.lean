import LiquidityTrigger.Bytes
import LiquidityTrigger.Text.Numeral

/-!
# Shortest decimal text of a double

A finite double is `significand * 2 ^ exponent`. Among the decimals that round to it we take one
with the fewest digits and, of those, the nearest to it. `shortest` looks at the grids of one, two,
... seventeen digits in turn: on each grid only the two neighbours of the value can be the nearest,
so testing those two against the interval of reals that round to the double is enough.

The layout is a record, `Layout`, beside the digits: when to write an exponent, and how.
-/

namespace LiquidityTrigger.Shortest

/-- A positive double as an exact number `significand * 2 ^ (power - 1076)`. -/
structure Binary where
  significand : Nat
  power : Nat

def Binary.ofBits (bits : UInt64) : Binary :=
  let n := bits.toNat
  let biased := n / 2 ^ 52 % 2048
  let fraction := n % 2 ^ 52
  if biased = 0 then ⟨fraction, 2⟩ else ⟨2 ^ 52 + fraction, biased + 1⟩

structure Scientific where
  digits : Nat
  exponent : Int
  deriving DecidableEq, Repr

/-- The interval of reals that round to a double, over a common denominator. -/
structure Interval where
  low : Nat
  middle : Nat
  high : Nat
  denominator : Nat
  closed : Bool

/-- How many quarters of a step below a double still round to it: two, or one where the spacing
changes. -/
def Binary.quartersBelow (b : Binary) : Nat :=
  if b.significand = 2 ^ 52 ∧ 2 < b.power then 1 else 2

/-- The interval of a double: half a step to each side, less where the spacing changes. Its ends
belong to it when the significand is even. -/
def Binary.interval (b : Binary) : Interval where
  low := (4 * b.significand - b.quartersBelow) * 2 ^ (b.power - 2)
  middle := 4 * b.significand * 2 ^ (b.power - 2)
  high := (4 * b.significand + 2) * 2 ^ (b.power - 2)
  denominator := 2 ^ 1076
  closed := b.significand % 2 = 0

/-- Whether `n * unit` lies in the interval, where the unit is `up / down`. -/
def Interval.holds (i : Interval) (up down n : Nat) : Bool :=
  let x := n * up * i.denominator
  if i.closed then i.low * down ≤ x && x ≤ i.high * down
  else i.low * down < x && x < i.high * down

/-- The least `j`, counted up from the given one, with `den ≤ num * 10 ^ j`; the first argument
bounds the search. -/
def placesBelowOne (num den : Nat) : Nat → Nat → Nat
  | 0, j => j
  | fuel + 1, j => if den ≤ num * 10 ^ j then j else placesBelowOne num den fuel (j + 1)

/-- The decimal exponent of a positive ratio: the greatest `e` with `10 ^ e ≤ num / den`. No double
is below `10 ^ -400`. -/
def decimalExponent (num den : Nat) : Int :=
  if den ≤ num then ((Decimal.digits (num / den)).length : Int) - 1
  else -(placesBelowOne num den 400 1 : Int)

/-- The decimal of `count` digits nearest to the middle of the interval, if one lies in it. -/
def onGrid (i : Interval) (exponent : Int) (count : Nat) : Option Scientific :=
  let place := exponent - count + 1
  let up := 10 ^ place.toNat
  let down := 10 ^ (-place).toNat
  let below := i.middle * down / (i.denominator * up)
  let above := below + 1
  let hasBelow := i.holds up down below
  let hasAbove := i.holds up down above
  if hasBelow && hasAbove then
    let toBelow := i.middle * down - below * up * i.denominator
    let toAbove := above * up * i.denominator - i.middle * down
    if toBelow < toAbove ∨ (toBelow = toAbove ∧ below % 2 = 0) then some ⟨below, place⟩
    else some ⟨above, place⟩
  else if hasBelow then some ⟨below, place⟩
  else if hasAbove then some ⟨above, place⟩
  else none

def dropZeros : Nat → Scientific → Scientific
  | 0, s => s
  | fuel + 1, s =>
      if s.digits ≠ 0 ∧ s.digits % 10 = 0 then dropZeros fuel ⟨s.digits / 10, s.exponent + 1⟩ else s

def shortest (b : Binary) : Scientific :=
  let i := b.interval
  let exponent := decimalExponent i.middle i.denominator
  match ((List.range 17).map (· + 1)).findSome? (onGrid i exponent) with
  | some s => dropZeros 20 s
  | none => ⟨0, 0⟩

structure Layout where
  /-- The least decimal exponent written without an exponent. -/
  leastPlain : Int
  /-- The greatest decimal exponent written without an exponent. -/
  greatestPlain : Int

/-- Lays a decimal out. A plain number always has a point with a digit behind it, and a written
exponent always has a sign. -/
def Layout.render (l : Layout) (s : Scientific) : List Char :=
  let ds := Decimal.digits s.digits
  let top := s.exponent + ds.length - 1
  if l.leastPlain ≤ top ∧ top ≤ l.greatestPlain then
    if 0 ≤ s.exponent then ds ++ List.replicate s.exponent.toNat '0' ++ ['.', '0']
    else if 0 ≤ top then ds.take (top.toNat + 1) ++ ['.'] ++ ds.drop (top.toNat + 1)
    else ['0', '.'] ++ List.replicate (-top - 1).toNat '0' ++ ds
  else
    let mantissa := if ds.length = 1 then ds else ds.take 1 ++ ['.'] ++ ds.drop 1
    let sign := if top < 0 then '-' else '+'
    mantissa ++ ['e', sign] ++ Decimal.digits top.natAbs

/-- The text of a finite double in a layout; a zero keeps its sign. -/
def Layout.float (l : Layout) (x : Float) : String :=
  let bits := x.toBits
  let sign := if bits.toNat / 2 ^ 63 = 1 then ['-'] else []
  let b := Binary.ofBits bits
  let body := if b.significand = 0 then ['0', '.', '0'] else l.render (shortest b)
  String.ofList (sign ++ body)

end LiquidityTrigger.Shortest
