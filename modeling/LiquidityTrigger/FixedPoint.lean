import LiquidityTrigger.Word
import LiquidityTrigger.Text.Numeral

/-!
# Fixed-point text of amounts

An amount is a whole number of the smallest unit; `formatUnits` writes it in units of `10 ^ decimals`
with `places` digits behind the point. With fewer places than decimals the last place is rounded, a
half upwards; the sum that rounds is capped at the greatest word. Powers of ten and products that do
not fit a word are an `Overflow`.

`formatEther` is the case of 18 decimals and four places, which cannot overflow.
-/

namespace LiquidityTrigger

inductive Overflow where
  | overflow
  deriving DecidableEq, Repr

def Overflow.message : Overflow → String
  | .overflow => "arithmetic operation overflow"

namespace FixedPoint

def greatestExponent : Nat := 77

def greatestWord : Nat := 2 ^ 256 - 1

/-- The text of `n / 10 ^ places`, with exactly that many places and no point when there are none. -/
def text (places n : Nat) : String :=
  let whole := Decimal.digits (n / 10 ^ places)
  if places = 0 then String.ofList whole
  else String.ofList
    (whole ++ ['.'] ++ Decimal.padLeft places (Decimal.digits (n % 10 ^ places)))

/-- An amount in steps, a half step upwards; the sum that rounds stops at the greatest word. -/
def roundToStep (amount : Word) (step : Nat) : Nat :=
  min (amount.toNat + step / 2) greatestWord / step

end FixedPoint

open FixedPoint

/-- An amount in units of `10 ^ decimals` with the given number of places. -/
def formatUnits (amount : Word) (decimals places : Nat) : Except Overflow String :=
  if decimals ≤ places then
    let gap := places - decimals
    if greatestExponent < decimals ∨ greatestExponent < gap then .error .overflow
    else if greatestWord < amount.toNat % 10 ^ decimals * 10 ^ gap then .error .overflow
    else .ok (text places (amount.toNat * 10 ^ gap))
  else
    let gap := decimals - places
    if greatestExponent < gap ∨ greatestExponent < places then .error .overflow
    else .ok (text places (roundToStep amount (10 ^ gap)))

/-- An amount of 18 decimals with four places. -/
def formatEther (amount : Word) : String := text 4 (roundToStep amount (10 ^ 14))

end LiquidityTrigger
