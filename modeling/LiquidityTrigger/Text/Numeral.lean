/-!
# Numerals and white space

Numbers as runs of the ASCII digits `0` to `9`. Writing gives no superfluous zero; reading takes any
number of leading zeros, and the empty run denotes zero. White space is what has the Unicode property
`White_Space`; texts are read without it at their ends.

A duration of whole milliseconds is shown in seconds from one second on, with only the decimals that are
needed, in milliseconds below, and nothing at all in nanoseconds.
-/

namespace LiquidityTrigger.Decimal

def digits (n : Nat) : List Char := Nat.toDigits 10 n

def text (n : Nat) : String := String.ofList (digits n)

/-- Whether a character is one of the ten ASCII digits. -/
def isDigit (c : Char) : Bool := '0' ≤ c && c ≤ '9'

def digitValue (c : Char) : Nat := c.toNat - '0'.toNat

def value (cs : List Char) : Nat := cs.foldl (fun n c => n * 10 + digitValue c) 0

/-- The number that a text of ASCII digits denotes, if there is nothing else in it. -/
def read? (cs : List Char) : Option Nat := if cs.all isDigit then some (value cs) else none

def padLeft (width : Nat) (cs : List Char) : List Char :=
  List.replicate (width - cs.length) '0' ++ cs

@[simp] theorem value_nil : value [] = 0 := rfl

@[simp] theorem value_append_singleton (cs : List Char) (c : Char) :
    value (cs ++ [c]) = value cs * 10 + digitValue c := by
  simp [value, List.foldl_append]

end LiquidityTrigger.Decimal

namespace LiquidityTrigger.Blank

/-- Whether a character has the property `White_Space`. -/
def isBlank (c : Char) : Bool :=
  let n := c.toNat
  (9 ≤ n && n ≤ 13) || n == 0x20 || n == 0x85 || n == 0xA0 || n == 0x1680
    || (0x2000 ≤ n && n ≤ 0x200A) || n == 0x2028 || n == 0x2029 || n == 0x202F || n == 0x205F
    || n == 0x3000

def trimStart (cs : List Char) : List Char := cs.dropWhile isBlank

def trimEnd (cs : List Char) : List Char := (cs.reverse.dropWhile isBlank).reverse

def trim (cs : List Char) : List Char := trimEnd (trimStart cs)

end LiquidityTrigger.Blank

namespace LiquidityTrigger.Duration

/-- The digits behind the point of a number of thousandths, without zeros at the end. -/
def thousandths (ms : Nat) : List Char :=
  ((Decimal.padLeft 3 (Decimal.digits ms)).reverse.dropWhile (· = '0')).reverse

/-- The text of a duration in milliseconds: `0ns`, `7ms`, `1s`, `1.5s`. -/
def text (ms : Nat) : String :=
  if ms = 0 then "0ns"
  else if ms < 1000 then Decimal.text ms ++ "ms"
  else if ms % 1000 = 0 then Decimal.text (ms / 1000) ++ "s"
  else Decimal.text (ms / 1000) ++ "." ++ String.ofList (thousandths (ms % 1000)) ++ "s"

end LiquidityTrigger.Duration
