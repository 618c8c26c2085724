import LiquidityTrigger.Text.Hex
import LiquidityTrigger.Text.Shortest

/-!
# JSON values

A value keeps the members of an object in order. `compact` writes a value on one line, `pretty`
with one member or element a line, indented by two spaces. Text is written raw but for quotes,
backslashes and control characters.
-/

namespace LiquidityTrigger.Json

/-- A number: a counter of 64 bits, a negative integer by its absolute value, or a double by its
bits. -/
inductive Number where
  | counter (n : UInt64)
  | negative (magnitude : Nat)
  | double (bits : UInt64)
  deriving DecidableEq, Repr

/-- Doubles have a written exponent from `1e16` on and below `1e-5`. -/
def doubleLayout : Shortest.Layout := ⟨-5, 15⟩

def Number.text : Number → String
  | .counter n => Decimal.text n.toNat
  | .negative magnitude => "-" ++ Decimal.text magnitude
  | .double bits => doubleLayout.float (Float.ofBits bits)

inductive Value where
  | null
  | boolean (b : Bool)
  | number (n : Number)
  | text (s : String)
  | array (elements : List Value)
  | object (members : List (String × Value))
  deriving Repr, Inhabited

def Value.counter (n : UInt64) : Value := .number (.counter n)

def escape (c : Char) : List Char :=
  if c = '"' then ['\\', '"']
  else if c = '\\' then ['\\', '\\']
  else if c.toNat = 8 then ['\\', 'b']
  else if c.toNat = 9 then ['\\', 't']
  else if c.toNat = 10 then ['\\', 'n']
  else if c.toNat = 12 then ['\\', 'f']
  else if c.toNat = 13 then ['\\', 'r']
  else if c.toNat < 32 then
    ['\\', 'u', '0', '0', Hex.digit (c.toNat / 16), Hex.digit (c.toNat % 16)]
  else [c]

def quote (s : String) : List Char := '"' :: s.toList.flatMap escape ++ ['"']

structure Style where
  /-- What stands in front of an element or a closing bracket at a depth. -/
  lineBreak : Nat → List Char
  /-- What stands between a key and its value. -/
  colon : List Char

def Style.compact : Style := ⟨fun _ => [], [':']⟩

/-- A line for each element and member, two spaces a level. -/
def Style.pretty : Style := ⟨fun depth => '\n' :: List.replicate (2 * depth) ' ', [':', ' ']⟩

mutual

def Value.render (style : Style) (depth : Nat) : Value → List Char
  | .null => "null".toList
  | .boolean true => "true".toList
  | .boolean false => "false".toList
  | .number n => n.text.toList
  | .text s => quote s
  | .array [] => "[]".toList
  | .array (v :: vs) =>
      '[' :: style.lineBreak (depth + 1) ++ v.render style (depth + 1)
        ++ renderElements style (depth + 1) vs ++ style.lineBreak depth ++ [']']
  | .object [] => ['\x7b', '\x7d']
  | .object ((key, v) :: members) =>
      '\x7b' :: style.lineBreak (depth + 1) ++ quote key ++ style.colon
        ++ v.render style (depth + 1)
        ++ renderMembers style (depth + 1) members ++ style.lineBreak depth ++ ['\x7d']

/-- The elements behind the first one, each behind a comma. -/
def renderElements (style : Style) (depth : Nat) : List Value → List Char
  | [] => []
  | v :: vs =>
      ',' :: style.lineBreak depth ++ v.render style depth ++ renderElements style depth vs

def renderMembers (style : Style) (depth : Nat) : List (String × Value) → List Char
  | [] => []
  | (key, v) :: members =>
      ',' :: style.lineBreak depth ++ quote key ++ style.colon ++ v.render style depth
        ++ renderMembers style depth members

end

def Value.compact (v : Value) : String := String.ofList (v.render .compact 0)

def Value.pretty (v : Value) : String := String.ofList (v.render .pretty 0)

end LiquidityTrigger.Json
