import LiquidityTrigger.Word

/-!
# Hexadecimal text

Writing uses lower-case digits; reading takes either case. A byte is always two digits, so byte
strings read back exactly what was written. The marker `0x` is removed at most once.
-/

namespace LiquidityTrigger.Hex

def digitValue? (c : Char) : Option Nat :=
  if '0' ≤ c ∧ c ≤ '9' then some (c.toNat - '0'.toNat)
  else if 'a' ≤ c ∧ c ≤ 'f' then some (c.toNat - 'a'.toNat + 10)
  else if 'A' ≤ c ∧ c ≤ 'F' then some (c.toNat - 'A'.toNat + 10)
  else none

def digit (n : Nat) : Char := Nat.digitChar n

def ofByte (b : UInt8) : List Char := [digit (b.toNat / 16), digit (b.toNat % 16)]

def ofBytes (bytes : Bytes) : List Char := bytes.flatMap ofByte

/-- The bytes that pairs of digits spell; `none` on an odd digit or another character. -/
def toBytes? : List Char → Option Bytes
  | [] => some []
  | [_] => none
  | hi :: lo :: rest => do
      let h ← digitValue? hi
      let l ← digitValue? lo
      let bytes ← toBytes? rest
      return UInt8.ofNat (h * 16 + l) :: bytes

def toNat? (cs : List Char) : Option Nat :=
  cs.foldl (fun n? c => do return (← n?) * 16 + (← digitValue? c)) (some 0)

/-- A number in as few digits as it needs; zero is one digit. -/
def ofNat (n : Nat) : List Char := Nat.toDigits 16 n

/-- A text less one leading `0x`, if it has one. -/
def stripMarker : List Char → List Char
  | '0' :: 'x' :: rest => rest
  | cs => cs

def marked (cs : List Char) : String := String.ofList ('0' :: 'x' :: cs)

end LiquidityTrigger.Hex

namespace LiquidityTrigger

def Bytes.hex (bytes : Bytes) : String := Hex.marked (Hex.ofBytes bytes)

def Address.hex (a : Address) : String := Bytes.hex a.toBytes

def Digest.hex (d : Digest) : String := Bytes.hex d.toBytes

def Word.hex (w : Word) : String := Hex.marked (Hex.ofNat w.toNat)

/-- The address that a text names: at most one `0x`, then exactly 40 hexadecimal digits. -/
def Address.ofText? (text : String) : Option Address := do
  let cs := Hex.stripMarker text.toList
  if cs.length = 40 then
    let bytes ← Hex.toBytes? cs
    return Address.ofBytes bytes
  else none

end LiquidityTrigger
