import LiquidityTrigger.Bytes

/-!
# Recursive length encoding

A byte string below `0x80` of length one stands for itself; every other item has a header with its
length, in one byte up to 55 and with the length's own bytes behind it above. Numbers are written
without leading zeros, so zero is the empty string.

Reading starts from `extent`, which reads the header of the item in front of a byte string, and the rest
is walking: `skip` passes over items, `item` cuts one out, `countItems` counts them up to the first that
cannot be read. Items of a list can be read in two ways. `inside` sees only the payload that the list's
header announces. `onward` sees all bytes behind the header, so an item may also lie behind the announced
end. The number of items of a list is counted onward from a first item that lies inside.
-/

namespace LiquidityTrigger.Rlp

def greatestShort : Nat := 55

/-- The header of a payload. The base is `0x80` for strings and `0xC0` for lists; a long header has
its own base 55 above. -/
def header (base length : Nat) : Bytes :=
  if length ≤ greatestShort then [UInt8.ofNat (base + length)]
  else
    UInt8.ofNat (base + greatestShort + (Bytes.ofNatMinimal length).length)
      :: Bytes.ofNatMinimal length

def isPlain : Bytes → Bool
  | [b] => b < 0x80
  | _ => false

def encodeBytes (bytes : Bytes) : Bytes :=
  if isPlain bytes then bytes else header 0x80 bytes.length ++ bytes

def encodeNat (n : Nat) : Bytes := encodeBytes (Bytes.ofNatMinimal n)

def encodeList (items : List Bytes) : Bytes := header 0xC0 items.flatten.length ++ items.flatten

/-! ### Reading -/

inductive ReadFault where
  | isTooShort
  | isTooBig
  | expectedToBeData
  | invalidIndirection
  | dataLenWithZeroPrefix
  deriving DecidableEq, Repr

def ReadFault.name : ReadFault → String
  | .isTooShort => "RlpIsTooShort"
  | .isTooBig => "RlpIsTooBig"
  | .expectedToBeData => "RlpExpectedToBeData"
  | .invalidIndirection => "RlpInvalidIndirection"
  | .dataLenWithZeroPrefix => "RlpDataLenWithZeroPrefix"

/-- The lengths of an item's header and payload. A plain byte has no header. -/
structure Extent where
  header : Nat
  payload : Nat
  deriving DecidableEq, Repr

def Extent.total (e : Extent) : Nat := e.header + e.payload

/-- A header whose length stands in the given number of bytes behind its first one. The length must
have no leading zero and must not fit the short form. -/
def longHeader (lengthWidth : Nat) (rest : Bytes) : Except ReadFault Extent :=
  match rest with
  | [] => .error .isTooShort
  | next :: _ =>
      if next = 0 then .error .dataLenWithZeroPrefix
      else if rest.length < lengthWidth then .error .isTooShort
      else
        let payload := Bytes.toNat (rest.take lengthWidth)
        if payload ≤ 55 then .error .invalidIndirection
        else .ok ⟨1 + lengthWidth, payload⟩

/-- The header in front of a byte string, whether or not its payload is there. -/
def readHeader : Bytes → Except ReadFault Extent
  | [] => .error .isTooShort
  | first :: rest =>
      let n := first.toNat
      if n ≤ 0x7F then .ok ⟨0, 1⟩
      else if n ≤ 0xB7 then .ok ⟨1, n - 0x80⟩
      else if n ≤ 0xBF then longHeader (n - 0xB7) rest
      else if n ≤ 0xF7 then .ok ⟨1, n - 0xC0⟩
      else longHeader (n - 0xF7) rest

/-- The extent of the item in front of a byte string that holds all of it. -/
def extent (bytes : Bytes) : Except ReadFault Extent := do
  let e ← readHeader bytes
  if e.total ≤ bytes.length then return e else throw .isTooShort

def skip : Nat → Bytes → Except ReadFault Bytes
  | 0, bytes => .ok bytes
  | count + 1, bytes => do
      let e ← extent bytes
      skip count (bytes.drop e.total)

def item (index : Nat) (bytes : Bytes) : Except ReadFault Bytes := do
  let rest ← skip index bytes
  let e ← extent rest
  return rest.take e.total

/-- How many items follow one another; the first argument bounds the count. -/
def countItems : Nat → Bytes → Nat
  | 0, _ => 0
  | bound + 1, bytes =>
      match extent bytes with
      | .ok e => countItems bound (bytes.drop e.total) + 1
      | .error _ => 0

def isList : Bytes → Bool
  | [] => false
  | first :: _ => 0xC0 ≤ first

/-- Whether an item is an empty string or an empty list, by its first byte. -/
def isEmptyItem : Bytes → Bool
  | [] => false
  | first :: _ => first = 0x80 || first = 0xC0

/-- The payload that a list's header announces. -/
def inside (list : Bytes) : Except ReadFault Bytes := do
  let e ← extent list
  return (list.drop e.header).take e.payload

/-- All bytes behind a list's header. -/
def onward (list : Bytes) : Except ReadFault Bytes := do
  let e ← extent list
  return list.drop e.header

/-- The number of items of a list: none unless the first one lies inside it, and then all that
follow one another onward. -/
def itemCount (list : Bytes) : Nat :=
  match inside list >>= item 0, onward list with
  | .ok _, .ok bytes => countItems bytes.length bytes
  | _, _ => 0

/-- The content of a string item. A single byte below `0x80` must stand for itself. -/
def readBytes : Bytes → Except ReadFault Bytes
  | [] => .error .isTooShort
  | first :: rest => do
      if first < 0x80 then return [first]
      else if 0xC0 ≤ first then throw .expectedToBeData
      else
        let e ← extent (first :: rest)
        let content := ((first :: rest).drop e.header).take e.payload
        match first, content with
        | 0x81, [b] => if b < 0x80 then throw .invalidIndirection else return content
        | _, _ => return content

/-- A number of at most the given number of bytes, without leading zeros. -/
def readNat (width : Nat) (bytes : Bytes) : Except ReadFault Nat := do
  let content ← readBytes bytes
  if content.head? = some 0 then throw .invalidIndirection
  else if width < content.length then throw .isTooBig
  else return Bytes.toNat content

/-- A number that is kept in eight bytes: too many bytes are noticed before a leading zero. -/
def readCounter (bytes : Bytes) : Except ReadFault UInt64 := do
  let content ← readBytes bytes
  if 8 < content.length then throw .isTooBig
  else if content.head? = some 0 then throw .invalidIndirection
  else return UInt64.ofNat (Bytes.toNat content)

def readExact (width : Nat) (bytes : Bytes) : Except ReadFault Bytes := do
  let content ← readBytes bytes
  if content.length < width then throw .isTooShort
  else if width < content.length then throw .isTooBig
  else return content

end LiquidityTrigger.Rlp
