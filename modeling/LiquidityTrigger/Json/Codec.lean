import LiquidityTrigger.Json.Scan

/-!
# Codecs

A codec writes the values of a type as JSON values and reads them from a JSON text. Reading goes
along the text, so of two faults the one that stands first is reported. The codecs of atoms are
here; those of records and of variants are built from them.
-/

namespace LiquidityTrigger.Json

structure Codec (α : Type) where
  write : α → Value
  read : Reader α

def readString : Reader String := fun cs =>
  match skipBlank cs with
  | [] => .error .endInValue
  | '"' :: rest => readText rest
  | rest => .error (mismatch "a string" rest)

/-- Reads a counter of 64 bits below a bound that has a name. -/
def readCounter (wanted : String) (bound : Nat) : Reader Nat := fun cs => do
  let check (read : Except Fault (Number × List Char)) : Except Fault (Nat × List Char) := do
    let (n, rest) ← read
    match n with
    | .counter n =>
        if n.toNat < bound then return (n.toNat, rest)
        else throw (.invalidValue (.number (.counter n)) wanted)
    | .negative magnitude => throw (.invalidValue (.number (.negative magnitude)) wanted)
    | .double bits => throw (.invalidType (.number (.double bits)) wanted)
  match skipBlank cs with
  | [] => throw .endInValue
  | '-' :: rest => check (readNumber true rest)
  | c :: rest =>
      if Decimal.isDigit c then check (readNumber false (c :: rest))
      else throw (mismatch wanted (c :: rest))

def readNull : Reader Unit := fun cs =>
  match skipBlank cs with
  | [] => .error .endInValue
  | 'n' :: rest => do return ((), ← readLiteral "ull".toList rest)
  | rest => .error (mismatch "unit" rest)

/-- Whether a list goes on: the text of its next element, or `none` in front of its bracket. -/
def nextElement (first : Bool) (cs : List Char) : Except Fault (Option (List Char)) :=
  match skipBlank cs with
  | [] => .error .endInList
  | ']' :: _ => .ok none
  | c :: rest =>
      if first then .ok (some (c :: rest))
      else if c = ',' then
        match skipBlank rest with
        | [] => .error .endInValue
        | ']' :: _ => .error .trailingComma
        | next => .ok (some next)
      else .error .wantedCommaOrBracket

/-- Reads a list behind its bracket, up to the closing one. The first argument bounds the number of
elements, the second one says whether the next element is the first. -/
def readElements {α : Type} (element : Reader α) : Nat → Bool → Reader (List α)
  | 0, _, _ => .error .endInList
  | bound + 1, first, cs => do
      match ← nextElement first cs with
      | none => return ([], cs)
      | some start =>
          let (a, rest) ← element start
          let (as, rest) ← readElements element bound false rest
          return (a :: as, rest)

def readListEnd (cs : List Char) : Except Fault (List Char) :=
  match skipBlank cs with
  | [] => .error .endInList
  | ']' :: rest => .ok rest
  | ',' :: rest =>
      if (skipBlank rest).head? = some ']' then .error .trailingComma
      else .error .trailingCharacters
  | _ => .error .trailingCharacters

def readList {α : Type} (wanted : String) (element : Reader α) : Reader (List α) := fun cs =>
  match skipBlank cs with
  | [] => .error .endInValue
  | '[' :: rest => do
      let (as, rest) ← readElements element (rest.length + 1) true rest
      return (as, ← readListEnd rest)
  | rest => .error (mismatch wanted rest)

namespace Codec

def text : Codec String := ⟨.text, readString⟩

def counter : Codec UInt64 where
  write := .counter
  read := fun cs => do
    let (n, rest) ← readCounter "u64" (2 ^ 64) cs
    return (UInt64.ofNat n, rest)

def byte : Codec UInt8 where
  write := fun b => .counter (UInt64.ofNat b.toNat)
  read := fun cs => do
    let (n, rest) ← readCounter "u8" 256 cs
    return (UInt8.ofNat n, rest)

def bytes : Codec Bytes where
  write := fun bs => .array (bs.map byte.write)
  read := readList "a sequence" byte.read

def optional {α : Type} (c : Codec α) : Codec (Option α) where
  write := fun a? => a?.elim .null c.write
  read := fun cs =>
    match skipBlank cs with
    | 'n' :: rest => do return (none, ← readLiteral "ull".toList rest)
    | rest => do
        let (a, rest) ← c.read rest
        return (some a, rest)

def ofText {α : Type} (wanted : String) (toText : α → String) (ofText? : String → Option α) :
    Codec α where
  write := fun a => .text (toText a)
  read := fun cs => do
    let (s, rest) ← readString cs
    match ofText? s with
    | some a => return (a, rest)
    | none => throw (.invalidValue (.text s) wanted)

end Codec

def Codec.parse {α : Type} (c : Codec α) (text : String) : Except Fault α := do
  let (a, rest) ← c.read text.toList
  if (skipBlank rest).isEmpty then return a else throw .trailingCharacters

def Codec.compact {α : Type} (c : Codec α) (a : α) : String := (c.write a).compact

def Codec.pretty {α : Type} (c : Codec α) (a : α) : String := (c.write a).pretty

end LiquidityTrigger.Json
