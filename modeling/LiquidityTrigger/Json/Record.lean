import LiquidityTrigger.Json.Codec
import LiquidityTrigger.Json.Skip

/-!
# Records

A record has named fields of different types. It is written as an object with the fields in order
and read from such an object, in any order and with unknown members passed over, or from a list of
the values in order. A field that is missing may have a value to stand in for it, in an object or at
the end of a list.

`Fields` lists the fields with their types, `Row` holds a value for each, and `Draft` holds the
values that have been read so far.
-/

namespace LiquidityTrigger.Json

structure Field (α : Type) where
  name : String
  codec : Codec α
  /-- The value of a field that an object does not have. -/
  whenMissing : Option α := none
  /-- The value of a field that a list is too short for. -/
  whenShort : Option α := none

inductive Fields : List Type → Type 1 where
  | nil : Fields []
  | cons {α : Type} {ts : List Type} (field : Field α) (rest : Fields ts) : Fields (α :: ts)

def Row : List Type → Type
  | [] => Unit
  | α :: ts => α × Row ts

def Draft : List Type → Type
  | [] => Unit
  | α :: ts => Option α × Draft ts

def readColon (cs : List Char) : Except Fault (List Char) :=
  match skipBlank cs with
  | [] => .error .endInObject
  | ':' :: rest => .ok rest
  | _ => .error .wantedColon

/-- Whether an object goes on: the text behind the opening quote of its next key, or `none` with the
text behind its brace. -/
def nextKey (first : Bool) (cs : List Char) : Except Fault (List Char ⊕ List Char) :=
  match skipBlank cs with
  | [] => .error .endInObject
  | '\x7d' :: rest => .ok (.inr rest)
  | c :: rest =>
      if first then if c = '"' then .ok (.inl rest) else .error .keyNotText
      else if c = ',' then
        match skipBlank rest with
        | [] => .error .endInValue
        | '"' :: rest => .ok (.inl rest)
        | '\x7d' :: _ => .error .trailingComma
        | _ => .error .keyNotText
      else .error .wantedCommaOrBrace

namespace Fields

def empty : {ts : List Type} → Fields ts → Draft ts
  | _, .nil => ()
  | _, .cons _ rest => (none, rest.empty)

def count : {ts : List Type} → Fields ts → Nat
  | _, .nil => 0
  | _, .cons _ rest => rest.count + 1

def members : {ts : List Type} → Fields ts → Row ts → List (String × Value)
  | _, .nil, _ => []
  | _, .cons field rest, (a, row) => (field.name, field.codec.write a) :: rest.members row

/-- Reads what follows a key into the draft, or passes over it when no field has that name. A field
may be given only once. -/
def readMember : {ts : List Type} → Fields ts → String → Draft ts →
    List Char → Except Fault (Draft ts × List Char)
  | _, .nil, _, draft, cs => do return (draft, ← skipValue (← readColon cs))
  | _, .cons field rest, key, (a?, draft), cs => do
      if field.name = key then
        if a?.isSome then throw (.duplicateField key)
        let (a, cs) ← field.codec.read (← readColon cs)
        return ((some a, draft), cs)
      else
        let (draft, cs) ← rest.readMember key draft cs
        return ((a?, draft), cs)

/-- The row of a draft in which every field has been read or has a value to stand in for it. -/
def complete : {ts : List Type} → Fields ts → Draft ts → Except Fault (Row ts)
  | _, .nil, _ => .ok ()
  | _, .cons field rest, (a?, draft) =>
      match a? <|> field.whenMissing with
      | some a => do return (a, ← rest.complete draft)
      | none => .error (.missingField field.name)

/-- Reads an object behind its brace. The first argument bounds the number of members, the second one
says whether the next member is the first. -/
def readObject {ts : List Type} (fields : Fields ts) :
    Nat → Bool → Draft ts → Reader (Row ts)
  | 0, _, _, _ => .error .endInObject
  | bound + 1, first, draft, cs => do
      match ← nextKey first cs with
      | .inr rest => return (← fields.complete draft, rest)
      | .inl rest =>
          let (key, rest) ← readText rest
          let (draft, rest) ← fields.readMember key draft rest
          readObject fields bound false draft rest

/-- Reads a list of the values in order, behind its bracket and up to the closing one. -/
def readRow (wanted : String) : {ts : List Type} → Fields ts → Nat → Reader (Row ts)
  | _, .nil, _, cs => .ok ((), cs)
  | _, .cons field rest, index, cs => do
      match ← nextElement (index = 0) cs with
      | some start =>
          let (a, cs) ← field.codec.read start
          let (row, cs) ← rest.readRow wanted (index + 1) cs
          return ((a, row), cs)
      | none =>
          match field.whenShort with
          | some a =>
              let (row, cs) ← rest.readRow wanted (index + 1) cs
              return ((a, row), cs)
          | none => throw (.invalidLength index wanted)

def size {ts : List Type} (fields : Fields ts) : String :=
  Decimal.text fields.count ++ (if fields.count = 1 then " element" else " elements")

def read {ts : List Type} (fields : Fields ts) (wanted : String) : Reader (Row ts) := fun cs =>
  match skipBlank cs with
  | [] => .error .endInValue
  | '\x7b' :: rest => fields.readObject (rest.length + 1) true fields.empty rest
  | '[' :: rest => do
      let (row, rest) ← fields.readRow (wanted ++ " with " ++ fields.size) 0 rest
      return (row, ← readListEnd rest)
  | rest => .error (mismatch wanted rest)

end Fields

def Codec.record {α : Type} {ts : List Type} (wanted : String) (fields : Fields ts)
    (toRow : α → Row ts) (ofRow : Row ts → α) : Codec α where
  write := fun a => .object (fields.members (toRow a))
  read := fun cs => do
    let (row, rest) ← fields.read wanted cs
    return (ofRow row, rest)

end LiquidityTrigger.Json
