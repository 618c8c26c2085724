import LiquidityTrigger.Json.Record

/-!
# Variants

A value of a sum is written under the name of its case: as the bare name when the case holds
nothing, else as an object with that one member. A bare case is also read from an object whose
member is `null`.
-/

namespace LiquidityTrigger.Json

inductive Case (α : Type) where
  | bare (name : String) (value : α)
  | holding (name : String) (read : Reader α)

namespace Case

variable {α : Type}

def name : Case α → String
  | bare name _ => name
  | holding name _ => name

def ofCodec {β : Type} (name : String) (c : Codec β) (make : β → α) : Case α :=
  holding name fun cs => do
    let (b, rest) ← c.read cs
    return (make b, rest)

def ofFields {ts : List Type} (name : String) (fields : Fields ts) (make : Row ts → α) : Case α :=
  holding name fun cs => do
    let (row, rest) ← fields.read ("what " ++ name ++ " holds") cs
    return (make row, rest)

def readHeld : Case α → Reader α
  | bare _ value => fun cs => do
      let (_, rest) ← readNull cs
      return (value, rest)
  | holding _ read => read

/-- Reads a value from its bare name or from an object of one member. -/
def read (cases : List (Case α)) : Reader α := fun cs =>
  let find (name : String) : Except Fault (Case α) :=
    match cases.find? (·.name = name) with
    | some c => .ok c
    | none => .error (.unknownVariant name)
  match skipBlank cs with
  | [] => .error .endInValue
  | '"' :: rest => do
      let (name, rest) ← readText rest
      match ← find name with
      | bare _ value => return (value, rest)
      | holding _ _ => throw (.invalidType (.text name) "a variant that holds a value")
  | '\x7b' :: rest => do
      let (name, rest) ← readString rest
      let c ← find name
      let (a, rest) ← c.readHeld (← readColon rest)
      match skipBlank rest with
      | [] => throw .endInObject
      | '\x7d' :: rest => return (a, rest)
      | _ => throw .wantedValue
  | _ => .error .wantedValue

end Case

def Value.ofCase (name : String) (held : Value) : Value := .object [(name, held)]

end LiquidityTrigger.Json
