import LiquidityTrigger.Json.Record

/-!
# Reading any value

Reads a value of whatever form into a `Value`, to a limited depth. Members keep their order, and a
key that is given twice stands twice.
-/

namespace LiquidityTrigger.Json

/-- Reads an object's members behind its brace. The first argument bounds their number, the second
one says whether the next member is the first. -/
def readMembers {α : Type} (value : Reader α) : Nat → Bool → Reader (List (String × α))
  | 0, _, _ => .error .endInObject
  | bound + 1, first, cs => do
      match ← nextKey first cs with
      | .inr rest => return ([], rest)
      | .inl rest =>
          let (key, rest) ← readText rest
          let (a, rest) ← value (← readColon rest)
          let (members, rest) ← readMembers value bound false rest
          return ((key, a) :: members, rest)

/-- Reads a value in which fewer than the given number of lists and objects are nested. -/
def readValue : Nat → Reader Value
  | 0, _ => .error .tooDeep
  | depth + 1, cs =>
      match skipBlank cs with
      | [] => .error .endInValue
      | 'n' :: rest => do return (.null, ← readLiteral "ull".toList rest)
      | 't' :: rest => do return (.boolean true, ← readLiteral "rue".toList rest)
      | 'f' :: rest => do return (.boolean false, ← readLiteral "alse".toList rest)
      | '"' :: rest => do
          let (s, rest) ← readText rest
          return (.text s, rest)
      | '-' :: rest => do
          let (n, rest) ← readNumber true rest
          return (.number n, rest)
      | '[' :: rest => do
          if depth = 0 then throw .tooDeep
          let (elements, rest) ← readElements (readValue depth) (rest.length + 1) true rest
          return (.array elements, ← readListEnd rest)
      | '\x7b' :: rest => do
          if depth = 0 then throw .tooDeep
          let (members, rest) ← readMembers (readValue depth) (rest.length + 1) true rest
          return (.object members, rest)
      | c :: rest =>
          if Decimal.isDigit c then do
            let (n, rest) ← readNumber false (c :: rest)
            return (.number n, rest)
          else .error .wantedValue

def Value.parse (depth : Nat) (text : String) : Except Fault Value := do
  let (v, rest) ← readValue depth text.toList
  if (skipBlank rest).isEmpty then return v else throw .trailingCharacters

def Value.member? (v : Value) (name : String) : Option Value :=
  match v with
  | .object members => members.lookup name
  | _ => none

end LiquidityTrigger.Json
