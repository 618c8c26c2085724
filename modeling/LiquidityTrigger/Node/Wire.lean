import LiquidityTrigger.Json.Tree
import LiquidityTrigger.Procedure

/-!
# What is said on the wire

A request is one line of JSON with a method, parameters and an identifier. A response carries the
identifier and either a result or an error object. This module writes requests, reads responses and
takes results apart: a network's identifier is a string, the answer of a contract is marked
hexadecimal text.
-/

namespace LiquidityTrigger.Node

open Json (Value Number)

/-! ### Requests -/

structure Request where
  client : Nat
  id : UInt64
  method : String
  params : Value
  deriving Repr

def Request.text (r : Request) : String :=
  (Value.object
    [("jsonrpc", .text "2.0"), ("method", .text r.method), ("params", r.params),
      ("id", .counter r.id)]).compact

def networkMethod : String := "net_version"

def callMethod : String := "eth_call"

def callParams (call : Call) : Value :=
  .array [.object [("data", .text call.data.hex), ("to", .text call.target.hex)], .text "pending"]

/-! ### Why a response is of no use -/

structure ErrorObject where
  code : Int
  message : String
  data : Option Value
  deriving Repr

inductive ResponseFault where
  | notSent
  | disconnected
  | status (code : Nat)
  | malformed (fault : Json.Fault) (body : String)
  | unknownForm (body : String)
  | refused (error : ErrorObject)
  | wrongResult (detail : String)
  deriving Repr

def codeText (code : Int) : String :=
  if code = -32700 then "ParseError"
  else if code = -32600 then "InvalidRequest"
  else if code = -32601 then "MethodNotFound"
  else if code = -32602 then "InvalidParams"
  else if code = -32603 then "InternalError"
  else "ServerError(" ++ (if code < 0 then "-" else "") ++ Decimal.text code.natAbs ++ ")"

/-- The members of an object by key, the last one of each key. -/
def sortedMembers {α : Type} (members : List (String × α)) : List (String × α) :=
  members.foldl
    (fun sorted (key, a) =>
      sorted.takeWhile (fun m => m.1 < key) ++ (key, a) ::
        (sorted.dropWhile fun m => m.1 < key).dropWhile fun m => m.1 = key) []

mutual

def display : Value → String
  | .null => "Null"
  | .boolean true => "Bool(true)"
  | .boolean false => "Bool(false)"
  | .number n => "Number(" ++ n.text ++ ")"
  | .text s => "String(" ++ Quoted.quote s ++ ")"
  | .array vs => "Array [" ++ ", ".intercalate (showElements vs) ++ "]"
  | .object ms =>
      "Object \x7b" ++
        ", ".intercalate ((sortedMembers (showMembers ms)).map fun (key, shown) =>
          Quoted.quote key ++ ": " ++ shown) ++ "\x7d"

def showElements : List Value → List String
  | [] => []
  | v :: vs => display v :: showElements vs

def showMembers : List (String × Value) → List (String × String)
  | [] => []
  | (key, v) :: ms => (key, display v) :: showMembers ms

end

def ErrorObject.text (e : ErrorObject) : String :=
  "Error \x7b code: " ++ codeText e.code ++ ", message: " ++ Quoted.quote e.message ++ ", data: "
    ++ (e.data.elim "None" fun v => "Some(" ++ display v ++ ")") ++ " \x7d"

def ResponseFault.text : ResponseFault → String
  | .notSent => "failed to send request"
  | .disconnected => "Cannot send request. Internal task finished."
  | .status code => "code " ++ Decimal.text code
  | .malformed fault body => "failed to deserialize response: " ++ fault.text ++ ": " ++ body
  | .unknownForm body =>
      "failed to deserialize response: data did not match any variant of untagged enum Output: "
        ++ body
  | .refused error => "RPC error: " ++ error.text
  | .wrongResult detail =>
      "Decoder error: Error(" ++ Quoted.quote detail ++ ", line: 0, column: 0)"

/-! ### Responses -/

inductive ResponseId where
  | none
  | number (n : UInt64)
  | name (s : String)
  deriving DecidableEq, Repr

/-- A response: its identifier, and a result or an error object. -/
structure Response where
  id : ResponseId
  outcome : Except ErrorObject Value

def valuesOf (key : String) (members : List (String × Value)) : List Value :=
  members.filterMap fun m => if m.1 = key then some m.2 else none

def responseId? : Value → Option ResponseId
  | .null => some .none
  | .number (.counter n) => some (.number n)
  | .text s => some (.name s)
  | _ => none

def code? : Value → Option Int
  | .number (.counter n) => if n.toNat < 2 ^ 63 then some n.toNat else none
  | .number (.negative magnitude) => some (-(magnitude : Int))
  | _ => none

def notNull : Value → Option Value
  | .null => none
  | v => some v

/-- The error object that a value is: a code, a message and perhaps data, and nothing else. As a list
it has all three. -/
def errorObject? : Value → Option ErrorObject
  | .array [code, .text message, data] => do return ⟨← code? code, message, notNull data⟩
  | .object ms =>
      match valuesOf "code" ms, valuesOf "message" ms, valuesOf "data" ms with
      | [code], [.text message], data =>
          if ms.length = 2 + data.length ∧ data.length ≤ 1 then do
            return ⟨← code? code, message, data.head?.bind notNull⟩
          else none
      | _, _, _ => none
  | _ => none

def isVersion : Value → Bool
  | .null => true
  | .text s => s = "2.0"
  | _ => false

/-- The response that a value is: an identifier, either a result or an error, perhaps a version, and
nothing else. A list of three is a version, a result and an identifier. -/
def response? : Value → Option Response
  | .array [version, result, id] =>
      if isVersion version then do return ⟨← responseId? id, .ok result⟩ else none
  | .object ms =>
      let versions := valuesOf "jsonrpc" ms
      if ms.length = 2 + versions.length ∧ versions.length ≤ 1 ∧ versions.all isVersion then
        match valuesOf "id" ms, valuesOf "result" ms, valuesOf "error" ms with
        | [id], [result], [] => do return ⟨← responseId? id, .ok result⟩
        | [id], [], [error] => do return ⟨← responseId? id, .error (← errorObject? error)⟩
        | _, _, _ => none
      else none
  | _ => none

def depthLimit : Nat := 128

def Response.result (r : Response) : Except ResponseFault Value :=
  r.outcome.mapError ResponseFault.refused

/-- What the body of an answer gives. Its identifier is not looked at. -/
def readBody (body : String) : Except ResponseFault Value :=
  match Json.readValue depthLimit body.toList with
  | .error fault => .error (.malformed fault body)
  | .ok (v, rest) =>
      match response? v with
      | none => .error (.unknownForm body)
      | some r =>
          if (Json.skipBlank rest).isEmpty then r.result
          else .error (.malformed .trailingCharacters body)

def firstOfBatch? : Value → Option Response
  | .array vs => (vs.mapM response?).bind List.head?
  | _ => none

/-- What a message gives to the request with an identifier: nothing unless it is a response, or a
list of responses whose first one counts, under that number. -/
def readMessage (id : UInt64) (message : String) : Option (Except ResponseFault Value) := do
  let v ← (Value.parse depthLimit message).toOption
  let r ← response? v <|> firstOfBatch? v
  if r.id = .number id then return r.result else none

/-! ### Results -/

def textResult : Value → Except ResponseFault String
  | .text s => .ok s
  | v => .error (.wrongResult (Json.Fault.invalidType (.ofValue v) "a string").text)

def quoteChar (c : Char) : String :=
  if c = '\'' then "'\\''"
  else if c = '"' then "'\"'"
  else String.ofList (['\''] ++ Quoted.escape c ++ ['\''])

/-- The place and value of the first byte that is no hexadecimal digit. -/
def badDigit? : Nat → Bytes → Option (Nat × UInt8)
  | _, [] => none
  | place, b :: rest =>
      if (Hex.digitValue? (Char.ofNat b.toNat)).isSome then badDigit? (place + 1) rest
      else some (place, b)

def bytesResult : Value → Except ResponseFault Bytes
  | .text s =>
      match s.toList with
      | '0' :: 'x' :: digits =>
          let bytes := Utf8.encode digits
          if bytes.length % 2 = 1 then .error (.wrongResult "Invalid hex: Odd number of digits")
          else
            match badDigit? 0 bytes with
            | some (place, b) =>
                .error (.wrongResult ("Invalid hex: Invalid character "
                  ++ quoteChar (Char.ofNat b.toNat) ++ " at position " ++ Decimal.text place))
            | none => .ok ((Hex.toBytes? digits).getD [])
      | _ => .error (.wrongResult (Json.Fault.invalidValue (.text s) "0x prefix").text)
  | v => .error (.wrongResult
      (Json.Fault.invalidType (.ofValue v) "a 0x-prefixed hex-encoded vector of bytes").text)

end LiquidityTrigger.Node
