import LiquidityTrigger.Json.Value
import LiquidityTrigger.Text.Quoted

/-!
# Why a JSON text is refused

Either the text is not JSON, or it is JSON of another form than the one that was wanted. In the
second case the fault says what was found and what was wanted.
-/

namespace LiquidityTrigger.Json

inductive Found where
  | null
  | boolean (b : Bool)
  | number (n : Number)
  | text (s : String)
  | sequence
  | map
  deriving DecidableEq, Repr

/-- What a value shows of itself when another one was wanted. -/
def Found.ofValue : Value → Found
  | .null => .null
  | .boolean b => .boolean b
  | .number n => .number n
  | .text s => .text s
  | .array _ => .sequence
  | .object _ => .map

def Found.words : Found → String
  | .null => "null"
  | .boolean true => "boolean `true`"
  | .boolean false => "boolean `false`"
  | .number (.double bits) => "floating point `" ++ (Number.double bits).text ++ "`"
  | .number n => "integer `" ++ n.text ++ "`"
  | .text s => "string " ++ Quoted.quote s
  | .sequence => "sequence"
  | .map => "map"

inductive Fault where
  | endInValue
  | endInList
  | endInObject
  | endInText
  | wantedColon
  | wantedCommaOrBracket
  | wantedCommaOrBrace
  | wantedIdent
  | wantedValue
  | keyNotText
  | trailingComma
  | trailingCharacters
  | invalidNumber
  | numberOutOfRange
  | invalidEscape
  | controlCharacter
  | loneSurrogate
  | brokenSurrogatePair
  | tooDeep
  | invalidType (found : Found) (wanted : String)
  | invalidValue (found : Found) (wanted : String)
  | invalidLength (length : Nat) (wanted : String)
  | missingField (name : String)
  | duplicateField (name : String)
  | unknownVariant (name : String)
  deriving DecidableEq, Repr

def Fault.text : Fault → String
  | .endInValue => "EOF while parsing a value"
  | .endInList => "EOF while parsing a list"
  | .endInObject => "EOF while parsing an object"
  | .endInText => "EOF while parsing a string"
  | .wantedColon => "expected `:`"
  | .wantedCommaOrBracket => "expected `,` or `]`"
  | .wantedCommaOrBrace => "expected `,` or `\x7d`"
  | .wantedIdent => "expected ident"
  | .wantedValue => "expected value"
  | .keyNotText => "key must be a string"
  | .trailingComma => "trailing comma"
  | .trailingCharacters => "trailing characters"
  | .invalidNumber => "invalid number"
  | .numberOutOfRange => "number out of range"
  | .invalidEscape => "invalid escape"
  | .controlCharacter => "control character (\\u0000-\\u001F) found while parsing a string"
  | .loneSurrogate => "lone leading surrogate in hex escape"
  | .brokenSurrogatePair => "unexpected end of hex escape"
  | .tooDeep => "recursion limit exceeded"
  | .invalidType found wanted => "invalid type: " ++ found.words ++ ", expected " ++ wanted
  | .invalidValue found wanted => "invalid value: " ++ found.words ++ ", expected " ++ wanted
  | .invalidLength length wanted =>
      "invalid length " ++ Decimal.text length ++ ", expected " ++ wanted
  | .missingField name => "missing field `" ++ name ++ "`"
  | .duplicateField name => "duplicate field `" ++ name ++ "`"
  | .unknownVariant name => "unknown variant `" ++ name ++ "`"

end LiquidityTrigger.Json
