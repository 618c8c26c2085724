import LiquidityTrigger.Json.Scan

/-!
# Passing over a value

The value of a member nobody asked for is passed over, however deep it is. Only its form is checked.
The open lists and objects are a stack, so the depth of the value costs no recursion.
-/

namespace LiquidityTrigger.Json

/-- What stands open around the place of reading. -/
inductive Frame where
  | list
  | object
  deriving DecidableEq, Repr

/-- What comes next: a value, the key of a member, or whatever follows a finished value. -/
inductive Next where
  | value
  | key
  | follow
  deriving DecidableEq, Repr

def Frame.endFault : Frame → Fault
  | .list => .endInList
  | .object => .endInObject

/-- The fault of a finished value that neither a comma nor the frame's bracket follows. -/
def Frame.commaFault : Frame → Fault
  | .list => .wantedCommaOrBracket
  | .object => .wantedCommaOrBrace

def Frame.closing : Frame → Char
  | .list => ']'
  | .object => '\x7d'

def Frame.afterComma : Frame → Next
  | .list => .value
  | .object => .key

/-- Passes over what comes next, and then over the rest of all frames. Every step takes at least one
character, so the first argument need not be greater than the length of the text. -/
def skipSteps : Nat → Next → List Frame → List Char → Except Fault (List Char)
  | 0, _, _, _ => .error .endInValue
  | bound + 1, .value, frames, cs =>
      let atom (behind : Except Fault (List Char)) : Except Fault (List Char) := do
        let rest ← behind
        if frames.isEmpty then return rest else skipSteps bound .follow frames rest
      let enter (frame : Frame) (cs : List Char) : Except Fault (List Char) :=
        match skipBlank cs with
        | [] => .error frame.endFault
        | c :: rest =>
            if c = frame.closing then
              if frames.isEmpty then .ok rest else skipSteps bound .follow frames rest
            else skipSteps bound frame.afterComma (frame :: frames) (c :: rest)
      match skipBlank cs with
      | [] => .error .endInValue
      | 'n' :: rest => atom (readLiteral "ull".toList rest)
      | 't' :: rest => atom (readLiteral "rue".toList rest)
      | 'f' :: rest => atom (readLiteral "alse".toList rest)
      | '-' :: rest => atom (skipNumber rest)
      | '"' :: rest => atom (skipText rest)
      | '[' :: rest => enter .list rest
      | '\x7b' :: rest => enter .object rest
      | c :: rest => if Decimal.isDigit c then atom (skipNumber (c :: rest)) else .error .wantedValue
  | bound + 1, .key, frames, cs =>
      match skipBlank cs with
      | [] => .error .endInObject
      | '"' :: rest => do
          match skipBlank (← skipText rest) with
          | [] => throw .endInObject
          | ':' :: rest => skipSteps bound .value frames rest
          | _ => throw .wantedColon
      | _ => .error .keyNotText
  | _ + 1, .follow, [], cs => .ok cs
  | bound + 1, .follow, frame :: frames, cs =>
      match skipBlank cs with
      | [] => .error frame.endFault
      | c :: rest =>
          if c = ',' then skipSteps bound frame.afterComma (frame :: frames) rest
          else if c = frame.closing then
            if frames.isEmpty then .ok rest else skipSteps bound .follow frames rest
          else .error frame.commaFault

def skipValue (cs : List Char) : Except Fault (List Char) :=
  skipSteps (cs.length + 1) .value [] cs

end LiquidityTrigger.Json
