import LiquidityTrigger.Json.Fault

/-!
# Reading the atoms of a JSON text

A reader takes the characters from where it stands and gives a value and the characters behind it.
Here are the readers of what does not nest: blanks, literals, strings and numbers, each also in a
form that only passes over it.

A number that is no integer of 64 bits becomes a double. Its digits are gathered in a counter of 64
bits for as long as they fit, and the counter is scaled by a power of ten with one rounding.
-/

namespace LiquidityTrigger.Json

abbrev Reader (α : Type) := List Char → Except Fault (α × List Char)

def isBlank (c : Char) : Bool := c = ' ' || c = '\n' || c = '\t' || c = '\r'

def skipBlank (cs : List Char) : List Char := cs.dropWhile isBlank

def readLiteral : List Char → List Char → Except Fault (List Char)
  | [], cs => .ok cs
  | _ :: _, [] => .error .endInValue
  | e :: es, c :: cs => if e = c then readLiteral es cs else .error .wantedIdent

/-! ### Strings -/

/-- The code unit that four hexadecimal digits denote, at the front of a text. A text of fewer than
four bytes has ended too early. -/
def readUnit (cs : List Char) : Except Fault Nat :=
  match cs with
  | a :: b :: c :: d :: _ =>
      match Hex.toNat? [a, b, c, d] with
      | some n => .ok n
      | none => .error .invalidEscape
  | _ => if (String.ofList cs).utf8ByteSize < 4 then .error .endInText else .error .invalidEscape

def isHighSurrogate (n : Nat) : Bool := 0xD800 ≤ n && n ≤ 0xDBFF

def isLowSurrogate (n : Nat) : Bool := 0xDC00 ≤ n && n ≤ 0xDFFF

def readLowUnit : List Char → Except Fault Nat
  | [] => .error .endInText
  | '\\' :: [] => .error .endInText
  | '\\' :: 'u' :: cs => do
      let n ← readUnit cs
      if isLowSurrogate n then return n else throw .loneSurrogate
  | _ => .error .brokenSurrogatePair

def shortEscape? : Char → Option Char
  | '"' => some '"'
  | '\\' => some '\\'
  | '/' => some '/'
  | 'b' => some (Char.ofNat 8)
  | 'f' => some (Char.ofNat 12)
  | 'n' => some '\n'
  | 'r' => some '\r'
  | 't' => some '\t'
  | _ => none

/-- The character of an escape whose backslash has been read, and how many characters it takes. -/
def readEscape : List Char → Except Fault (Char × Nat)
  | [] => .error .endInText
  | 'u' :: cs => do
      let n ← readUnit cs
      if isLowSurrogate n then throw .loneSurrogate
      else if isHighSurrogate n then
        let low ← readLowUnit (cs.drop 4)
        return (Char.ofNat ((n - 0xD800) * 1024 + (low - 0xDC00) + 0x10000), 11)
      else return (Char.ofNat n, 5)
  | c :: _ =>
      match shortEscape? c with
      | some e => .ok (e, 1)
      | none => .error .invalidEscape

/-- The rest of a string whose opening quote has been read, behind the characters already gathered
in reverse; the first argument counts characters that belong to an escape already read. -/
def readTextFrom : Nat → List Char → Reader String
  | _, _, [] => .error .endInText
  | skip + 1, gathered, _ :: cs => readTextFrom skip gathered cs
  | 0, gathered, c :: cs =>
      if c = '"' then .ok (String.ofList gathered.reverse, cs)
      else if c = '\\' then
        match readEscape cs with
        | .ok (e, taken) => readTextFrom taken (e :: gathered) cs
        | .error fault => .error fault
      else if c.toNat < 32 then .error .controlCharacter
      else readTextFrom 0 (c :: gathered) cs

def readText : Reader String := readTextFrom 0 []

/-- How many characters an escape takes that is only passed over. Surrogates need not be paired. -/
def skipEscape : List Char → Except Fault Nat
  | [] => .error .endInText
  | 'u' :: cs => do
      let _ ← readUnit cs
      return 5
  | c :: _ => if (shortEscape? c).isSome then .ok 1 else .error .invalidEscape

/-- The text behind a string whose opening quote has been read; the first argument counts characters
that belong to an escape already read. -/
def skipTextFrom : Nat → List Char → Except Fault (List Char)
  | _, [] => .error .endInText
  | skip + 1, _ :: cs => skipTextFrom skip cs
  | 0, c :: cs =>
      if c = '"' then .ok cs
      else if c = '\\' then
        match skipEscape cs with
        | .ok taken => skipTextFrom taken cs
        | .error fault => .error fault
      else if c.toNat < 32 then .error .controlCharacter
      else skipTextFrom 0 cs

def skipText : List Char → Except Fault (List Char) := skipTextFrom 0

/-! ### Numbers -/

def greatestCounter : Nat := 2 ^ 64 - 1

/-- Appends digits to a counter for as long as it holds them. Gives the counter, the number of
digits appended and the text behind them. -/
def gather : Nat → Nat → List Char → Nat × Nat × List Char
  | counter, taken, [] => (counter, taken, [])
  | counter, taken, c :: cs =>
      if Decimal.isDigit c ∧ counter * 10 + Decimal.digitValue c ≤ greatestCounter then
        gather (counter * 10 + Decimal.digitValue c) (taken + 1) cs
      else (counter, taken, c :: cs)

/-- Scales a double by a power of ten; the first argument bounds the number of divisions needed to
come near a very small exponent. -/
def scale : Nat → Float → Int → Except Fault Float
  | 0, x, _ => .ok x
  | bound + 1, x, exponent =>
      if exponent.natAbs ≤ 308 then
        if 0 ≤ exponent then
          let y := x * Float.ofScientific 1 false exponent.natAbs
          if y.isInf then .error .numberOutOfRange else .ok y
        else .ok (x / Float.ofScientific 1 false exponent.natAbs)
      else if x == 0.0 then .ok x
      else if 0 ≤ exponent then .error .numberOutOfRange
      else scale bound (x / Float.ofScientific 1 false 308) (exponent + 308)

def makeDouble (negative : Bool) (counter : Nat) (exponent : Int) : Except Fault Number := do
  let x ← scale 8 (UInt64.ofNat counter).toFloat exponent
  return .double (if negative then (-x).toBits else x.toBits)

def greatestExponent : Nat := 2 ^ 31 - 1

def readExponentSign : List Char → Bool × List Char
  | '+' :: cs => (false, cs)
  | '-' :: cs => (true, cs)
  | cs => (false, cs)

/-- A double, from its exponent on; the `e` has been read. -/
def readExponent (negative : Bool) (counter : Nat) (exponent : Int) : Reader Number := fun cs =>
  let (below, cs) := readExponentSign cs
  match cs with
  | [] => .error .endInValue
  | c :: _ =>
      if !Decimal.isDigit c then .error .invalidNumber
      else do
        let written := Decimal.value (cs.takeWhile Decimal.isDigit)
        let rest := cs.dropWhile Decimal.isDigit
        if greatestExponent < written then
          if counter ≠ 0 ∧ !below then throw .numberOutOfRange
          else return (← makeDouble negative 0 0, rest)
        else
          let total : Int := if below then exponent - written else exponent + written
          return (← makeDouble negative counter total, rest)

def readScale (negative : Bool) (counter : Nat) (exponent : Int) : Reader Number := fun cs =>
  match cs with
  | 'e' :: rest => readExponent negative counter exponent rest
  | 'E' :: rest => readExponent negative counter exponent rest
  | _ => do return (← makeDouble negative counter exponent, cs)

/-- A double, from its fraction on; the point has been read. -/
def readFraction (negative : Bool) (counter : Nat) (exponent : Int) : Reader Number := fun cs =>
  match cs with
  | [] => .error .endInValue
  | c :: _ =>
      if !Decimal.isDigit c then .error .invalidNumber
      else
        let (counter, taken, rest) := gather counter 0 cs
        readScale negative counter (exponent - taken) (rest.dropWhile Decimal.isDigit)

/-- An integer, if the counter with its sign is one; a negative zero is a double. -/
def makeInteger (negative : Bool) (counter : Nat) : Except Fault Number :=
  if !negative then .ok (.counter (UInt64.ofNat counter))
  else if 1 ≤ counter ∧ counter ≤ 2 ^ 63 then .ok (.negative counter)
  else makeDouble true counter 0

def readNumber (negative : Bool) : Reader Number := fun cs =>
  match cs with
  | [] => .error .endInValue
  | '0' :: c :: rest =>
      if Decimal.isDigit c then .error .invalidNumber
      else if c = '.' then readFraction negative 0 0 rest
      else if c = 'e' ∨ c = 'E' then readExponent negative 0 0 rest
      else do return (← makeInteger negative 0, c :: rest)
  | c :: _ =>
      if !Decimal.isDigit c then .error .invalidNumber
      else
        let (counter, _, rest) := gather 0 0 cs
        let dropped := (rest.takeWhile Decimal.isDigit).length
        match rest.dropWhile Decimal.isDigit with
        | '.' :: rest => readFraction negative counter dropped rest
        | rest =>
            match rest, dropped with
            | 'e' :: rest, _ => readExponent negative counter dropped rest
            | 'E' :: rest, _ => readExponent negative counter dropped rest
            | _, 0 => do return (← makeInteger negative counter, rest)
            | _, _ => do return (← makeDouble negative counter dropped, rest)

def skipExponent (cs : List Char) : Except Fault (List Char) :=
  match (readExponentSign cs).2 with
  | c :: rest =>
      if Decimal.isDigit c then .ok (rest.dropWhile Decimal.isDigit) else .error .invalidNumber
  | [] => .error .invalidNumber

def skipFraction (cs : List Char) : Except Fault (List Char) :=
  match cs with
  | c :: rest =>
      if !Decimal.isDigit c then .error .invalidNumber
      else
        match rest.dropWhile Decimal.isDigit with
        | 'e' :: rest => skipExponent rest
        | 'E' :: rest => skipExponent rest
        | rest => .ok rest
  | [] => .error .invalidNumber

/-- The text behind a number that is only passed over, behind its sign. No range is checked. -/
def skipNumber (cs : List Char) : Except Fault (List Char) :=
  match cs with
  | [] => .error .invalidNumber
  | c :: rest =>
      if !Decimal.isDigit c then .error .invalidNumber
      else if c = '0' ∧ (rest.head?.map Decimal.isDigit).getD false then .error .invalidNumber
      else
        match rest.dropWhile Decimal.isDigit with
        | '.' :: rest => skipFraction rest
        | 'e' :: rest => skipExponent rest
        | 'E' :: rest => skipExponent rest
        | rest => .ok rest

/-! ### What stands at the front of a text -/

/-- The fault of a text that does not start with the value that was wanted. It is a fault of the
text if what stands there is no value either. -/
def mismatch (wanted : String) (cs : List Char) : Fault :=
  let report (found : Except Fault Found) : Fault :=
    match found with
    | .ok found => .invalidType found wanted
    | .error fault => fault
  match cs with
  | [] => .endInValue
  | 'n' :: cs => report (do let _ ← readLiteral "ull".toList cs; return .null)
  | 't' :: cs => report (do let _ ← readLiteral "rue".toList cs; return .boolean true)
  | 'f' :: cs => report (do let _ ← readLiteral "alse".toList cs; return .boolean false)
  | '"' :: cs => report (do return .text (← readText cs).1)
  | '-' :: cs => report (do return .number (← readNumber true cs).1)
  | '[' :: _ => report (.ok .sequence)
  | '\x7b' :: _ => report (.ok .map)
  | c :: _ => if Decimal.isDigit c then report (do return .number (← readNumber false cs).1)
      else .wantedValue

end LiquidityTrigger.Json
