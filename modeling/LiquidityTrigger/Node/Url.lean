import LiquidityTrigger.Text.Numeral
import LiquidityTrigger.Text.Hex

/-!
# Endpoints as URLs

An endpoint is an absolute URL. `Url.parse` finds its scheme and checks its host and its port. The
schemes of the web need a host, which stands behind any number of slashes and may be a name, an IPv4
address in any of its numeric spellings, or an IPv6 address in brackets. Other schemes have a host
only behind two slashes.
-/

namespace LiquidityTrigger

inductive UrlFault where
  | noScheme
  | emptyHost
  | invalidPort
  | invalidIpv4
  | invalidIpv6
  | invalidName
  | invalidHostCharacter
  deriving DecidableEq, Repr

def UrlFault.text : UrlFault → String
  | .noScheme => "relative URL without a base"
  | .emptyHost => "empty host"
  | .invalidPort => "invalid port number"
  | .invalidIpv4 => "invalid IPv4 address"
  | .invalidIpv6 => "invalid IPv6 address"
  | .invalidName => "invalid international domain name"
  | .invalidHostCharacter => "invalid domain character"

/-- The host of a URL: an address in numbers, or a name in lower case that has yet to be looked up. -/
inductive Host where
  | address
  | name (text : String)
  deriving DecidableEq, Repr

structure Url where
  scheme : String
  host : Option Host
  port : Option Nat
  deriving DecidableEq, Repr

namespace Url

/-! ### Addresses in numbers -/

/-- The digits of a number in one part of an IPv4 address, and the base they are in. -/
def ipv4Base : List Char → Nat × List Char
  | '0' :: 'x' :: cs => (16, cs)
  | '0' :: 'X' :: cs => (16, cs)
  | '0' :: c :: cs => (8, c :: cs)
  | cs => (10, cs)

/-- The number in one part of an IPv4 address: decimal, octal behind `0`, hexadecimal behind `0x`. -/
def ipv4Number? (part : List Char) : Option Nat :=
  if part.isEmpty then none
  else
    let (base, digits) := ipv4Base part
    digits.foldl (fun n? c => do
      let n ← n?
      let d ← Hex.digitValue? c
      if d < base then return n * base + d else none) (some 0)

def labels (cs : List Char) : List (List Char) :=
  let parts := cs.splitOn '.'
  if parts.getLast? = some [] then parts.dropLast else parts

/-- Whether a host is to be read as an IPv4 address: its last part is a number. -/
def endsInNumber (cs : List Char) : Bool :=
  match (labels cs).getLast? with
  | some last => (!last.isEmpty && last.all Decimal.isDigit) || (ipv4Number? last).isSome
  | none => false

/-- Whether a host is an IPv4 address. All parts but the last are bytes, and the last one fills the
bytes that are left. -/
def isIpv4 (cs : List Char) : Bool :=
  let parts := labels cs
  match parts.mapM ipv4Number? with
  | some numbers =>
      numbers.length ≤ 4 && numbers.dropLast.all (· ≤ 255)
        && numbers.getLast?.any (· < 256 ^ (5 - numbers.length))
  | none => false

def isDecimalByte (cs : List Char) : Bool :=
  !cs.isEmpty && cs.all Decimal.isDigit && cs.length ≤ 3 && Decimal.value cs ≤ 255
    && (cs.length = 1 || cs.head? ≠ some '0')

/-- How many of the eight groups of an IPv6 address a part of it fills: one, or two for an IPv4
address at its end. -/
def groupSize? (last : Bool) (part : List Char) : Option Nat :=
  let bytes := part.splitOn '.'
  if !part.isEmpty && part.length ≤ 4 && part.all (fun c => (Hex.digitValue? c).isSome) then some 1
  else if last && bytes.length = 4 && bytes.all isDecimalByte then some 2
  else none

def groupCount? : List (List Char) → Option Nat
  | [] => some 0
  | [part] => groupSize? true part
  | part :: rest => do return (← groupSize? false part) + (← groupCount? rest)

def splitDoubleColon : List Char → Option (List Char × List Char)
  | ':' :: ':' :: rest => some ([], rest)
  | c :: rest => (splitDoubleColon rest).map fun (before, behind) => (c :: before, behind)
  | [] => none

/-- The groups of one side of a double colon; nothing at all is no group. -/
def sideCount? (cs : List Char) : Option Nat :=
  if cs.isEmpty then some 0 else groupCount? (cs.splitOn ':')

/-- Whether a text is an IPv6 address: eight groups, or fewer around one double colon. -/
def isIpv6 (cs : List Char) : Bool :=
  match splitDoubleColon cs with
  | none => groupCount? (cs.splitOn ':') = some 8
  | some (before, behind) =>
      match sideCount? before, sideCount? behind with
      | some a, some b => a + b ≤ 7 && !before.contains '.'
      | _, _ => false

/-! ### Hosts and ports -/

def isForbidden (c : Char) : Bool :=
  c.toNat ≤ 0x20 || c.toNat = 0x7F || "#%/:<>?@[\\]^`\x7b|\x7d".toList.contains c

/-- A text with its percent escapes of ASCII characters replaced. -/
def unescape : List Char → List Char
  | '%' :: a :: b :: rest =>
      match Hex.digitValue? a, Hex.digitValue? b with
      | some h, some l => Char.ofNat (h * 16 + l) :: unescape rest
      | _, _ => '%' :: unescape (a :: b :: rest)
  | c :: rest => c :: unescape rest
  | [] => []

def hostOfName (cs : List Char) : Host := .name (String.ofList (cs.map Char.toLower))

def readBracketed (cs : List Char) : Except UrlFault Host :=
  if cs.getLast? = some ']' ∧ isIpv6 (cs.drop 1).dropLast then .ok .address
  else .error .invalidIpv6

def readWebHost (host : List Char) : Except UrlFault Host :=
  if host.isEmpty then .error .emptyHost
  else if host.head? = some '[' then readBracketed host
  else
    let name := unescape host
    if name.any isForbidden then .error .invalidName
    else if endsInNumber name then if isIpv4 name then .ok .address else .error .invalidIpv4
    else .ok (hostOfName name)

def readOpaqueHost (host : List Char) : Except UrlFault Host :=
  if host.head? = some '[' then readBracketed host
  else if (host.filter (· ≠ '%')).any isForbidden then .error .invalidHostCharacter
  else .ok (hostOfName host)

def endsAuthority (web : Bool) (c : Char) : Bool :=
  c = '/' || c = '?' || c = '#' || (web && c = '\\')

def takeHost : Bool → List Char → List Char × List Char
  | _, [] => ([], [])
  | bracketed, c :: rest =>
      if c = ':' ∧ !bracketed then ([], c :: rest)
      else
        let inBrackets := if c = '[' then true else if c = ']' then false else bracketed
        let (host, behind) := takeHost inBrackets rest
        (c :: host, behind)

def readPort (cs : List Char) : Except UrlFault (Option Nat) :=
  if cs.isEmpty then .ok none
  else if cs.all Decimal.isDigit ∧ Decimal.value cs < 65536 then .ok (some (Decimal.value cs))
  else .error .invalidPort

def readAuthority (scheme : String) (web : Bool) (cs : List Char) : Except UrlFault Url := do
  let authority := cs.takeWhile fun c => !endsAuthority web c
  let named := authority.contains '@'
  let (host, behind) := takeHost false (authority.reverse.takeWhile (· ≠ '@')).reverse
  if host.isEmpty ∧ (named ∨ !behind.isEmpty) then throw .emptyHost
  let host ← if web then readWebHost host else readOpaqueHost host
  return ⟨scheme, some host, ← readPort (behind.drop 1)⟩

/-! ### The whole -/

def webSchemes : List String := ["http", "https", "ws", "wss", "ftp"]

def isSchemeChar (c : Char) : Bool := c.isAlphanum || c = '+' || c = '-' || c = '.'

def splitScheme (cs : List Char) : Option (String × List Char) :=
  let scheme := cs.takeWhile isSchemeChar
  match scheme.head?, cs.dropWhile isSchemeChar with
  | some first, ':' :: rest =>
      if first.isAlpha then some (String.ofList (scheme.map Char.toLower), rest) else none
  | _, _ => none

def isEdge (c : Char) : Bool := c.toNat ≤ 0x20

def isIgnored (c : Char) : Bool := c = '\t' || c = '\n' || c = '\r'

def parse (text : String) : Except UrlFault Url :=
  let trimmed := ((text.toList.dropWhile isEdge).reverse.dropWhile isEdge).reverse
  match splitScheme (trimmed.filter fun c => !isIgnored c) with
  | none => .error .noScheme
  | some (scheme, rest) =>
      if scheme ∈ webSchemes then
        readAuthority scheme true (rest.dropWhile fun c => c = '/' || c = '\\')
      else
        match rest with
        | '/' :: '/' :: authority =>
            if scheme = "file" then .ok ⟨scheme, none, none⟩
            else readAuthority scheme false authority
        | _ => .ok ⟨scheme, none, none⟩

end Url

end LiquidityTrigger
