import LiquidityTrigger.Bytes

/-!
# UTF-8

`scan` cuts a byte string into characters and faults, where a fault is the longest run of bytes
that starts a character but cannot be continued to one, or else a single byte. Strict decoding wants
no fault, lenient decoding puts the replacement character in the place of each.
-/

namespace LiquidityTrigger.Utf8

def encode (cs : List Char) : Bytes := cs.flatMap String.utf8EncodeChar

/-- Whether a byte can follow the first byte of a character. -/
def isTail (b : UInt8) : Bool := 0x80 ≤ b && b ≤ 0xBF

def tailBits (b : UInt8) : Nat := b.toNat % 64

def isSecondOfThree (first second : UInt8) : Bool :=
  if first = 0xE0 then 0xA0 ≤ second && second ≤ 0xBF
  else if first = 0xED then 0x80 ≤ second && second ≤ 0x9F
  else isTail second

def isSecondOfFour (first second : UInt8) : Bool :=
  if first = 0xF0 then 0x90 ≤ second && second ≤ 0xBF
  else if first = 0xF4 then 0x80 ≤ second && second ≤ 0x8F
  else isTail second

def readTwo (a : UInt8) : Bytes → Option Char × Nat
  | b :: _ =>
      if isTail b then (some (Char.ofNat (a.toNat % 32 * 64 + tailBits b)), 1) else (none, 0)
  | [] => (none, 0)

def readThree (a : UInt8) : Bytes → Option Char × Nat
  | b :: rest =>
      if isSecondOfThree a b then
        match rest with
        | c :: _ =>
            if isTail c then
              (some (Char.ofNat ((a.toNat % 16 * 64 + tailBits b) * 64 + tailBits c)), 2)
            else (none, 1)
        | [] => (none, 1)
      else (none, 0)
  | [] => (none, 0)

def readFour (a : UInt8) : Bytes → Option Char × Nat
  | b :: rest =>
      if isSecondOfFour a b then
        match rest with
        | c :: rest' =>
            if isTail c then
              match rest' with
              | d :: _ =>
                  if isTail d then
                    (some (Char.ofNat
                      (((a.toNat % 8 * 64 + tailBits b) * 64 + tailBits c) * 64 + tailBits d)), 3)
                  else (none, 2)
              | [] => (none, 2)
            else (none, 1)
        | [] => (none, 1)
      else (none, 0)
  | [] => (none, 0)

/-- The character that starts with byte `a`, or `none` for a fault, and how many of the bytes behind
`a` belong to it. -/
def readChar (a : UInt8) (rest : Bytes) : Option Char × Nat :=
  if a < 0x80 then (some (Char.ofNat a.toNat), 0)
  else if 0xC2 ≤ a && a ≤ 0xDF then readTwo a rest
  else if 0xE0 ≤ a && a ≤ 0xEF then readThree a rest
  else if 0xF0 ≤ a && a ≤ 0xF4 then readFour a rest
  else (none, 0)

/-- The characters of a byte string, with `none` for each fault, after passing over as many bytes as
the first argument says. -/
def scanFrom : Nat → Bytes → List (Option Char)
  | _, [] => []
  | 0, a :: rest => (readChar a rest).1 :: scanFrom (readChar a rest).2 rest
  | skip + 1, _ :: rest => scanFrom skip rest

def scan (bytes : Bytes) : List (Option Char) := scanFrom 0 bytes

/-- The character that stands for bytes that spell none. -/
def replacement : Char := Char.ofNat 0xFFFD

/-- The text of a byte string, with the replacement character for each fault. -/
def decodeLossy (bytes : Bytes) : List Char := (scan bytes).map fun c? => c?.getD replacement

def decode? (bytes : Bytes) : Option (List Char) := (scan bytes).mapM id

end LiquidityTrigger.Utf8
