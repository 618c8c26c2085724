import LiquidityTrigger.Word

/-!
# Keccak-256

The sponge with the padding byte `0x01`, a rate of 136 bytes and a 256-bit digest. The
state is a list of 25 lanes of 64 bits; the lane in column `x` of row `y` stands at `5 * y + x`.
-/

namespace LiquidityTrigger.Keccak

abbrev State := List UInt64

def lane (s : State) (x y : Nat) : UInt64 := s.getD (5 * (y % 5) + x % 5) 0

def State.ofLanes (f : Nat → Nat → UInt64) : State :=
  (List.range 25).map fun i => f (i % 5) (i / 5)

def rotate (w : UInt64) (k : UInt64) : UInt64 := (w <<< k) ||| (w >>> (64 - k))

/-- The number of places by which the lane at each index is turned. -/
def offsets : List UInt64 :=
  [0, 1, 62, 28, 27,
   36, 44, 6, 55, 20,
   3, 10, 43, 25, 39,
   41, 45, 15, 21, 8,
   18, 2, 61, 56, 14]

def roundConstants : List UInt64 :=
  [0x0000000000000001, 0x0000000000008082, 0x800000000000808A, 0x8000000080008000,
   0x000000000000808B, 0x0000000080000001, 0x8000000080008081, 0x8000000000008009,
   0x000000000000008A, 0x0000000000000088, 0x0000000080008009, 0x000000008000000A,
   0x000000008000808B, 0x800000000000008B, 0x8000000000008089, 0x8000000000008003,
   0x8000000000008002, 0x8000000000000080, 0x000000000000800A, 0x800000008000000A,
   0x8000000080008081, 0x8000000000008080, 0x0000000080000001, 0x8000000080008008]

/-- Adds to every lane the parities of two neighbouring columns. -/
def theta (s : State) : State :=
  let parity := (List.range 5).map fun x =>
    lane s x 0 ^^^ lane s x 1 ^^^ lane s x 2 ^^^ lane s x 3 ^^^ lane s x 4
  let column (x : Nat) : UInt64 := parity.getD (x % 5) 0
  State.ofLanes fun x y => lane s x y ^^^ (column (x + 4) ^^^ rotate (column (x + 1)) 1)

/-- Turns every lane and moves it to its new place. -/
def rhoPi (s : State) : State :=
  State.ofLanes fun x y =>
    rotate (lane s (x + 3 * y) x) (offsets.getD (5 * x + (x + 3 * y) % 5) 0)

/-- Mixes every lane with the two that follow it in its row. -/
def chi (s : State) : State :=
  State.ofLanes fun x y => lane s x y ^^^ (~~~(lane s (x + 1) y) &&& lane s (x + 2) y)

def iota (constant : UInt64) : State → State
  | [] => []
  | first :: rest => (first ^^^ constant) :: rest

def permute (s : State) : State :=
  roundConstants.foldl (fun s constant => iota constant (chi (rhoPi (theta s)))) s

/-- The bytes that one step of the sponge takes in. -/
def rate : Nat := 136

/-- The lane that eight bytes spell, least significant byte first. -/
def laneOfBytes (bytes : Bytes) : UInt64 := UInt64.ofNat (Bytes.toNat bytes.reverse)

def bytesOfLane (w : UInt64) : Bytes := (Bytes.ofNat 8 w.toNat).reverse

/-- A message filled up to a multiple of the rate. -/
def pad (message : Bytes) : Bytes :=
  let missing := rate - message.length % rate
  if missing = 1 then message ++ [0x81]
  else message ++ 0x01 :: List.replicate (missing - 2) 0 ++ [0x80]

def absorb (s : State) (block : Bytes) : State :=
  permute (State.ofLanes fun x y =>
    lane s x y ^^^ laneOfBytes ((block.drop (8 * (5 * y + x))).take 8))

/-- Absorbs `count` blocks from the front of a padded message. -/
def absorbAll : Nat → State → Bytes → State
  | 0, s, _ => s
  | count + 1, s, bytes => absorbAll count (absorb s (bytes.take rate)) (bytes.drop rate)

def hashBytes (message : Bytes) : Bytes :=
  let padded := pad message
  let final := absorbAll (padded.length / rate) (List.replicate 25 0) padded
  (final.take 4).flatMap bytesOfLane

end LiquidityTrigger.Keccak

namespace LiquidityTrigger

def keccak256 (message : Bytes) : Digest := Digest.ofBytes (Keccak.hashBytes message)

end LiquidityTrigger
