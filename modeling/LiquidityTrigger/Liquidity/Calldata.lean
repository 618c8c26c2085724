import LiquidityTrigger.Fault
import LiquidityTrigger.Keccak
import LiquidityTrigger.Text.Utf8
import LiquidityTrigger.Transaction

/-!
# Calls

The payload of a call is a selector of four bytes and then one slot of 32 bytes per argument. A
layout fixes the number of slots; a payload that is shorter is refused before anything is read, and
bytes behind the last slot are ignored.

The selector names the function: it is the first four bytes of the digest of the signature. A router has
two functions that add liquidity, one for a pair of tokens and one for a token and the chain's own
currency.
-/

namespace LiquidityTrigger

/-- The slots of a call, and the name under which a short payload is reported. -/
structure Layout where
  name : String
  slots : Nat
  deriving DecidableEq, Repr

def Layout.size (l : Layout) : Nat := 4 + 32 * l.slots

def Layout.check (l : Layout) (data : Bytes) : Except Fault Unit :=
  if data.length < l.size then .error (.calldata l.name l.size data.length) else .ok ()

namespace Calldata

def slot (data : Bytes) (index : Nat) : Bytes := (data.drop (4 + 32 * index)).take 32

def word (data : Bytes) (index : Nat) : Word := Word.ofBytes (slot data index)

/-- An argument as an address; the first 12 bytes of its slot are ignored. -/
def address (data : Bytes) (index : Nat) : Address := Address.ofWord (word data index)

def encode (selector : Bytes) (arguments : List Word) : Bytes :=
  selector ++ arguments.flatMap Word.toBytes

end Calldata

/-! ### The functions that add liquidity -/

def selectorOfSignature (signature : String) : Bytes :=
  (Keccak.hashBytes (Utf8.encode signature.toList)).take 4

inductive LiquidityFunction where
  | addLiquidity
  | addLiquidityETH
  deriving DecidableEq, Repr

namespace LiquidityFunction

def name : LiquidityFunction → String
  | addLiquidity => "AddLiquidity"
  | addLiquidityETH => "AddLiquidityETH"

def signature : LiquidityFunction → String
  | addLiquidity =>
      "addLiquidity(address,address,uint256,uint256,uint256,uint256,address,uint256)"
  | addLiquidityETH => "addLiquidityETH(address,uint256,uint256,uint256,address,uint256)"

def selector (f : LiquidityFunction) : Bytes := selectorOfSignature f.signature

def detect (data : Bytes) : Option LiquidityFunction := do
  let called ← selectorOf data
  [addLiquidity, addLiquidityETH].find? fun f => called = f.selector

end LiquidityFunction

end LiquidityTrigger
