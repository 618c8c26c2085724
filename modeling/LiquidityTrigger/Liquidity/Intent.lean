import LiquidityTrigger.Liquidity.Calldata
import LiquidityTrigger.Settings

/-!
# What an addition of liquidity intends

`PairAddition` and `NativeAddition` hold the arguments of the two functions; each is read from the
slots of a payload and written back by `arguments`. `Intent.legs` looks at an addition from the
target token's side: how much of the target it promises at least, and what stands on the other side.
It has no legs when the configured pair is not involved.
-/

namespace LiquidityTrigger

/-- The arguments of a call that adds two tokens. -/
structure PairAddition where
  tokenA : Address
  tokenB : Address
  amountADesired : Word
  amountBDesired : Word
  amountAMin : Word
  amountBMin : Word
  deadline : Word
  recipient : Address
  deriving DecidableEq, Repr

/-- The arguments of a call that adds a token and the chain's own currency. -/
structure NativeAddition where
  token : Address
  amountTokenDesired : Word
  amountTokenMin : Word
  amountEthMin : Word
  deadline : Word
  recipient : Address
  deriving DecidableEq, Repr

inductive PairedLeg where
  /-- The paired token and the least amount of it. -/
  | token (token : Address) (minAmount : Word)
  /-- The chain's own currency and the least amount of it. -/
  | native (declaredMin : Word)
  deriving DecidableEq, Repr

structure Legs where
  minTarget : Word
  paired : PairedLeg
  deriving DecidableEq, Repr

namespace PairAddition

def layout : Layout := ⟨"addLiquidity", 8⟩

def ofSlots (data : Bytes) : PairAddition where
  tokenA := Calldata.address data 0
  tokenB := Calldata.address data 1
  amountADesired := Calldata.word data 2
  amountBDesired := Calldata.word data 3
  amountAMin := Calldata.word data 4
  amountBMin := Calldata.word data 5
  recipient := Calldata.address data 6
  deadline := Calldata.word data 7

def decode (data : Bytes) : Except Fault PairAddition := do
  layout.check data
  return ofSlots data

def arguments (i : PairAddition) : List Word :=
  [i.tokenA.toWord, i.tokenB.toWord, i.amountADesired, i.amountBDesired, i.amountAMin,
    i.amountBMin, i.recipient.toWord, i.deadline]

def legs (i : PairAddition) (config : Config) : Option Legs :=
  if i.tokenA = config.target ∧ i.tokenB = config.paired then
    some ⟨i.amountAMin, .token config.paired i.amountBMin⟩
  else if i.tokenB = config.target ∧ i.tokenA = config.paired then
    some ⟨i.amountBMin, .token config.paired i.amountAMin⟩
  else none

end PairAddition

namespace NativeAddition

def layout : Layout := ⟨"addLiquidityETH", 6⟩

def ofSlots (data : Bytes) : NativeAddition where
  token := Calldata.address data 0
  amountTokenDesired := Calldata.word data 1
  amountTokenMin := Calldata.word data 2
  amountEthMin := Calldata.word data 3
  recipient := Calldata.address data 4
  deadline := Calldata.word data 5

def decode (data : Bytes) : Except Fault NativeAddition := do
  layout.check data
  return ofSlots data

def arguments (i : NativeAddition) : List Word :=
  [i.token.toWord, i.amountTokenDesired, i.amountTokenMin, i.amountEthMin, i.recipient.toWord,
    i.deadline]

def legs (i : NativeAddition) (config : Config) : Option Legs :=
  if i.token = config.target then some ⟨i.amountTokenMin, .native i.amountEthMin⟩ else none

end NativeAddition

inductive Intent where
  | pair (addition : PairAddition)
  | native (addition : NativeAddition)
  deriving DecidableEq, Repr

namespace Intent

/-- The addition that a payload asks for, read as a call of the given function whatever its
selector is. -/
def decode (function : LiquidityFunction) (data : Bytes) : Except Fault Intent :=
  match function with
  | .addLiquidity => pair <$> PairAddition.decode data
  | .addLiquidityETH => native <$> NativeAddition.decode data

def legs (i : Intent) (config : Config) : Option Legs :=
  match i with
  | pair addition => addition.legs config
  | native addition => addition.legs config

end Intent

end LiquidityTrigger
