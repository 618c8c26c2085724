import LiquidityTrigger.Liquidity.Intent
import LiquidityTrigger.Token
import LiquidityTrigger.Transaction.Sender

/-!
# The decision

`connect` makes a configuration from settings and asks the node for its network when they name no
chain. `evaluate` takes one transaction through decoding, recovery of its sender, the balance check
and the comparison with the least liquidity, and ends in a purchase, a suppression or a fault.
`process` looks at the selector first; the other two entries take the function as given.
-/

namespace LiquidityTrigger

open Procedure

/-- Makes a configuration from settings. The node is asked before anything is checked. -/
def connect (settings : Settings) : Procedure Config := do
  let chainId ←
    match settings.chainId with
    | some id => pure id
    | none => askNetworkId
  let config ← ofExcept ((settings.validate (some chainId)).mapError SettingsFault.toFault)
  emit (.configured config.chainId config.target)
  return config

def dispatch (tx : Transaction) : Procedure Outcome := do
  emit (.dispatching tx.hash tx.gasPrice)
  match ← tryBuy tx.gasPrice with
  | .ok () => return .dispatched tx.gasPrice
  | .error fault =>
      emit (.purchaseFailed tx.hash fault)
      fail fault

def belowThreshold (tx : Transaction) (diagnostic : Diagnostic) : Procedure Outcome := do
  emit (.diagnosed tx.hash diagnostic)
  return .suppressed (.belowThreshold diagnostic)

/-- Decides on what stands against the target token. Liquidity must exceed what is expected; of the
chain's own currency both the attached and the declared amount must. -/
def weigh (config : Config) (tx : Transaction) : PairedLeg → Procedure Outcome
  | .token token minAmount => do
      if config.minLiquidity < minAmount then dispatch tx
      else
        let symbol ← Token.symbol token
        belowThreshold tx ⟨minAmount, config.minLiquidity, some symbol⟩
  | .native declaredMin => do
      if tx.value ≤ config.minLiquidity then
        belowThreshold tx ⟨tx.value, config.minLiquidity, none⟩
      else if declaredMin ≤ config.minLiquidity then
        emit (.declaredTooLow tx.hash declaredMin)
        return .suppressed (.declaredMinimumTooLow declaredMin config.minLiquidity)
      else dispatch tx

def evaluate (config : Config) (function : LiquidityFunction) (tx : Transaction) :
    Procedure Outcome := do
  let intent ← ofExcept (Intent.decode function tx.data)
  let sender ← ofExcept ((tx.sender config.chainId).mapError SenderRejection.toFault)
  emit (.decoded tx.hash function sender)
  match intent.legs config with
  | none => return .suppressed .notRelevant
  | some legs =>
      let balance ← Token.balanceOf config.target sender
      if balance < legs.minTarget then
        emit (.insufficientBalance tx.hash legs.minTarget balance)
        return .suppressed (.implausibleBalance legs.minTarget balance)
      else weigh config tx legs.paired

def process (config : Config) (tx : Transaction) : Procedure Outcome :=
  match LiquidityFunction.detect tx.data with
  | some function => evaluate config function tx
  | none => pure (.suppressed .unsupportedFunction)

/-- The ways in which a transaction is handed over. -/
inductive Entry where
  /-- By its selector. -/
  | process
  /-- As an addition of two tokens. -/
  | add
  /-- As an addition of a token and the chain's own currency. -/
  | addEth
  deriving DecidableEq, Repr

def Entry.decide (entry : Entry) (config : Config) (tx : Transaction) : Procedure Outcome :=
  match entry with
  | .process => LiquidityTrigger.process config tx
  | .add => evaluate config .addLiquidity tx
  | .addEth => evaluate config .addLiquidityETH tx

end LiquidityTrigger
