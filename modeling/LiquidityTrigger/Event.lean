import LiquidityTrigger.Liquidity.Calldata
import LiquidityTrigger.Fault
import LiquidityTrigger.Outcome
import LiquidityTrigger.Text.Hex

/-!
# The event log

Every decision leaves an event from which it can be reconstructed. An event has a level, a message
and named texts.
-/

namespace LiquidityTrigger

inductive Level where
  | debug
  | info
  | warn
  deriving DecidableEq, Repr

def Level.name : Level → String
  | .debug => "DEBUG"
  | .info => "INFO"
  | .warn => "WARN"

inductive Event where
  | configured (chainId : UInt64) (target : Address)
  /-- An addition of liquidity and its sender were recognised. -/
  | decoded (tx : Digest) (function : LiquidityFunction) (sender : Address)
  | insufficientBalance (tx : Digest) (declared balance : Word)
  /-- Too little stands against the target token. -/
  | diagnosed (tx : Digest) (diagnostic : Diagnostic)
  /-- The declared minimum of the chain's own currency is too low. -/
  | declaredTooLow (tx : Digest) (declared : Word)
  | dispatching (tx : Digest) (gasPrice : Word)
  | purchaseFailed (tx : Digest) (fault : Fault)
  deriving DecidableEq, Repr

namespace Event

def level : Event → Level
  | configured .. | decoded .. | insufficientBalance .. | declaredTooLow .. => .debug
  | diagnosed .. | dispatching .. => .info
  | purchaseFailed .. => .warn

def message : Event → String
  | configured .. => "sniper configurado"
  | decoded .. => "adição de liquidez decodificada"
  | insufficientBalance .. => "saldo do remetente insuficiente"
  | diagnosed _ diagnostic => diagnostic.text
  | declaredTooLow .. => "mínimo nativo declarado abaixo do esperado"
  | dispatching .. => "disparando snipe"
  | purchaseFailed .. => "executor de snipe falhou"

def fields : Event → List (String × String)
  | configured chainId target =>
      [("chain_id", Decimal.text chainId.toNat), ("target", target.hex)]
  | decoded tx function sender =>
      [("tx", tx.hex), ("function", function.name), ("sender", sender.hex)]
  | insufficientBalance tx declared balance =>
      [("tx", tx.hex), ("declared", Decimal.text declared.toNat),
        ("balance", Decimal.text balance.toNat)]
  | diagnosed tx _ => [("tx", tx.hex)]
  | declaredTooLow tx declared => [("tx", tx.hex), ("declared", Decimal.text declared.toNat)]
  | dispatching tx gasPrice => [("tx", tx.hex), ("gas_price", Decimal.text gasPrice.toNat)]
  | purchaseFailed tx fault => [("tx", tx.hex), ("error", fault.message)]

end Event

end LiquidityTrigger
