import LiquidityTrigger.FixedPoint

/-!
# Outcomes

An evaluation that does not fail ends in a purchase or in a suppression with its reason. Too little
liquidity is reported with a diagnostic, the only reason with a text of its own.
-/

namespace LiquidityTrigger

/-- Liquidity below what the configuration asks for; the symbol is the paired token's, and absent
for the chain's own currency. -/
structure Diagnostic where
  observed : Word
  expected : Word
  symbol : Option String
  deriving DecidableEq, Repr

def Diagnostic.text (d : Diagnostic) : String :=
  let opening :=
    match d.symbol with
    | some symbol => "liquidity added but lower than expected (" ++ symbol ++ "): "
    | none => "native liquidity added but lower than expected: "
  opening ++ formatEther d.observed ++ " vs " ++ formatEther d.expected ++ " expected"

/-- Why an addition of liquidity triggers no purchase. -/
inductive Suppression where
  /-- The call is not one of the two functions. -/
  | unsupportedFunction
  /-- The configured pair is not involved. -/
  | notRelevant
  /-- The sender owns less of the target than it promises. -/
  | implausibleBalance (declared balance : Word)
  /-- Too little stands against the target. -/
  | belowThreshold (diagnostic : Diagnostic)
  /-- Enough is attached, but too little of it is promised. -/
  | declaredMinimumTooLow (declared expected : Word)
  deriving DecidableEq, Repr

inductive Outcome where
  /-- The purchase was made, with the transaction's gas price. -/
  | dispatched (gasPrice : Word)
  | suppressed (reason : Suppression)
  deriving DecidableEq, Repr

def Outcome.isDispatched : Outcome → Bool
  | .dispatched _ => true
  | .suppressed _ => false

def Outcome.suppression : Outcome → Option Suppression
  | .dispatched _ => none
  | .suppressed reason => some reason

def Outcome.diagnostic : Outcome → Option Diagnostic
  | .suppressed (.belowThreshold d) => some d
  | _ => none

end LiquidityTrigger
