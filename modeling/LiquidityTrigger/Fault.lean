import LiquidityTrigger.Text.Numeral

/-!
# Faults

What can go wrong in an evaluation or in one of the services it uses. The kind of a fault is part of
every answer, and `Fault.message` gives its text.
-/

namespace LiquidityTrigger

inductive Fault where
  /-- A node or a contract did not give a usable answer. -/
  | node (detail : String)
  /-- A call's payload is shorter than its layout. -/
  | calldata (layout : String) (expected actual : Nat)
  /-- The bytes of a transaction are malformed. -/
  | rlp (detail : String)
  | encoding (detail : String)
  /-- No sender can be recovered from a signature. -/
  | signature (detail : String)
  | validation (detail : String)
  | timeout (detail : String)
  | executor (detail : String)
  | other (detail : String)
  deriving DecidableEq, Repr

def Fault.message : Fault → String
  | .node detail => "Erro de RPC: " ++ detail
  | .calldata layout expected actual =>
      "Erro de decodificação: calldata de " ++ layout ++ " exige " ++ Decimal.text expected
        ++ " bytes, recebido " ++ Decimal.text actual
  | .rlp detail => "RLP inválido: " ++ detail
  | .encoding detail => "Erro de codificação: " ++ detail
  | .signature detail => "Assinatura inválida: " ++ detail
  | .validation detail => "Erro de validação: " ++ detail
  | .timeout detail => "Timeout: " ++ detail
  | .executor detail => "Falha no executor: " ++ detail
  | .other detail => detail

end LiquidityTrigger
