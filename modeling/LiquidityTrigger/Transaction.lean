import LiquidityTrigger.Word

/-!
# Transactions

A signed transaction as the trigger sees it. The kind is absent or zero for legacy transactions, the
recipient is absent when a contract is created, and the signature is absent when both of its numbers
were zero.
-/

namespace LiquidityTrigger

structure Signature where
  v : UInt64
  r : Word
  s : Word
  deriving DecidableEq, Repr

structure Transaction where
  hash : Digest
  nonce : Word
  gasPrice : Word
  gas : Word
  recipient : Option Address
  value : Word
  data : Bytes
  kind : Option UInt64
  signature : Option Signature
  deriving DecidableEq, Repr

/-- The first four bytes of a payload, which name the function it calls. -/
def selectorOf (data : Bytes) : Option Bytes := if 4 ≤ data.length then some (data.take 4) else none

def Transaction.selector (tx : Transaction) : Option Bytes := selectorOf tx.data

/-- A signature, unless both of its numbers are zero. -/
def Signature.ofNumbers (v : UInt64) (r s : Word) : Option Signature :=
  if r = 0 ∧ s = 0 then none else some ⟨v, r, s⟩

end LiquidityTrigger
