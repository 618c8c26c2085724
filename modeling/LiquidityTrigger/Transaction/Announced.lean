import LiquidityTrigger.Transaction

/-!
# Transactions as a node announces them

A node gives a transaction as an object of named fields, with its hash, an optional gas price and an
optional kind, and always with the three numbers of a signature.
-/

namespace LiquidityTrigger

structure AnnouncedTransaction where
  hash : Digest
  nonce : Word
  gasPrice : Option Word
  gas : Word
  recipient : Option Address
  value : Word
  input : Bytes
  kind : Option UInt64
  v : UInt64
  r : Word
  s : Word
  deriving DecidableEq, Repr

/-- The transaction that a node announces; an absent gas price is zero. -/
def AnnouncedTransaction.toTransaction (a : AnnouncedTransaction) : Transaction where
  hash := a.hash
  nonce := a.nonce
  gasPrice := a.gasPrice.getD 0
  gas := a.gas
  recipient := a.recipient
  value := a.value
  data := a.input
  kind := a.kind
  signature := Signature.ofNumbers a.v a.r a.s

end LiquidityTrigger
