import LiquidityTrigger.Fault
import LiquidityTrigger.Secp256k1
import LiquidityTrigger.Transaction.Legacy

/-!
# The sender of a transaction

A legacy transaction is signed over the digest of its `preimage`: six items, or nine when the
signature is bound to a chain. `v` says which, and which of two points the signature hides.
Of a signature and its twin, in which `s` is replaced by its negative, only the one with the smaller
`s` is accepted.
-/

namespace LiquidityTrigger

open Rlp

/-- The bytes that are signed: nonce, gas price, gas, recipient, value and payload, and behind them,
for a signature bound to a chain, the chain's id and two zeros. -/
def Transaction.preimage (tx : Transaction) (chainId : Option UInt64) : Bytes :=
  encodeList
    ([encodeNat tx.nonce.toNat, encodeNat tx.gasPrice.toNat, encodeNat tx.gas.toNat,
        Legacy.encodeRecipient tx.recipient, encodeNat tx.value.toNat, encodeBytes tx.data]
      ++ chainId.elim [] fun id => [encodeNat id.toNat, encodeNat 0, encodeNat 0])

def Transaction.signingHash (tx : Transaction) (chainId : Option UInt64) : Digest :=
  keccak256 (tx.preimage chainId)

inductive SenderRejection where
  | unsupportedKind (kind : UInt64)
  | unsigned
  | foreignChain (signed configured : UInt64)
  | invalidV (v : UInt64)
  | zeroNumber
  | highS
  | invalidRecoveryId (id : Nat)
  | malformed
  deriving DecidableEq, Repr

def SenderRejection.detail : SenderRejection → String
  | .unsupportedKind kind =>
      "tipo de transação " ++ Decimal.text kind.toNat ++ " não suportado"
  | .unsigned => "transação sem assinatura"
  | .foreignChain signed configured =>
      "chain id da assinatura (" ++ Decimal.text signed.toNat ++ ") difere do configurado ("
        ++ Decimal.text configured.toNat ++ ")"
  | .invalidV v => "valor v inválido: " ++ Decimal.text v.toNat
  | .zeroNumber => "r ou s igual a zero"
  | .highS => "valor s acima de n/2"
  | .invalidRecoveryId id => "recovery id inválido: " ++ Decimal.text id
  | .malformed => "malformed signature"

def SenderRejection.toFault (rejection : SenderRejection) : Fault := .signature rejection.detail

/-- The address of a public key: the last 20 bytes of the digest of its two coordinates. -/
def Address.ofPublicKey (key : Secp256k1.Point) : Address :=
  Address.ofBytes ((keccak256 (Bytes.ofNat 32 key.x ++ Bytes.ofNat 32 key.y)).toBytes.drop 12)

/-- The address whose key signed a digest. The recovery id is zero or one and tells which of two
points the signature hides. -/
def recoverSigner (hash : Digest) (r s : Word) (recoveryId : Nat) :
    Except SenderRejection Address :=
  if r = 0 ∨ s = 0 then .error .zeroNumber
  else if Secp256k1.halfOrder < s.toNat then .error .highS
  else if 1 < recoveryId then .error (.invalidRecoveryId recoveryId)
  else
    match Secp256k1.recover hash.bits.toNat r.toNat s.toNat (recoveryId = 1) with
    | some key => .ok (Address.ofPublicKey key)
    | none => .error .malformed

/-- The digest that a signature's `v` refers to, and the recovery id in it. -/
def Transaction.signedDigest (tx : Transaction) (v chainId : UInt64) :
    Except SenderRejection (Digest × UInt64) :=
  if v = 27 ∨ v = 28 then .ok (tx.signingHash none, v - 27)
  else if 35 ≤ v then
    let signedChain := (v - 35) / 2
    if signedChain ≠ chainId then .error (.foreignChain signedChain chainId)
    else .ok (tx.signingHash (some chainId), v - 35 - chainId * 2)
  else .error (.invalidV v)

def Transaction.sender (tx : Transaction) (chainId : UInt64) : Except SenderRejection Address :=
  match tx.kind.filter (· ≠ 0) with
  | some kind => .error (.unsupportedKind kind)
  | none =>
      match tx.signature with
      | none => .error .unsigned
      | some sig => do
          let (hash, recoveryId) ← tx.signedDigest sig.v chainId
          recoverSigner hash sig.r sig.s recoveryId.toNat

end LiquidityTrigger
