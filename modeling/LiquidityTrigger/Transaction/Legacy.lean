import LiquidityTrigger.Fault
import LiquidityTrigger.Keccak
import LiquidityTrigger.Rlp
import LiquidityTrigger.Transaction

/-!
# The wire form of a legacy transaction

A list of nine items: nonce, gas price, gas, recipient, value, payload, `v`, `r`, `s`. `encode`
writes it and `decode` reads it; the hash of a decoded transaction is the digest of all the bytes
that were given.

The first seven items must lie inside the list, `r` and `s` are read onward. The order in which the
items are read decides which of several faults is reported.
-/

namespace LiquidityTrigger.Legacy

open Rlp

structure Fields where
  nonce : Word
  gasPrice : Word
  gas : Word
  recipient : Option Address
  value : Word
  data : Bytes
  v : UInt64
  r : Word
  s : Word
  deriving DecidableEq, Repr

/-- The encoding of a recipient: the empty string when there is none. -/
def encodeRecipient (recipient : Option Address) : Bytes :=
  encodeBytes (recipient.elim [] Address.toBytes)

def encode (f : Fields) : Bytes :=
  encodeList
    [encodeNat f.nonce.toNat, encodeNat f.gasPrice.toNat, encodeNat f.gas.toNat,
      encodeRecipient f.recipient, encodeNat f.value.toNat, encodeBytes f.data,
      encodeNat f.v.toNat, encodeNat f.r.toNat, encodeNat f.s.toNat]

/-- The transaction that nine values make, under the hash of its bytes. -/
def Fields.toTransaction (f : Fields) (hash : Digest) : Transaction where
  hash := hash
  nonce := f.nonce
  gasPrice := f.gasPrice
  gas := f.gas
  recipient := f.recipient
  value := f.value
  data := f.data
  kind := none
  signature := Signature.ofNumbers f.v f.r f.s

inductive Rejection where
  | notList
  | itemCount (found : Nat)
  | item (fault : ReadFault)
  deriving DecidableEq, Repr

def Rejection.detail : Rejection → String
  | .notList => "transação legada deve ser uma lista"
  | .itemCount found =>
      "esperado 9 campos na transação legada, encontrado " ++ Decimal.text found
  | .item fault => fault.name

def Rejection.toFault (rejection : Rejection) : Fault := .rlp rejection.detail

def readWord (bytes : Bytes) : Except ReadFault Word := do
  return BitVec.ofNat 256 (← readNat 32 bytes)

def readRecipient (bytes : Bytes) : Except ReadFault (Option Address) := do
  if isEmptyItem bytes then return none
  else return some (Address.ofBytes (← readExact 20 bytes))

def readFields (raw : Bytes) : Except ReadFault Fields := do
  let within ← inside raw
  let behind ← onward raw
  let recipient ← readRecipient (← item 3 within)
  let r ← readWord (← item 7 behind)
  let s ← readWord (← item 8 behind)
  let v ← readCounter (← item 6 within)
  let nonce ← readWord (← item 0 within)
  let gasPrice ← readWord (← item 1 within)
  let gas ← readWord (← item 2 within)
  let value ← readWord (← item 4 within)
  let data ← readBytes (← item 5 within)
  return ⟨nonce, gasPrice, gas, recipient, value, data, v, r, s⟩

def decode (raw : Bytes) : Except Rejection Transaction :=
  if !isList raw then .error .notList
  else if itemCount raw ≠ 9 then .error (.itemCount (itemCount raw))
  else
    match readFields raw with
    | .ok fields => .ok (fields.toTransaction (keccak256 raw))
    | .error fault => .error (.item fault)

end LiquidityTrigger.Legacy
