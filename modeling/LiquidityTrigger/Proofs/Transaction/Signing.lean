import LiquidityTrigger.Proofs.Transaction.Legacy
import LiquidityTrigger.Proofs.Transaction.Sender

/-!
# From a signature to its signer

Whoever writes six values and a signature of their digest in the wire form is found again: decoding
gives the same six values, so the same bytes are hashed, and `v` leads back to the chain that was
signed and to the parity of the hidden point.
-/

namespace LiquidityTrigger

/-- A public key as it is serialized: a prefix byte and the two coordinates. -/
def Secp256k1.Point.serialized (key : Secp256k1.Point) : Bytes :=
  0x04 :: (Bytes.ofNat 32 key.x ++ Bytes.ofNat 32 key.y)

theorem Address.toBytes_ofPublicKey (key : Secp256k1.Point) :
    (Address.ofPublicKey key).toBytes = (keccak256 (key.serialized.drop 1)).toBytes.drop 12 := by
  refine Address.toBytes_ofBytes ?_
  rw [List.length_drop, Digest.length_toBytes]

/-- The nine values of a transaction's wire form under a signature. -/
def Transaction.fieldsUnder (tx : Transaction) (v : UInt64) (r s : Word) : Legacy.Fields where
  nonce := tx.nonce
  gasPrice := tx.gasPrice
  gas := tx.gas
  recipient := tx.recipient
  value := tx.value
  data := tx.data
  v := v
  r := r
  s := s

section

variable {tx : Transaction} {v c : UInt64} {r s : Word} {hash : Digest}

theorem signingHash_fieldsUnder (chain : Option UInt64) :
    ((tx.fieldsUnder v r s).toTransaction hash).signingHash chain = tx.signingHash chain := rfl

/-- A transaction under a signature of its own digest has the address of the signing key as sender. -/
theorem sender_fieldsUnder {chain : Option UInt64} {odd : Bool} {key : Secp256k1.Point}
    (hchain : chain = none ∨ chain = some c) (hnames : Names v chain odd)
    (hlow : s.toNat ≤ Secp256k1.halfOrder)
    (hkey : Secp256k1.recover (tx.signingHash chain).bits.toNat r.toNat s.toNat odd = some key) :
    ((tx.fieldsUnder v r s).toTransaction hash).sender c = .ok (Address.ofPublicKey key) := by
  have hr : r ≠ 0 := by
    rintro rfl
    exact absurd (Secp256k1.bounds_of_recover hkey).1 (Nat.lt_irrefl 0)
  have hsignature : ((tx.fieldsUnder v r s).toTransaction hash).signature = some ⟨v, r, s⟩ :=
    if_neg fun hzero => hr hzero.1
  rw [sender_eq_ok_iff]
  exact ⟨.inl rfl, ⟨v, r, s⟩, chain, odd, key, hsignature, hchain, hnames, hlow,
    by rwa [signingHash_fieldsUnder], rfl⟩

end

/-- The wire form of values that a key has signed is decoded to a transaction of the key's own address.
-/
theorem signer_of_encode (tx : Transaction) (c v : UInt64) (chain : Option UInt64) (odd : Bool)
    (r s : Word) (key : Secp256k1.Point)
    (hv : chain = some c ∧ v.toNat = 35 + 2 * c.toNat + odd.toNat ∨
      chain = none ∧ v.toNat = 27 + odd.toNat)
    (hlow : s.toNat ≤ (Secp256k1.groupOrder - 1) / 2)
    (hkey : Secp256k1.recover (tx.signingHash chain).bits.toNat r.toNat s.toNat odd = some key)
    (hlength : (Legacy.encode (tx.fieldsUnder v r s)).length < 2 ^ 64) :
    ∃ decoded a, Legacy.decode (Legacy.encode (tx.fieldsUnder v r s)) = .ok decoded ∧
      decoded.sender c = .ok a ∧
      a.toBytes = (keccak256 (key.serialized.drop 1)).toBytes.drop 12 := by
  have hnames : (chain = none ∨ chain = some c) ∧ Names v chain odd := by
    rcases hv with ⟨rfl, hv⟩ | ⟨rfl, hv⟩
    · exact ⟨.inr rfl, hv⟩
    · exact ⟨.inl rfl, hv⟩
  rw [← Secp256k1.halfOrder_eq] at hlow
  exact ⟨_, _, Legacy.decode_encode hlength, sender_fieldsUnder hnames.1 hnames.2 hlow hkey,
    Address.toBytes_ofPublicKey key⟩

def sampleKey : Secp256k1.Point where
  x := 0x4bc2a31265153f07e70e0bab08724e6b85e217f8cd628ceb62974247bb493382
  y := 0xce28cab79ad7119ee1ad3ebcdb98a16805211530ecc6cfefa1b88e6dff99232a

theorem sampleTransfer_signer :
    ∃ decoded a, Legacy.decode (Legacy.encode (sampleTransfer.fieldsUnder sampleSignature.v
        sampleSignature.r sampleSignature.s)) = .ok decoded ∧
      decoded.sender 1 = .ok a ∧
      a.toBytes = (keccak256 (sampleKey.serialized.drop 1)).toBytes.drop 12 :=
  signer_of_encode sampleTransfer 1 sampleSignature.v (some 1) false sampleSignature.r
    sampleSignature.s sampleKey (.inl ⟨rfl, by decide⟩) (by decide) (by decide +kernel)
    (by decide +kernel)

end LiquidityTrigger
