import LiquidityTrigger.Proofs.Rlp.Encoding
import LiquidityTrigger.Transaction.Sender

/-!
# What is signed

The bytes that are signed determine the six values of the transaction and the chain, if any. Five of
the values fit the short form, so each is told from what stands behind it. The payload can have any
length, but the only bytes behind it are those that name the chain, and they are few.
-/

namespace LiquidityTrigger

open Rlp

theorem encodeRecipient_append_inj {a b : Option Address} {s t : Bytes}
    (h : Legacy.encodeRecipient a ++ s = Legacy.encodeRecipient b ++ t) : a = b ∧ s = t := by
  have hshort : ∀ r : Option Address, (r.elim [] Address.toBytes).length ≤ greatestShort := by
    intro r
    cases r with
    | none => exact Nat.zero_le _
    | some address => exact Nat.le_trans (Nat.le_of_eq address.length_toBytes) (by decide)
  obtain ⟨hbytes, hbehind⟩ := encodeBytes_append_inj_of_short (hshort a) (hshort b) h
  refine ⟨?_, hbehind⟩
  have hlength := congrArg List.length hbytes
  cases a with
  | none =>
      cases b with
      | none => rfl
      | some b => simp at hlength
  | some a =>
      cases b with
      | none => simp at hlength
      | some b => rw [Address.toBytes_injective hbytes]

/-- The bytes behind the payload: none, or the chain's id and two zeros. -/
def chainBytes (chainId : Option UInt64) : Bytes :=
  chainId.elim [] fun id => encodeNat id.toNat ++ [0x80, 0x80]

private theorem chain_lt (id : UInt64) : id.toNat < 2 ^ 256 := Nat.lt_trans id.toNat_lt (by decide)

theorem length_chainBytes_lt (chainId : Option UInt64) : (chainBytes chainId).length < 255 := by
  cases chainId with
  | none => decide
  | some id =>
      have hid := length_encodeNat_le (chain_lt id)
      rw [chainBytes, Option.elim_some, List.length_append, List.length_cons, List.length_singleton]
      omega

theorem chainBytes_injective {c d : Option UInt64} (h : chainBytes c = chainBytes d) : c = d := by
  cases c with
  | none =>
      cases d with
      | none => rfl
      | some d => simp [chainBytes] at h
  | some c =>
      cases d with
      | none => simp [chainBytes] at h
      | some d => rw [UInt64.toNat_inj.mp (encodeNat_append_inj (chain_lt c) (chain_lt d) h).1]

def Transaction.signedItems (tx : Transaction) (c : Option UInt64) : Bytes :=
  encodeNat tx.nonce.toNat ++ (encodeNat tx.gasPrice.toNat ++ (encodeNat tx.gas.toNat ++
    (Legacy.encodeRecipient tx.recipient ++ (encodeNat tx.value.toNat ++
      (encodeBytes tx.data ++ chainBytes c)))))

theorem preimage_eq (tx : Transaction) (c : Option UInt64) :
    tx.preimage c = encodeList [tx.signedItems c] := by
  have hzero : encodeNat 0 = [0x80] := by decide
  cases c with
  | none => simp [Transaction.preimage, Transaction.signedItems, encodeList, chainBytes]
  | some id => simp [Transaction.preimage, Transaction.signedItems, encodeList, chainBytes, hzero]

theorem signedItems_unique {t u : Transaction} {c d : Option UInt64}
    (h : t.signedItems c = u.signedItems d) :
    t.nonce = u.nonce ∧ t.gasPrice = u.gasPrice ∧ t.gas = u.gas ∧ t.recipient = u.recipient ∧
      t.value = u.value ∧ t.data = u.data ∧ c = d := by
  obtain ⟨hnonce, h⟩ := encodeWord_append_inj h
  obtain ⟨hgasPrice, h⟩ := encodeWord_append_inj h
  obtain ⟨hgas, h⟩ := encodeWord_append_inj h
  obtain ⟨hrecipient, h⟩ := encodeRecipient_append_inj h
  obtain ⟨hvalue, h⟩ := encodeWord_append_inj h
  -- The payload may be long, so here it matters how little the chain takes.
  obtain ⟨hdata, h⟩ :=
    encodeBytes_append_inj_of_close (length_chainBytes_lt c) (length_chainBytes_lt d) h
  exact ⟨hnonce, hgasPrice, hgas, hrecipient, hvalue, hdata, chainBytes_injective h⟩

/-- Two transactions are signed over the same bytes exactly when their six values and the chains, if
any, are the same. -/
theorem preimage_eq_iff (t u : Transaction) (c d : Option UInt64) :
    t.preimage c = u.preimage d ↔
      t.nonce = u.nonce ∧ t.gasPrice = u.gasPrice ∧ t.gas = u.gas ∧ t.recipient = u.recipient ∧
        t.value = u.value ∧ t.data = u.data ∧ c = d := by
  rw [preimage_eq, preimage_eq]
  constructor
  · intro h
    have hitems := flatten_unique h
    rw [List.flatten_singleton, List.flatten_singleton] at hitems
    exact signedItems_unique hitems
  · intro h
    obtain ⟨hnonce, hgasPrice, hgas, hrecipient, hvalue, hdata, hchain⟩ := h
    rw [Transaction.signedItems, Transaction.signedItems, hnonce, hgasPrice, hgas, hrecipient, hvalue,
      hdata, hchain]

end LiquidityTrigger
