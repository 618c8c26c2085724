import LiquidityTrigger.Proofs.Evaluation.Agreement
import LiquidityTrigger.Proofs.Transaction.Sender

/-!
# Twins of signatures

Whoever sees a signature can make a second one of it: `s` is replaced by its negative modulo the group
order and the hidden point by its mirror image, so `v` changes its parity. The group order is odd, so of
`s` and its negative exactly one is at most half of it, and the bound on `s` lets only that one through.
Hence of a transaction and its twin at most one has a sender, and an evaluation of the other one ends
before anything is asked of anybody.
-/

namespace LiquidityTrigger

/-! ### A number and its negative -/

namespace Secp256k1

/-- The negative of a number modulo the group order. -/
def negated (s : Word) : Word := BitVec.ofNat 256 (groupOrder - s.toNat)

theorem groupOrder_eq : groupOrder = 2 * halfOrder + 1 := by decide

theorem toNat_negated (s : Word) : (negated s).toNat = groupOrder - s.toNat := by
  have hlt : groupOrder < 2 ^ 256 := by decide
  rw [negated, BitVec.toNat_ofNat]
  exact Nat.mod_eq_of_lt (Nat.lt_of_le_of_lt (Nat.sub_le _ _) hlt)

theorem low_iff_negated {s : Word} (h : s.toNat < groupOrder) :
    s.toNat ≤ halfOrder ↔ ¬ (negated s).toNat ≤ halfOrder := by
  rw [toNat_negated]
  have hodd := groupOrder_eq
  omega

theorem not_low_of_low {s : Word} (h : s.toNat ≤ halfOrder) : ¬ (negated s).toNat ≤ halfOrder := by
  have hodd := groupOrder_eq
  exact (low_iff_negated (by omega)).mp h

end Secp256k1

open Secp256k1 (halfOrder groupOrder negated)

/-! ### Recovery from twins -/

section

variable {hash : Digest} {r s : Word} {id : Nat} {a : Address}

/-- With numbers other than zero, a high `s` is the first fault that is looked for. -/
theorem recoverSigner_eq_highS_iff (hr : r ≠ 0) (hs : s ≠ 0) :
    recoverSigner hash r s id = .error .highS ↔ ¬ s.toNat ≤ halfOrder := by
  have hzero : ¬ (r = 0 ∨ s = 0) := by
    intro h
    exact h.elim hr hs
  rw [recoverSigner, if_neg hzero]
  by_cases hlow : s.toNat ≤ halfOrder
  · rw [if_neg (Nat.not_lt.mpr hlow)]
    refine iff_of_false ?_ (not_not_intro hlow)
    intro h
    split at h
    · cases h
    · split at h <;> cases h
  · rw [if_pos (Nat.not_le.mp hlow)]
    exact iff_of_true rfl hlow

theorem low_of_recoverSigner (h : recoverSigner hash r s id = .ok a) : s.toNat ≤ halfOrder := by
  by_contra hhigh
  rw [recoverSigner] at h
  split at h
  · cases h
  · rw [if_pos (Nat.not_le.mp hhigh)] at h
    cases h

theorem recoverSigner_twin (h : recoverSigner hash r s id = .ok a) (id' : Nat) (b : Address) :
    recoverSigner hash r (negated s) id' ≠ .ok b := by
  intro htwin
  exact Secp256k1.not_low_of_low (low_of_recoverSigner h) (low_of_recoverSigner htwin)

end

/-! ### Twins of transactions -/

/-- A `v` of the other parity: 27 and 28 change places, and so do the two values of a chain. -/
def flipped (v : UInt64) : UInt64 := if v % 2 = 1 then v + 1 else v - 1

/-- The other signature that names the same point up to its sign. -/
def Signature.twin (sig : Signature) : Signature := ⟨flipped sig.v, sig.r, negated sig.s⟩

/-- A transaction under the twin of its signature, whose bytes have a hash of their own. -/
def Transaction.twin (tx : Transaction) (hash : Digest) : Transaction :=
  { tx with hash := hash, signature := tx.signature.map Signature.twin }

/-- The twin names the same chain, or none, and the other of two points. -/
theorem names_flipped {v : UInt64} {chain : Option UInt64} {odd : Bool} (h : Names v chain odd)
    (hroom : v.toNat + 1 < 2 ^ 64) : Names (flipped v) chain (!odd) := by
  have hparity : v % 2 = 1 ↔ v.toNat % 2 = 1 := by
    rw [← UInt64.toNat_inj, UInt64.toNat_mod]
    rfl
  have hbase : chain.elim 27 (fun id => 35 + 2 * id.toNat) % 2 = 1 ∧
      27 ≤ chain.elim 27 fun id => 35 + 2 * id.toNat := by
    cases chain with
    | none => decide
    | some id =>
        show (35 + 2 * id.toNat) % 2 = 1 ∧ 27 ≤ 35 + 2 * id.toNat
        omega
  unfold Names at h ⊢
  -- The base is odd, so the parity of `v` says which of the two points is named.
  cases odd with
  | false =>
      have hodd : v % 2 = 1 := hparity.mpr (by simp at h; omega)
      have hnext : (v + 1).toNat = v.toNat + 1 := by
        rw [UInt64.toNat_add]
        exact Nat.mod_eq_of_lt hroom
      rw [flipped, if_pos hodd, hnext, h]
      rfl
  | true =>
      have heven : ¬ v % 2 = 1 := fun hodd => by
        have := hparity.mp hodd
        simp at h
        omega
      have hone : (1 : UInt64) ≤ v := UInt64.le_iff_toNat_le.mpr (by simp at h; show 1 ≤ v.toNat; omega)
      rw [flipped, if_neg heven, UInt64.toNat_sub_of_le v 1 hone, h]
      rfl

theorem low_of_sender {tx : Transaction} {c : UInt64} {a : Address} (h : tx.sender c = .ok a) :
    ∃ sig, tx.signature = some sig ∧ sig.s.toNat ≤ halfOrder := by
  obtain ⟨-, sig, chain, odd, key, hsig, -, -, hlow, -⟩ := sender_eq_ok_iff.mp h
  exact ⟨sig, hsig, hlow⟩

theorem sender_twin {tx : Transaction} {c : UInt64} {a : Address} (h : tx.sender c = .ok a)
    (hash : Digest) (c' : UInt64) : ∃ rejection, (tx.twin hash).sender c' = .error rejection := by
  obtain ⟨sig, hsig, hlow⟩ := low_of_sender h
  cases htwin : (tx.twin hash).sender c' with
  | error rejection => exact ⟨rejection, rfl⟩
  | ok b =>
      obtain ⟨sig', hsig', hlow'⟩ := low_of_sender htwin
      have hmap : (tx.twin hash).signature = some sig.twin := by
        rw [Transaction.twin, hsig]
        rfl
      obtain rfl : sig.twin = sig' := Option.some.inj (hmap.symm.trans hsig')
      exact absurd hlow' (Secp256k1.not_low_of_low hlow)

/-! ### Evaluations of twins -/

section

variable {config : Config} {tx : Transaction} {rejection : SenderRejection}

theorem evaluate_of_senderless (h : tx.sender config.chainId = .error rejection)
    (function : LiquidityFunction) : ∃ fault, evaluate config function tx = .fail fault := by
  rw [evaluate, h]
  cases Intent.decode function tx.data with
  | error fault => exact ⟨fault, rfl⟩
  | ok intent => exact ⟨rejection.toFault, rfl⟩

theorem run_of_senderless (h : tx.sender config.chainId = .error rejection) (entry : Entry) {σ : Type}
    (services : Services σ) (s : σ) : ((entry.decide config tx).run services s).2 = s := by
  have hevaluate (function : LiquidityFunction) :
      ((evaluate config function tx).run services s).2 = s := by
    obtain ⟨fault, hfail⟩ := evaluate_of_senderless h function
    rw [hfail]
    rfl
  cases entry with
  | process =>
      show ((LiquidityTrigger.process config tx).run services s).2 = s
      rw [LiquidityTrigger.process]
      cases LiquidityFunction.detect tx.data with
      | none => rfl
      | some function => exact hevaluate function
  | add => exact hevaluate .addLiquidity
  | addEth => exact hevaluate .addLiquidityETH

theorem purchasesIn_of_senderless (h : tx.sender config.chainId = .error rejection) (entry : Entry)
    (provider : Provider) (executor : Reply Unit) (ctx : Context) (start : Nat) :
    purchasesIn ((entry.decide config tx).play provider executor ctx start).trace = [] := by
  have hrun := run_of_senderless h entry (scripted provider executor ctx) ⟨start, []⟩
  show purchasesIn ((entry.decide config tx).run (scripted provider executor ctx) ⟨start, []⟩).2.trace = []
  rw [hrun]
  rfl

end

/-- Of a transaction and its twin at most one has a sender, and the other one asks nothing of any service.
-/
theorem twins_exclude_each_other :
    (halfOrder = 0x7FFFFFFFFFFFFFFFFFFFFFFFFFFFFFFF5D576E7357A4501DDFE92F46681B20A0 ∧
      halfOrder = (groupOrder - 1) / 2 ∧ groupOrder % 2 = 1) ∧
    (∀ s : Word, 0 < s.toNat → s.toNat < groupOrder →
      (negated s).toNat = groupOrder - s.toNat ∧
      (s.toNat ≤ halfOrder ↔ ¬ (negated s).toNat ≤ halfOrder)) ∧
    (∀ hash r s id, r ≠ 0 → s ≠ 0 →
      (recoverSigner hash r s id = .error .highS ↔ ¬ s.toNat ≤ halfOrder)) ∧
    (∀ hash r s id, ¬ ((∃ a, recoverSigner hash r s id = .ok a) ∧
      ∃ b, recoverSigner hash r (negated s) (1 - id) = .ok b)) ∧
    (∀ hash r s id fault,
      (recoverSigner hash r s id).mapError SenderRejection.toFault = .error fault →
      ∃ detail, fault = .signature detail) ∧
    (∀ v chain odd, Names v chain odd → v.toNat + 1 < 2 ^ 64 → Names (flipped v) chain (!odd)) ∧
    ∀ (tx : Transaction) (hash : Digest),
      (∀ c c', ¬ ((∃ a, tx.sender c = .ok a) ∧ ∃ b, (tx.twin hash).sender c' = .ok b)) ∧
      ∀ (entry entry' : Entry) (config config' : Config),
        ((∀ (σ : Type) (services : Services σ) (s : σ),
            ((entry.decide config tx).run services s).2 = s) ∧
          ∀ provider executor ctx start,
            purchasesIn ((entry.decide config tx).play provider executor ctx start).trace = []) ∨
        ((∀ (σ : Type) (services : Services σ) (s : σ),
            ((entry'.decide config' (tx.twin hash)).run services s).2 = s) ∧
          ∀ provider executor ctx start,
            purchasesIn
              ((entry'.decide config' (tx.twin hash)).play provider executor ctx start).trace = []) := by
  refine ⟨⟨by decide, Secp256k1.halfOrder_eq, by decide⟩, ?_, ?_, ?_, ?_, ?_, ?_⟩
  · intro s _ hs
    exact ⟨Secp256k1.toNat_negated s, Secp256k1.low_iff_negated hs⟩
  · intro hash r s id hr hs
    exact recoverSigner_eq_highS_iff hr hs
  · rintro hash r s id ⟨⟨a, ha⟩, b, hb⟩
    exact recoverSigner_twin ha (1 - id) b hb
  · intro hash r s id fault h
    cases hsigner : recoverSigner hash r s id with
    | ok a =>
        rw [hsigner] at h
        cases h
    | error rejection =>
        rw [hsigner] at h
        cases h
        exact ⟨rejection.detail, rfl⟩
  · intro v chain odd hnames hroom
    exact names_flipped hnames hroom
  · intro tx hash
    constructor
    · rintro c c' ⟨⟨a, ha⟩, b, hb⟩
      obtain ⟨rejection, htwin⟩ := sender_twin ha hash c'
      rw [htwin] at hb
      cases hb
    · intro entry entry' config config'
      cases hsender : tx.sender config.chainId with
      | error rejection =>
          exact .inl ⟨fun _ services s => run_of_senderless hsender entry services s,
            purchasesIn_of_senderless hsender entry⟩
      | ok a =>
          obtain ⟨rejection, htwin⟩ := sender_twin hsender hash config'.chainId
          exact .inr ⟨fun _ services s => run_of_senderless htwin entry' services s,
            purchasesIn_of_senderless htwin entry'⟩

theorem sampleTransfer_twin :
    sampleTransfer.sender 1 = .ok ⟨0x9d8a62f656a8d1615c1294fd71e9cfb3e4855a4f⟩ ∧
      (0 < sampleSignature.s.toNat ∧ sampleSignature.s.toNat < groupOrder) ∧
      Names sampleSignature.twin.v (some 1) true ∧
      recoverSigner .zero sampleSignature.r sampleSignature.twin.s 1 = .error .highS ∧
      (∃ detail, SenderRejection.highS.toFault = .signature detail) ∧
      ¬ ∃ b, (sampleTransfer.twin .zero).sender 1 = .ok b := by
  have hsender : sampleTransfer.sender 1 = .ok ⟨0x9d8a62f656a8d1615c1294fd71e9cfb3e4855a4f⟩ := by
    decide +kernel
  obtain ⟨-, hnegated, hbound, -, hfault, hflipped, hexclude⟩ := twins_exclude_each_other
  have hhigh := (hnegated sampleSignature.s (by decide) (by decide)).2.mp (by decide)
  have hrefused : recoverSigner .zero sampleSignature.r sampleSignature.twin.s 1 = .error .highS :=
    (hbound _ _ _ 1 (by decide) (by decide)).mpr hhigh
  refine ⟨hsender, ⟨by decide, by decide⟩, hflipped 37 (some 1) false rfl (by decide), hrefused,
    hfault .zero sampleSignature.r sampleSignature.twin.s 1 _ (by rw [hrefused]; rfl), ?_⟩
  intro htwin
  exact (hexclude sampleTransfer .zero).1 1 1 ⟨⟨_, hsender⟩, htwin⟩

end LiquidityTrigger
