import LiquidityTrigger.Transaction.Sender
import Mathlib.Control.Monad.Basic

/-!
# Which signatures name a sender

A signature is accepted when its numbers are in range, its `v` is one of four and a public key can be
recovered from it; `sender_eq_ok_iff` is that as an equivalence. Two of the four values of `v` belong
to the configured chain alone, so a signature that is bound to one chain is refused on every other,
and the other two belong to no chain, so what comes of them is the same on all.

The arithmetic on `v` is in 64 bits. `signedDigestChecked` repeats it with operations that notice when
they would wrap, and `signedDigestChecked_eq` says that they never do.
-/

namespace LiquidityTrigger

/-! ### Recovery -/

namespace Secp256k1

theorem halfOrder_eq : halfOrder = (groupOrder - 1) / 2 := by decide

/-- A key is only recovered from numbers between zero and the group order. -/
theorem bounds_of_recover {hash r s : Nat} {odd : Bool} {key : Point}
    (h : recover hash r s odd = some key) : 0 < r ∧ r < groupOrder ∧ 0 < s ∧ s < groupOrder := by
  rw [recover] at h
  split at h
  · cases h
  · omega

end Secp256k1

theorem recoverSigner_eq_ok_iff {hash : Digest} {r s : Word} {odd : Bool} {a : Address} :
    recoverSigner hash r s odd.toNat = .ok a ↔
      s.toNat ≤ Secp256k1.halfOrder ∧
        ∃ key, Secp256k1.recover hash.bits.toNat r.toNat s.toNat odd = some key ∧
          a = Address.ofPublicKey key := by
  -- The check of the recovery id never fails here, and the check for zeros is part of the recovery.
  have hid : ¬ 1 < odd.toNat := Nat.not_lt.mpr (Bool.toNat_le odd)
  have hodd : decide (odd.toNat = 1) = odd := by cases odd <;> rfl
  rw [recoverSigner]
  by_cases hzero : r = 0 ∨ s = 0
  · rw [if_pos hzero]
    constructor
    · intro h
      cases h
    · intro h
      obtain ⟨_, key, hkey, _⟩ := h
      obtain ⟨hr, _, hs, _⟩ := Secp256k1.bounds_of_recover hkey
      rcases hzero with rfl | rfl
      · exact absurd hr (Nat.lt_irrefl 0)
      · exact absurd hs (Nat.lt_irrefl 0)
  · rw [if_neg hzero]
    by_cases hhigh : Secp256k1.halfOrder < s.toNat
    · rw [if_pos hhigh]
      simp only [reduceCtorEq, Nat.not_le.mpr hhigh, false_and]
    · rw [if_neg hhigh, if_neg hid, hodd]
      cases Secp256k1.recover hash.bits.toNat r.toNat s.toNat odd with
      | none => simp only [reduceCtorEq, false_and, exists_false, and_false]
      | some key =>
          simp only [Except.ok.injEq, Option.some.injEq, exists_eq_left', Nat.not_lt.mp hhigh,
            true_and, eq_comm]

/-! ### The four values of `v` -/

/-- Whether a `v` says that a chain, or none, is signed, and that the hidden point is odd or even. -/
def Names (v : UInt64) (chain : Option UInt64) (odd : Bool) : Prop :=
  v.toNat = chain.elim 27 (fun id => 35 + 2 * id.toNat) + odd.toNat

theorem names_none_iff {v : UInt64} : (∃ odd, Names v none odd) ↔ v = 27 ∨ v = 28 := by
  simp only [Names, Option.elim_none, Bool.exists_bool, Bool.toNat_false, Bool.toNat_true,
    ← UInt64.toNat_inj]
  rfl

theorem Names.toNat_unboundId {v : UInt64} {odd : Bool} (h : Names v none odd) :
    27 ≤ v ∧ (v - 27).toNat = odd.toNat := by
  rw [Names, Option.elim_none] at h
  have hbound : 27 ≤ v := UInt64.le_iff_toNat_le.mpr (by change 27 ≤ v.toNat; omega)
  refine ⟨hbound, ?_⟩
  rw [UInt64.toNat_sub_of_le v 27 hbound, h]
  change 27 + odd.toNat - 27 = odd.toNat
  omega

private theorem toNat_sub_thirtyFive {v : UInt64} (hbound : 35 ≤ v) :
    (v - 35).toNat = v.toNat - 35 ∧ 35 ≤ v.toNat :=
  ⟨UInt64.toNat_sub_of_le v 35 hbound, UInt64.le_iff_toNat_le.mp hbound⟩

/-- The truncating division finds the chain that is named. -/
theorem names_some_iff {v c : UInt64} (hbound : 35 ≤ v) :
    (∃ odd, Names v (some c) odd) ↔ (v - 35) / 2 = c := by
  obtain ⟨hoffset, hle⟩ := toNat_sub_thirtyFive hbound
  have hhalf : ((v - 35) / 2).toNat = (v.toNat - 35) / 2 := by
    rw [UInt64.toNat_div, hoffset]
    rfl
  rw [← UInt64.toNat_inj, hhalf]
  simp only [Names, Option.elim_some, Bool.exists_bool, Bool.toNat_false, Bool.toNat_true]
  omega

theorem Names.toNat_recoveryId {v c : UInt64} {odd : Bool} (h : Names v (some c) odd) :
    35 ≤ v ∧ (c * 2).toNat = c.toNat * 2 ∧ c * 2 ≤ v - 35 ∧ (v - 35 - c * 2).toNat = odd.toNat := by
  rw [Names, Option.elim_some] at h
  have hbound : 35 ≤ v := UInt64.le_iff_toNat_le.mpr (by change 35 ≤ v.toNat; omega)
  obtain ⟨hoffset, hle⟩ := toNat_sub_thirtyFive hbound
  have hv := v.toNat_lt
  have hdouble : (c * 2).toNat = c.toNat * 2 := by
    rw [UInt64.toNat_mul]
    exact Nat.mod_eq_of_lt (by change c.toNat * 2 < 2 ^ 64; omega)
  have hsmall : c * 2 ≤ v - 35 := by
    rw [UInt64.le_iff_toNat_le, hdouble, hoffset]
    omega
  refine ⟨hbound, hdouble, hsmall, ?_⟩
  rw [UInt64.toNat_sub_of_le _ _ hsmall, hdouble, hoffset]
  omega

private theorem not_unbound_of_bound {v : UInt64} (hbound : 35 ≤ v) : ¬ (v = 27 ∨ v = 28) := by
  intro h
  rcases h with rfl | rfl
  · exact absurd hbound (by decide)
  · exact absurd hbound (by decide)

/-- The digest and the recovery id are those of the chain, or none, that `v` names. -/
theorem signedDigest_eq_ok_iff {tx : Transaction} {v c id : UInt64} {hash : Digest} :
    tx.signedDigest v c = .ok (hash, id) ↔
      ∃ chain odd, (chain = none ∨ chain = some c) ∧ Names v chain odd ∧
        hash = tx.signingHash chain ∧ id.toNat = odd.toNat := by
  rw [Transaction.signedDigest]
  constructor
  · intro h
    by_cases hunbound : v = 27 ∨ v = 28
    · rw [if_pos hunbound, Except.ok.injEq, Prod.mk.injEq] at h
      obtain ⟨odd, hodd⟩ := names_none_iff.mpr hunbound
      refine ⟨none, odd, .inl rfl, hodd, h.1.symm, ?_⟩
      rw [← h.2]
      exact hodd.toNat_unboundId.2
    · rw [if_neg hunbound] at h
      by_cases hbound : 35 ≤ v
      · rw [if_pos hbound] at h
        by_cases hchain : (v - 35) / 2 = c
        · obtain ⟨odd, hodd⟩ := (names_some_iff hbound).mpr hchain
          rw [if_neg (not_not_intro hchain), Except.ok.injEq, Prod.mk.injEq] at h
          refine ⟨some c, odd, .inr rfl, hodd, h.1.symm, ?_⟩
          rw [← h.2]
          exact hodd.toNat_recoveryId.2.2.2
        · rw [if_pos hchain] at h
          cases h
      · rw [if_neg hbound] at h
        cases h
  · intro h
    obtain ⟨chain, odd, rfl | rfl, hnames, rfl, hid⟩ := h
    · rw [if_pos (names_none_iff.mp ⟨odd, hnames⟩), Except.ok.injEq, Prod.mk.injEq]
      exact ⟨rfl, UInt64.toNat_inj.mp (by rw [hnames.toNat_unboundId.2, hid])⟩
    · obtain ⟨hbound, _, _, hrecovery⟩ := hnames.toNat_recoveryId
      have hchain := (names_some_iff hbound).mp ⟨odd, hnames⟩
      rw [if_neg (not_unbound_of_bound hbound), if_pos hbound, if_neg (not_not_intro hchain),
        Except.ok.injEq, Prod.mk.injEq]
      exact ⟨rfl, UInt64.toNat_inj.mp (by rw [hrecovery, hid])⟩

/-! ### Arithmetic that notices when it wraps -/

/-- A difference, unless it would wrap. -/
def checkedSub (a b : UInt64) : Option UInt64 := if b ≤ a then some (a - b) else none

def checkedMul (a b : UInt64) : Option UInt64 :=
  if a.toNat * b.toNat < 2 ^ 64 then some (a * b) else none

/-- `Transaction.signedDigest` with every difference and product checked; none if one of them wraps. -/
def Transaction.signedDigestChecked (tx : Transaction) (v chainId : UInt64) :
    Option (Except SenderRejection (Digest × UInt64)) :=
  if v = 27 ∨ v = 28 then do
    let recoveryId ← checkedSub v 27
    return .ok (tx.signingHash none, recoveryId)
  else if 35 ≤ v then do
    let offset ← checkedSub v 35
    if offset / 2 ≠ chainId then return .error (.foreignChain (offset / 2) chainId)
    else
      let double ← checkedMul chainId 2
      let recoveryId ← checkedSub offset double
      return .ok (tx.signingHash (some chainId), recoveryId)
  else return .error (.invalidV v)

theorem signedDigestChecked_eq (tx : Transaction) (v c : UInt64) :
    tx.signedDigestChecked v c = some (tx.signedDigest v c) := by
  rw [Transaction.signedDigestChecked, Transaction.signedDigest]
  by_cases hunbound : v = 27 ∨ v = 28
  · obtain ⟨odd, hnames⟩ := names_none_iff.mpr hunbound
    rw [if_pos hunbound, if_pos hunbound, checkedSub, if_pos hnames.toNat_unboundId.1]
    rfl
  · rw [if_neg hunbound, if_neg hunbound]
    by_cases hbound : 35 ≤ v
    · rw [if_pos hbound, if_pos hbound, checkedSub, if_pos hbound]
      by_cases hchain : (v - 35) / 2 = c
      · obtain ⟨odd, hnames⟩ := (names_some_iff hbound).mpr hchain
        obtain ⟨_, hdouble, hsmall, _⟩ := hnames.toNat_recoveryId
        have hfits : c.toNat * (2 : UInt64).toNat < 2 ^ 64 := by
          change c.toNat * 2 < 2 ^ 64
          rw [← hdouble]
          exact (c * 2).toNat_lt
        simp only [Option.bind_eq_bind, Option.bind_some, hchain, ne_eq, not_true_eq_false, if_false,
          checkedMul, if_pos hfits, checkedSub, if_pos hsmall]
        rfl
      · simp only [Option.bind_eq_bind, Option.bind_some, hchain, ne_eq, not_false_eq_true, if_true]
        rfl
    · rw [if_neg hbound, if_neg hbound]
      rfl

/-! ### The sender -/

section

variable {tx : Transaction} {sig : Signature} {c c' : UInt64} {a : Address}

private theorem sender_of_unsigned (hkind : tx.kind = none ∨ tx.kind = some 0)
    (hsig : tx.signature = none) : tx.sender c = .error .unsigned := by
  rw [Transaction.sender, hsig]
  rcases hkind with hkind | hkind <;> rw [hkind] <;> rfl

private theorem sender_of_signed (hkind : tx.kind = none ∨ tx.kind = some 0)
    (hsig : tx.signature = some sig) :
    tx.sender c =
      tx.signedDigest sig.v c >>= fun found => recoverSigner found.1 sig.r sig.s found.2.toNat := by
  rw [Transaction.sender, hsig]
  rcases hkind with hkind | hkind <;> rw [hkind] <;> rfl

theorem sender_of_digest (hkind : tx.kind = none ∨ tx.kind = some 0) (hsig : tx.signature = some sig)
    {hash : Digest} {id : UInt64} (hdigest : tx.signedDigest sig.v c = .ok (hash, id)) :
    tx.sender c = recoverSigner hash sig.r sig.s id.toNat := by
  rw [sender_of_signed hkind hsig, hdigest]
  rfl

private theorem kind_of_sender (h : tx.sender c = .ok a) : tx.kind = none ∨ tx.kind = some 0 := by
  rw [Transaction.sender] at h
  cases hkind : tx.kind with
  | none => exact .inl rfl
  | some kind =>
      by_cases hzero : kind = 0
      · exact .inr (by rw [hzero])
      · rw [hkind, Option.filter_some_pos (by simpa using hzero)] at h
        cases h

/-- A sender is recovered exactly from a low `s` and a `v` that names the chain, or none. -/
theorem sender_eq_ok_iff :
    tx.sender c = .ok a ↔
      (tx.kind = none ∨ tx.kind = some 0) ∧ ∃ sig chain odd key, tx.signature = some sig ∧
        (chain = none ∨ chain = some c) ∧ Names sig.v chain odd ∧
        sig.s.toNat ≤ Secp256k1.halfOrder ∧
        Secp256k1.recover (tx.signingHash chain).bits.toNat sig.r.toNat sig.s.toNat odd = some key ∧
        a = Address.ofPublicKey key := by
  constructor
  · intro h
    have hkind := kind_of_sender h
    refine ⟨hkind, ?_⟩
    cases hsig : tx.signature with
    | none =>
        rw [sender_of_unsigned hkind hsig] at h
        cases h
    | some sig =>
        rw [sender_of_signed hkind hsig] at h
        cases hdigest : tx.signedDigest sig.v c with
        | error rejection =>
            rw [hdigest] at h
            cases h
        | ok found =>
            obtain ⟨chain, odd, hchain, hnames, hhash, hid⟩ := signedDigest_eq_ok_iff.mp hdigest
            rw [hdigest] at h
            change recoverSigner found.1 sig.r sig.s found.2.toNat = .ok a at h
            rw [hhash, hid, recoverSigner_eq_ok_iff] at h
            obtain ⟨hlow, key, hkey, ha⟩ := h
            exact ⟨sig, chain, odd, key, rfl, hchain, hnames, hlow, hkey, ha⟩
  · intro h
    obtain ⟨hkind, sig, chain, odd, key, hsig, hchain, hnames, hlow, hkey, ha⟩ := h
    have hid : (UInt64.ofNat odd.toNat).toNat = odd.toNat := by cases odd <;> rfl
    have hdigest : tx.signedDigest sig.v c = .ok (tx.signingHash chain, UInt64.ofNat odd.toNat) :=
      signedDigest_eq_ok_iff.mpr ⟨chain, odd, hchain, hnames, rfl, hid⟩
    rw [sender_of_signed hkind hsig, hdigest]
    change recoverSigner _ _ _ (UInt64.ofNat odd.toNat).toNat = .ok a
    rw [hid]
    exact recoverSigner_eq_ok_iff.mpr ⟨hlow, key, hkey, ha⟩

end

/-! ### Chain binding -/

section

variable {tx : Transaction} {sig : Signature} {v c c' : UInt64} {odd : Bool}

theorem signedDigest_foreign (hnames : Names v (some c) odd) (hne : c' ≠ c) :
    tx.signedDigest v c' = .error (.foreignChain c c') := by
  have hbound := hnames.toNat_recoveryId.1
  have hchain : (v - 35) / 2 = c := (names_some_iff hbound).mp ⟨odd, hnames⟩
  rw [Transaction.signedDigest, if_neg (not_unbound_of_bound hbound), if_pos hbound, hchain,
    if_pos hne.symm]

theorem chain_eq_of_bound {chain : Option UInt64} (hbound : 35 ≤ v) (hnames : Names v chain odd)
    (hchain : chain = none ∨ chain = some c) : chain = some c := by
  rcases hchain with rfl | rfl
  · exact absurd (names_none_iff.mp ⟨odd, hnames⟩) (not_unbound_of_bound hbound)
  · rfl

theorem sender_foreign {a : Address} (hsig : tx.signature = some sig) (hbound : 35 ≤ sig.v)
    (h : tx.sender c = .ok a) (hne : c' ≠ c) : tx.sender c' = .error (.foreignChain c c') := by
  obtain ⟨hkind, sig', chain, odd, key, hsig', hchain, hnames, -⟩ := sender_eq_ok_iff.mp h
  obtain rfl : sig = sig' := Option.some.inj (hsig.symm.trans hsig')
  obtain rfl := chain_eq_of_bound hbound hnames hchain
  rw [sender_of_signed hkind hsig, signedDigest_foreign hnames hne]
  rfl

theorem sender_of_unbound (hsig : tx.signature = some sig) (hunbound : sig.v = 27 ∨ sig.v = 28) :
    tx.sender c' = tx.sender c := by
  have hdigest : tx.signedDigest sig.v c' = tx.signedDigest sig.v c := by
    rw [Transaction.signedDigest, Transaction.signedDigest, if_pos hunbound, if_pos hunbound]
  rw [Transaction.sender, Transaction.sender, hsig]
  dsimp only
  rw [hdigest]

end

/-- Four values of `v` are accepted on a chain, and a signature that is bound to a chain is accepted on
no other. -/
theorem sender_binds_chain (tx : Transaction) (c : UInt64) :
    (∀ a, tx.sender c = .ok a ↔
      (tx.kind = none ∨ tx.kind = some 0) ∧ ∃ sig chain odd key, tx.signature = some sig ∧
        (chain = none ∧ sig.v.toNat = 27 + odd.toNat ∨
          chain = some c ∧ sig.v.toNat = 35 + 2 * c.toNat + odd.toNat) ∧
        0 < sig.r.toNat ∧ sig.r.toNat < Secp256k1.groupOrder ∧
        0 < sig.s.toNat ∧ sig.s.toNat ≤ (Secp256k1.groupOrder - 1) / 2 ∧
        Secp256k1.recover (tx.signingHash chain).bits.toNat sig.r.toNat sig.s.toNat odd = some key ∧
        a = Address.ofPublicKey key) ∧
    (∀ fault, (tx.sender c).mapError SenderRejection.toFault = .error fault →
      ∃ detail, fault = .signature detail) ∧
    (∀ v, tx.signedDigestChecked v c = some (tx.signedDigest v c)) ∧
    (∀ v hash id, tx.signedDigest v c = .ok (hash, id) → id = 0 ∨ id = 1) ∧
    ∀ sig, tx.signature = some sig →
      (∀ a c', 35 ≤ sig.v → tx.sender c = .ok a → c' ≠ c →
        tx.sender c' = .error (.foreignChain c c')) ∧
      (∀ c', sig.v = 27 ∨ sig.v = 28 → tx.sender c' = tx.sender c) := by
  refine ⟨?_, ?_, fun v => signedDigestChecked_eq tx v c, ?_, ?_⟩
  · intro a
    rw [sender_eq_ok_iff, Secp256k1.halfOrder_eq]
    constructor
    · intro h
      obtain ⟨hkind, sig, chain, odd, key, hsig, hchain, hnames, hlow, hkey, ha⟩ := h
      obtain ⟨hr, hrlt, hs, _⟩ := Secp256k1.bounds_of_recover hkey
      refine ⟨hkind, sig, chain, odd, key, hsig, ?_, hr, hrlt, hs, hlow, hkey, ha⟩
      rcases hchain with rfl | rfl
      · exact .inl ⟨rfl, hnames⟩
      · exact .inr ⟨rfl, hnames⟩
    · intro h
      obtain ⟨hkind, sig, chain, odd, key, hsig, hchain, _, _, _, hlow, hkey, ha⟩ := h
      rcases hchain with ⟨rfl, hv⟩ | ⟨rfl, hv⟩
      · exact ⟨hkind, sig, none, odd, key, hsig, .inl rfl, hv, hlow, hkey, ha⟩
      · exact ⟨hkind, sig, some c, odd, key, hsig, .inr rfl, hv, hlow, hkey, ha⟩
  · intro fault h
    cases hsender : tx.sender c with
    | ok a =>
        rw [hsender] at h
        cases h
    | error rejection =>
        rw [hsender] at h
        cases h
        exact ⟨rejection.detail, rfl⟩
  · intro v hash id h
    obtain ⟨chain, odd, _, _, _, hid⟩ := signedDigest_eq_ok_iff.mp h
    cases odd with
    | false => exact .inl (UInt64.toNat_inj.mp hid)
    | true => exact .inr (UInt64.toNat_inj.mp hid)
  · intro sig hsig
    exact ⟨fun a c' hbound h hne => sender_foreign hsig hbound h hne,
      fun c' hunbound => sender_of_unbound hsig hunbound⟩

def sampleSignature : Signature where
  v := 37
  r := 0x28ef61340bd939bc2195fe537567866003e1a15d3c71ff63e1590620aa636276
  s := 0x67cbe9d8997f761aecb703304b3800ccf555c9f3dc64214b297fb1966a3b6d83

def sampleTransfer : Transaction where
  hash := .zero
  nonce := 9
  gasPrice := 20000000000
  gas := 21000
  recipient := some ⟨0x3535353535353535353535353535353535353535⟩
  value := 1000000000000000000
  data := []
  kind := none
  signature := some sampleSignature

theorem sampleTransfer_bound :
    sampleTransfer.sender 1 = .ok ⟨0x9d8a62f656a8d1615c1294fd71e9cfb3e4855a4f⟩ ∧
      sampleTransfer.sender 56 = .error (.foreignChain 1 56) := by
  have h : sampleTransfer.sender 1 = .ok ⟨0x9d8a62f656a8d1615c1294fd71e9cfb3e4855a4f⟩ := by
    decide +kernel
  exact ⟨h, ((sender_binds_chain sampleTransfer 1).2.2.2.2 _ rfl).1 _ 56 (by decide) h (by decide)⟩

end LiquidityTrigger
