import LiquidityTrigger.Word
import Mathlib.Data.List.Induction

/-!
# Byte strings and numbers determine each other

Between byte strings of one length and the numbers below a power of 256 the two readings of
`Bytes.lean` are inverse to one another. Without leading zeros the length need not be given: a number
is written in the least width that holds it, so its first byte is not zero and the writing is
injective.
-/

namespace LiquidityTrigger

namespace Bytes

theorem toNat_append (front back : Bytes) :
    toNat (front ++ back) = toNat front * 256 ^ back.length + toNat back := by
  induction back using List.reverseRecOn with
  | nil => simp
  | append_singleton back b ih =>
      rw [← List.append_assoc, toNat_append_singleton, toNat_append_singleton, ih,
        List.length_append, List.length_singleton, Nat.pow_succ, Nat.add_mul, Nat.mul_assoc,
        Nat.add_assoc]

theorem toNat_cons (b : UInt8) (rest : Bytes) :
    toNat (b :: rest) = b.toNat * 256 ^ rest.length + toNat rest := by
  rw [← List.singleton_append, toNat_append]
  simp [toNat]

theorem toNat_lt (bytes : Bytes) : toNat bytes < 256 ^ bytes.length := by
  induction bytes using List.reverseRecOn with
  | nil => decide
  | append_singleton bytes b ih =>
      have hb : b.toNat < 256 := b.toNat_lt
      rw [toNat_append_singleton, List.length_append, List.length_singleton, Nat.pow_succ]
      omega

theorem ofNat_toNat (bytes : Bytes) : ofNat bytes.length (toNat bytes) = bytes := by
  induction bytes using List.reverseRecOn with
  | nil => rfl
  | append_singleton bytes b ih =>
      have hb : b.toNat < 256 := b.toNat_lt
      have hquotient : (toNat bytes * 256 + b.toNat) / 256 = toNat bytes := by omega
      have hremainder : (toNat bytes * 256 + b.toNat) % 256 = b.toNat := by omega
      rw [toNat_append_singleton, List.length_append, List.length_singleton, ofNat, hquotient,
        hremainder, ih, UInt8.ofNat_toNat]

/-! ### Writing without leading zeros -/

theorem minimalWidth_le_iff {n width : Nat} : minimalWidth n ≤ width ↔ n < 256 ^ width := by
  have hpow : 256 ^ width = 2 ^ (8 * width) := by rw [Nat.pow_mul]
  rw [minimalWidth, hpow]
  by_cases hzero : n = 0
  · rw [if_pos hzero, hzero]
    exact iff_of_true (Nat.zero_le _) (Nat.two_pow_pos _)
  · rw [if_neg hzero, ← Nat.log2_lt hzero]
    omega

theorem minimalWidth_mono {n m : Nat} (h : n ≤ m) : minimalWidth n ≤ minimalWidth m :=
  minimalWidth_le_iff.mpr (Nat.lt_of_le_of_lt h (minimalWidth_le_iff.mp (Nat.le_refl _)))

theorem minimalWidth_add_le {n k : Nat} (h : k < 256) : minimalWidth (n + k) ≤ minimalWidth n + 1 := by
  have hn : n < 256 ^ minimalWidth n := minimalWidth_le_iff.mp (Nat.le_refl _)
  rw [minimalWidth_le_iff, Nat.pow_succ]
  omega

theorem minimalWidth_pos {n : Nat} (h : 0 < n) : 0 < minimalWidth n := by
  by_contra hzero
  have hn : n < 256 ^ 0 := minimalWidth_le_iff.mp (Nat.not_lt.mp hzero)
  omega

@[simp] theorem length_ofNatMinimal (n : Nat) : (ofNatMinimal n).length = minimalWidth n :=
  length_ofNat _ _

@[simp] theorem toNat_ofNatMinimal (n : Nat) : toNat (ofNatMinimal n) = n := by
  rw [ofNatMinimal, toNat_ofNat]
  exact Nat.mod_eq_of_lt (minimalWidth_le_iff.mp (Nat.le_refl _))

theorem ofNatMinimal_injective {n m : Nat} (h : ofNatMinimal n = ofNatMinimal m) : n = m := by
  rw [← toNat_ofNatMinimal n, h, toNat_ofNatMinimal]

theorem head?_ofNatMinimal_ne_zero (n : Nat) : (ofNatMinimal n).head? ≠ some 0 := by
  intro h
  obtain ⟨rest, hrest⟩ := List.head?_eq_some_iff.mp h
  have hvalue : toNat rest = n := by
    rw [← toNat_ofNatMinimal n, hrest, ← List.singleton_append, toNat_append]
    simp [toNat]
  have hlength := congrArg List.length hrest
  rw [length_ofNatMinimal, List.length_cons, ← hvalue] at hlength
  have hfits := minimalWidth_le_iff.mpr (toNat_lt rest)
  omega

/-- A byte string without a leading zero is the writing of its number. -/
theorem ofNatMinimal_toNat {bytes : Bytes} (h : bytes.head? ≠ some 0) :
    ofNatMinimal (toNat bytes) = bytes := by
  have hwidth : minimalWidth (toNat bytes) = bytes.length := by
    apply Nat.le_antisymm (minimalWidth_le_iff.mpr (toNat_lt bytes))
    cases bytes with
    | nil => exact Nat.zero_le _
    | cons b rest =>
        have hb : 0 < b.toNat := by
          apply Nat.pos_of_ne_zero
          intro hzero
          apply h
          rw [List.head?_cons, UInt8.toNat_inj.mp (hzero.trans UInt8.toNat_zero.symm)]
        have hvalue : toNat (b :: rest) = b.toNat * 256 ^ rest.length + toNat rest := by
          rw [← List.singleton_append, toNat_append]
          simp [toNat]
        by_contra hshort
        have hlt : toNat (b :: rest) < 256 ^ rest.length := by
          apply minimalWidth_le_iff.mp
          rw [List.length_cons] at hshort
          omega
        have hle := Nat.le_mul_of_pos_left (256 ^ rest.length) hb
        omega
  rw [ofNatMinimal, hwidth, ofNat_toNat]

end Bytes

theorem Address.toBytes_ofBytes {bytes : Bytes} (h : bytes.length = 20) :
    (Address.ofBytes bytes).toBytes = bytes := by
  have hlt : Bytes.toNat bytes < 2 ^ 160 := by
    have := Bytes.toNat_lt bytes
    rwa [h] at this
  rw [Address.toBytes, Address.ofBytes, BitVec.toNat_ofNat, Nat.mod_eq_of_lt hlt, ← h,
    Bytes.ofNat_toNat]

theorem Address.ofBytes_drop {bytes : Bytes} {n : Nat} (h : bytes.length = n + 20) :
    Address.ofBytes (bytes.drop n) = Address.ofBytes bytes := by
  have hsplit : Bytes.toNat bytes =
      Bytes.toNat (bytes.take n) * 256 ^ (bytes.drop n).length + Bytes.toNat (bytes.drop n) := by
    rw [← Bytes.toNat_append, List.take_append_drop]
  have hlength : (bytes.drop n).length = 20 := by
    rw [List.length_drop, h, Nat.add_sub_cancel_left]
  rw [hlength] at hsplit
  simp only [Address.ofBytes, Address.mk.injEq]
  apply BitVec.eq_of_toNat_eq
  rw [BitVec.toNat_ofNat, BitVec.toNat_ofNat, hsplit]
  omega

theorem Address.ofBytes_drop_toWord (a : Address) : Address.ofBytes (a.toWord.toBytes.drop 12) = a := by
  rw [Address.ofBytes_drop (Word.length_toBytes _)]
  cases a with
  | mk bits =>
      have hword : Bytes.toNat (Address.toWord ⟨bits⟩).toBytes = bits.toNat := by
        have hlt : bits.toNat < 2 ^ 160 := bits.isLt
        rw [Word.toBytes, Bytes.toNat_ofNat, Address.toWord, BitVec.toNat_setWidth]
        dsimp only
        omega
      rw [Address.ofBytes, hword, BitVec.ofNat_toNat, BitVec.setWidth_eq]

theorem Address.toBytes_toWord (a : Address) :
    a.toWord.toBytes = List.replicate 12 0 ++ a.toBytes := by
  have hzeros : Bytes.toNat (List.replicate 12 0) = 0 := by decide
  have hlength : (List.replicate 12 0 ++ a.toBytes).length = 32 := by simp
  have hvalue : Bytes.toNat (List.replicate 12 0 ++ a.toBytes) = a.toWord.toNat := by
    have hlt : a.bits.toNat < 2 ^ 160 := a.bits.isLt
    rw [Bytes.toNat_append, hzeros, toBytes, Bytes.toNat_ofNat, toWord, BitVec.toNat_setWidth]
    omega
  rw [Word.toBytes, ← hvalue, ← hlength, Bytes.ofNat_toNat]

theorem Digest.ofBytes_toBytes (d : Digest) : Digest.ofBytes d.toBytes = d := by
  cases d with
  | mk bits =>
      have hbits : BitVec.ofNat 256 (Bytes.toNat (Word.toBytes bits)) = bits :=
        Word.ofBytes_toBytes bits
      exact congrArg Digest.mk hbits

theorem Address.toBytes_injective {a b : Address} (h : a.toBytes = b.toBytes) : a = b := by
  rw [← Address.ofBytes_toBytes a, h, Address.ofBytes_toBytes]

end LiquidityTrigger
