import LiquidityTrigger.Proofs.Bytes
import LiquidityTrigger.Rlp

/-!
# An encoding determines what it encodes

An item in front of other bytes can be told apart from every other item in front of other bytes. For
items of at most 55 bytes this is plain, since the first byte of the header is the length. The first
byte of a long header only gives the width of the length, and as a byte it gives that only modulo 256.
So a long item needs to know that little stands behind it: then two items in front of byte strings of
one length have lengths that are close together, hence widths that differ by at most one.
-/

namespace LiquidityTrigger.Rlp

open Bytes (minimalWidth)

/-! ### Headers -/

/-- What the first byte of a header is above its base: the length, or 55 and the width of the length. -/
def lead (length : Nat) : Nat :=
  if length ≤ greatestShort then length else greatestShort + minimalWidth length

/-- The bytes of a header behind its first one. -/
def lengthBytes (length : Nat) : Bytes :=
  if length ≤ greatestShort then [] else Bytes.ofNatMinimal length

theorem header_eq (base length : Nat) :
    header base length = UInt8.ofNat (base + lead length) :: lengthBytes length := by
  rw [header, lead, lengthBytes, Bytes.length_ofNatMinimal]
  by_cases hshort : length ≤ greatestShort
  · rw [if_pos hshort, if_pos hshort, if_pos hshort]
  · rw [if_neg hshort, if_neg hshort, if_neg hshort, Nat.add_assoc]

theorem lead_of_short {n : Nat} (h : n ≤ greatestShort) : lead n = n := if_pos h

theorem lead_of_long {n : Nat} (h : greatestShort < n) : lead n = greatestShort + minimalWidth n :=
  if_neg (Nat.not_le.mpr h)

theorem lead_le_iff {n : Nat} : lead n ≤ greatestShort ↔ n ≤ greatestShort := by
  by_cases hshort : n ≤ greatestShort
  · rw [lead_of_short hshort]
  · have hpos : 0 < minimalWidth n := Bytes.minimalWidth_pos (by omega)
    rw [lead_of_long (Nat.not_le.mp hshort)]
    omega

theorem lead_le_add_minimalWidth (n : Nat) : lead n ≤ greatestShort + minimalWidth n := by
  by_cases hshort : n ≤ greatestShort
  · exact Nat.le_trans (lead_le_iff.mpr hshort) (Nat.le_add_right _ _)
  · exact Nat.le_of_eq (lead_of_long (Nat.not_le.mp hshort))

theorem length_lengthBytes (n : Nat) : (lengthBytes n).length = lead n - greatestShort := by
  by_cases hshort : n ≤ greatestShort
  · rw [lengthBytes, if_pos hshort, Nat.sub_eq_zero_of_le (lead_le_iff.mpr hshort)]
    rfl
  · rw [lengthBytes, if_neg hshort, lead_of_long (Nat.not_le.mp hshort), Nat.add_sub_cancel_left,
      Bytes.length_ofNatMinimal]

@[simp] theorem length_header (base n : Nat) :
    (header base n).length = lead n - greatestShort + 1 := by
  rw [header_eq, List.length_cons, length_lengthBytes]

theorem length_unique {n m : Nat} (hlead : lead n = lead m) (hbytes : lengthBytes n = lengthBytes m) :
    n = m := by
  by_cases hn : n ≤ greatestShort
  · have hm : m ≤ greatestShort := lead_le_iff.mp (hlead ▸ lead_le_iff.mpr hn)
    rwa [lead_of_short hn, lead_of_short hm] at hlead
  · have hm : ¬ m ≤ greatestShort := fun hm => hn (lead_le_iff.mp (hlead ▸ lead_le_iff.mpr hm))
    rw [lengthBytes, lengthBytes, if_neg hn, if_neg hm] at hbytes
    exact Bytes.ofNatMinimal_injective hbytes

theorem lead_mono {n m : Nat} (h : n ≤ m) : lead n ≤ lead m := by
  by_cases hm : m ≤ greatestShort
  · rwa [lead_of_short hm, lead_of_short (Nat.le_trans h hm)]
  · by_cases hn : n ≤ greatestShort
    · rw [← lead_le_iff] at hn hm
      omega
    · rw [lead_of_long (Nat.not_le.mp hm), lead_of_long (Nat.not_le.mp hn)]
      exact Nat.add_le_add_left (Bytes.minimalWidth_mono h) _

/-! ### Lengths whose headers cannot be confused -/

/-- Whether the first bytes of the headers of two lengths are closer than a byte goes round, and closer
than a plain byte is to a header. -/
def Near (n m : Nat) : Prop := lead n < lead m + 64 ∧ lead m < lead n + 64

theorem near_of_short {n m : Nat} (hn : n ≤ greatestShort) (hm : m ≤ greatestShort) : Near n m := by
  rw [Near, lead_of_short hn, lead_of_short hm]
  rw [greatestShort] at hn hm
  omega

private theorem near_of_le {n m k : Nat} (hk : k < 256) (hle : n ≤ m) (hclose : m ≤ n + k) :
    Near n m := by
  have hmono := lead_mono hle
  refine ⟨by omega, ?_⟩
  have hwidth : minimalWidth m ≤ minimalWidth n + 1 :=
    Nat.le_trans (Bytes.minimalWidth_mono hclose) (Bytes.minimalWidth_add_le hk)
  -- Only two short lengths have leads that differ by more than a width and one.
  by_cases hm : m ≤ greatestShort
  · exact (near_of_short (Nat.le_trans hle hm) hm).2
  · rw [lead_of_long (Nat.not_le.mp hm)]
    by_cases hn : n ≤ greatestShort
    · have hone : minimalWidth n ≤ 1 := Bytes.minimalWidth_le_iff.mpr (by rw [greatestShort] at hn; omega)
      rw [greatestShort]
      omega
    · rw [lead_of_long (Nat.not_le.mp hn)]
      omega

theorem near_of_close {n m k : Nat} (hk : k < 256)
    (hnm : n + (lead n - greatestShort) ≤ m + (lead m - greatestShort) + k)
    (hmn : m + (lead m - greatestShort) ≤ n + (lead n - greatestShort) + k) : Near n m := by
  rcases Nat.le_total n m with hle | hle
  · have hmono := lead_mono hle
    exact near_of_le hk hle (by omega)
  · have hmono := lead_mono hle
    exact (near_of_le hk hle (by omega)).symm

theorem header_append_inj {base n m : Nat} {p q : Bytes} (hnear : Near n m)
    (h : header base n ++ p = header base m ++ q) : n = m ∧ p = q := by
  rw [header_eq, header_eq, List.cons_append, List.cons_append, List.cons.injEq] at h
  obtain ⟨hfirst, hrest⟩ := h
  have hbyte := congrArg UInt8.toNat hfirst
  rw [UInt8.toNat_ofNat', UInt8.toNat_ofNat'] at hbyte
  -- The two sums agree as bytes, and near leads are less than a turn of a byte apart.
  have hlead : lead n = lead m := by
    obtain ⟨hnm, hmn⟩ := hnear
    omega
  have hlength : (lengthBytes n).length = (lengthBytes m).length := by
    rw [length_lengthBytes, length_lengthBytes, hlead]
  obtain ⟨hbytes, hbehind⟩ := List.append_inj hrest hlength
  exact ⟨length_unique hlead hbytes, hbehind⟩

/-! ### Strings, numbers and lists -/

theorem encodeBytes_of_plain {b : UInt8} (h : b < 0x80) : encodeBytes [b] = [b] := by
  rw [encodeBytes, if_pos (by simpa [isPlain] using h)]

theorem encodeBytes_of_not_plain {bytes : Bytes} (h : ¬ isPlain bytes) :
    encodeBytes bytes = header 0x80 bytes.length ++ bytes := if_neg h

theorem exists_of_isPlain {bytes : Bytes} (h : isPlain bytes) : ∃ b, b < 0x80 ∧ bytes = [b] := by
  match bytes, h with
  | [b], h => exact ⟨b, by simpa [isPlain] using h, rfl⟩

private theorem plain_ne_header {b : UInt8} {n : Nat} {s p : Bytes} (hb : b < 0x80) (hnear : Near 1 n) :
    b :: s ≠ header 0x80 n ++ p := by
  intro h
  rw [header_eq, List.cons_append, List.cons.injEq] at h
  have hbyte := congrArg UInt8.toNat h.1
  rw [UInt8.toNat_ofNat'] at hbyte
  have hlt : b.toNat < 0x80 := hb
  have hone : lead 1 = 1 := rfl
  obtain ⟨-, hn⟩ := hnear
  omega

theorem encodeBytes_append_inj {a b s t : Bytes} (hnear : Near a.length b.length)
    (h : encodeBytes a ++ s = encodeBytes b ++ t) : a = b ∧ s = t := by
  by_cases ha : isPlain a
  · obtain ⟨x, hx, rfl⟩ := exists_of_isPlain ha
    rw [encodeBytes_of_plain hx] at h
    by_cases hb : isPlain b
    · obtain ⟨y, hy, rfl⟩ := exists_of_isPlain hb
      rw [encodeBytes_of_plain hy] at h
      exact List.append_inj h rfl
    · rw [encodeBytes_of_not_plain hb, List.append_assoc] at h
      exact absurd h (plain_ne_header hx hnear)
  · rw [encodeBytes_of_not_plain ha, List.append_assoc] at h
    by_cases hb : isPlain b
    · obtain ⟨y, hy, rfl⟩ := exists_of_isPlain hb
      rw [encodeBytes_of_plain hy] at h
      exact absurd h.symm (plain_ne_header hy hnear.symm)
    · rw [encodeBytes_of_not_plain hb, List.append_assoc] at h
      obtain ⟨hlength, hbehind⟩ := header_append_inj hnear h
      exact List.append_inj hbehind hlength

theorem length_encodeBytes (bytes : Bytes) :
    bytes.length + (lead bytes.length - greatestShort) ≤ (encodeBytes bytes).length ∧
      (encodeBytes bytes).length ≤ bytes.length + (lead bytes.length - greatestShort) + 1 := by
  by_cases hplain : isPlain bytes
  · obtain ⟨b, hb, rfl⟩ := exists_of_isPlain hplain
    rw [encodeBytes_of_plain hb]
    exact ⟨Nat.le_refl _, Nat.le_succ _⟩
  · rw [encodeBytes_of_not_plain hplain, List.length_append, length_header]
    omega

theorem encodeBytes_append_inj_of_short {a b s t : Bytes} (ha : a.length ≤ greatestShort)
    (hb : b.length ≤ greatestShort) (h : encodeBytes a ++ s = encodeBytes b ++ t) : a = b ∧ s = t :=
  encodeBytes_append_inj (near_of_short ha hb) h

/-- Strings of any lengths are told apart when little stands behind them. -/
theorem encodeBytes_append_inj_of_close {a b s t : Bytes} (hs : s.length < 255) (ht : t.length < 255)
    (h : encodeBytes a ++ s = encodeBytes b ++ t) : a = b ∧ s = t := by
  have hlength := congrArg List.length h
  rw [List.length_append, List.length_append] at hlength
  obtain ⟨hale, hage⟩ := length_encodeBytes a
  obtain ⟨hble, hbge⟩ := length_encodeBytes b
  exact encodeBytes_append_inj (near_of_close (k := 255) (by decide) (by omega) (by omega)) h

theorem length_ofNatMinimal_le {n : Nat} (h : n < 2 ^ 256) :
    (Bytes.ofNatMinimal n).length ≤ 32 := by
  rw [Bytes.length_ofNatMinimal]
  exact Bytes.minimalWidth_le_iff.mpr h

theorem encodeNat_append_inj {n m : Nat} {s t : Bytes} (hn : n < 2 ^ 256) (hm : m < 2 ^ 256)
    (h : encodeNat n ++ s = encodeNat m ++ t) : n = m ∧ s = t := by
  have hnshort := Nat.le_trans (length_ofNatMinimal_le hn) (by decide : 32 ≤ greatestShort)
  have hmshort := Nat.le_trans (length_ofNatMinimal_le hm) (by decide : 32 ≤ greatestShort)
  obtain ⟨hbytes, hbehind⟩ := encodeBytes_append_inj_of_short hnshort hmshort h
  exact ⟨Bytes.ofNatMinimal_injective hbytes, hbehind⟩

theorem encodeWord_append_inj {x y : Word} {s t : Bytes}
    (h : encodeNat x.toNat ++ s = encodeNat y.toNat ++ t) : x = y ∧ s = t := by
  obtain ⟨hvalue, hbehind⟩ := encodeNat_append_inj x.isLt y.isLt h
  exact ⟨BitVec.eq_of_toNat_eq hvalue, hbehind⟩

theorem length_encodeNat_le {n : Nat} (h : n < 2 ^ 256) : (encodeNat n).length ≤ 33 := by
  have hshort := length_ofNatMinimal_le h
  have hlead := lead_le_iff.mpr (Nat.le_trans hshort (by decide : 32 ≤ greatestShort))
  have hle := (length_encodeBytes (Bytes.ofNatMinimal n)).2
  rw [encodeNat]
  omega

/-- The header of a list of any length tells how much stands behind it. -/
theorem flatten_unique {xs ys : List Bytes} (h : encodeList xs = encodeList ys) :
    xs.flatten = ys.flatten := by
  have hlength := congrArg List.length h
  rw [encodeList, encodeList, List.length_append, List.length_append, length_header,
    length_header] at hlength
  exact (header_append_inj (near_of_close (k := 0) (by decide) (by omega) (by omega)) h).2

end LiquidityTrigger.Rlp
