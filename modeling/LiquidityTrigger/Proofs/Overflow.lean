import LiquidityTrigger.Proofs.FixedPoint

/-!
# Which amounts overflow

`formatUnits` decides on numbers of any size which texts there are. Here the same text is computed on words,
operation by operation: a power of ten is one product after another, every product is checked, and the sum that
rounds is capped. `formatUnitsChecked_eq` says that the outcome is the same, so an overflow is always that of an
operation, and `formatUnits_overflows_iff` says for which amounts, decimals and places there is one. Nothing
compares decimals and places with a bound; that 77 of each are safe for every amount is because the fractional
part of an amount is less than a unit.
-/

namespace LiquidityTrigger

open FixedPoint

namespace Word

/-- A product, unless it is too large for a word. -/
def mulChecked (a b : Word) : Except Overflow Word :=
  if a.toNat * b.toNat < 2 ^ 256 then .ok (a * b) else .error .overflow

def tenTo : Nat → Except Overflow Word
  | 0 => .ok 1
  | n + 1 => do mulChecked (← tenTo n) 10

/-- A sum that stops at the greatest word. -/
def addCapped (a b : Word) : Word :=
  if a.toNat + b.toNat < 2 ^ 256 then a + b else BitVec.allOnes 256

variable {a b : Word}

theorem mulChecked_of_le (h : a.toNat * b.toNat ≤ greatestWord) : mulChecked a b = .ok (a * b) :=
  if_pos (Nat.lt_of_le_of_lt h (by decide))

theorem mulChecked_of_lt (h : greatestWord < a.toNat * b.toNat) : mulChecked a b = .error .overflow :=
  if_neg (Nat.not_lt.mpr h)

theorem toNat_mul_of_le (h : a.toNat * b.toNat ≤ greatestWord) : (a * b).toNat = a.toNat * b.toNat := by
  rw [BitVec.toNat_mul]
  exact Nat.mod_eq_of_lt (Nat.lt_of_le_of_lt h (by decide))

theorem toNat_addCapped (a b : Word) : (addCapped a b).toNat = min (a.toNat + b.toNat) greatestWord := by
  rw [addCapped]
  by_cases h : a.toNat + b.toNat < 2 ^ 256
  · rw [if_pos h, BitVec.toNat_add, Nat.mod_eq_of_lt h]
    exact (Nat.min_eq_left (Nat.le_sub_one_of_lt h)).symm
  · rw [if_neg h, BitVec.toNat_allOnes]
    exact (Nat.min_eq_right (Nat.le_trans (Nat.sub_le _ 1) (Nat.not_lt.mp h))).symm

theorem tenTo_of_le {n : Nat} (h : n ≤ greatestExponent) :
    ∃ w, tenTo n = .ok w ∧ w.toNat = 10 ^ n := by
  induction n with
  | zero => exact ⟨1, rfl, rfl⟩
  | succ n ih =>
      obtain ⟨w, hw, hvalue⟩ := ih (Nat.le_of_succ_le h)
      have hfits : w.toNat * (10 : Word).toNat ≤ greatestWord := by
        rw [hvalue]
        exact pow_le_greatestWord_iff.mpr h
      refine ⟨w * 10, ?_, ?_⟩
      · rw [tenTo, hw]
        exact mulChecked_of_le hfits
      · rw [toNat_mul_of_le hfits, hvalue]
        rfl

theorem tenTo_of_lt {n : Nat} (h : greatestExponent < n) : tenTo n = .error .overflow := by
  induction n with
  | zero => cases h
  | succ n ih =>
      rcases Nat.lt_or_eq_of_le (Nat.le_of_lt_succ h) with hlt | rfl
      · rw [tenTo, ih hlt]
        rfl
      · obtain ⟨w, hw, hvalue⟩ := tenTo_of_le (Nat.le_refl greatestExponent)
        rw [tenTo, hw]
        refine mulChecked_of_lt ?_
        rw [hvalue]
        decide

end Word

open Word

/-! ### Text by operations on words -/

def FixedPoint.joined (whole fraction : Word) (places : Nat) : String :=
  if places = 0 then Decimal.text whole.toNat
  else String.ofList (Decimal.digits whole.toNat
    ++ '.' :: Decimal.padLeft places (Decimal.digits fraction.toNat))

/-- `formatUnits` in words, with every power of ten and every product checked. -/
def formatUnitsChecked (amount : Word) (decimals places : Nat) : Except Overflow String := do
  if decimals ≤ places then
    let unit ← tenTo decimals
    let scaled ← mulChecked (amount % unit) (← tenTo (places - decimals))
    return joined (amount / unit) scaled places
  else
    let step ← tenTo (decimals - places)
    let rounded := addCapped amount (step / 2) / step
    let unit ← tenTo places
    return joined (rounded / unit) (rounded % unit) places

theorem FixedPoint.joined_eq_text {whole fraction : Word} {places n : Nat}
    (hwhole : whole.toNat = n / 10 ^ places) (hfraction : fraction.toNat = n % 10 ^ places) :
    joined whole fraction places = text places n := by
  rcases Nat.eq_zero_or_pos places with rfl | hpos
  · rw [joined, if_pos rfl, text_zero, Decimal.text, hwhole, Nat.pow_zero, Nat.div_one]
  · rw [joined, if_neg hpos.ne', text_of_pos hpos, hwhole, hfraction]

section

variable {amount : Word} {decimals places : Nat}

/-- A fractional part does not overflow with as many places as a unit may have decimals. -/
theorem fraction_le_greatestWord (hle : decimals ≤ places) (hplaces : places ≤ greatestExponent) :
    amount.toNat % 10 ^ decimals * 10 ^ (places - decimals) ≤ greatestWord :=
  calc amount.toNat % 10 ^ decimals * 10 ^ (places - decimals)
      ≤ 10 ^ decimals * 10 ^ (places - decimals) :=
        Nat.mul_le_mul_right _ (Nat.mod_lt _ (Nat.pow_pos (by decide))).le
    _ = 10 ^ places := by rw [← Nat.pow_add, Nat.add_sub_cancel' hle]
    _ ≤ greatestWord := pow_le_greatestWord_iff.mpr hplaces

theorem formatUnitsChecked_of_le (hle : decimals ≤ places) :
    formatUnitsChecked amount decimals places = formatUnits amount decimals places := by
  rw [formatUnitsChecked, formatUnits, if_pos hle, if_pos hle]
  by_cases hdecimals : decimals ≤ greatestExponent
  · obtain ⟨unit, hunit, hunitValue⟩ := tenTo_of_le hdecimals
    by_cases hgap : places - decimals ≤ greatestExponent
    · obtain ⟨scale, hscale, hscaleValue⟩ := tenTo_of_le hgap
      have hpowers : ¬ (greatestExponent < decimals ∨ greatestExponent < places - decimals) := by omega
      have hproduct : (amount % unit).toNat * scale.toNat =
          amount.toNat % 10 ^ decimals * 10 ^ (places - decimals) := by
        rw [BitVec.toNat_umod, hunitValue, hscaleValue]
      rw [hunit, hscale]
      dsimp only [bind, Except.bind]
      rw [if_neg hpowers]
      by_cases hfits : amount.toNat % 10 ^ decimals * 10 ^ (places - decimals) ≤ greatestWord
      · have hsplit : 10 ^ places = 10 ^ decimals * 10 ^ (places - decimals) := by
          rw [← Nat.pow_add, Nat.add_sub_cancel' hle]
        rw [if_neg (Nat.not_lt.mpr hfits), mulChecked_of_le (hproduct ▸ hfits)]
        refine congrArg Except.ok (joined_eq_text ?_ ?_)
        · rw [BitVec.toNat_udiv, hunitValue, hsplit,
            Nat.mul_div_mul_right _ _ (Nat.pow_pos (by decide))]
        · rw [toNat_mul_of_le (hproduct ▸ hfits), hproduct, hsplit, Nat.mul_mod_mul_right]
      · rw [if_pos (Nat.not_le.mp hfits), mulChecked_of_lt (hproduct ▸ Nat.not_le.mp hfits)]
    · rw [hunit, tenTo_of_lt (Nat.not_le.mp hgap), if_pos (.inr (Nat.not_le.mp hgap))]
      rfl
  · rw [tenTo_of_lt (Nat.not_le.mp hdecimals), if_pos (.inl (Nat.not_le.mp hdecimals))]
    rfl

theorem formatUnitsChecked_of_lt (hlt : places < decimals) :
    formatUnitsChecked amount decimals places = formatUnits amount decimals places := by
  rw [formatUnitsChecked, formatUnits, if_neg (Nat.not_le.mpr hlt), if_neg (Nat.not_le.mpr hlt)]
  by_cases hgap : decimals - places ≤ greatestExponent
  · obtain ⟨step, hstep, hstepValue⟩ := tenTo_of_le hgap
    by_cases hplaces : places ≤ greatestExponent
    · obtain ⟨unit, hunit, hunitValue⟩ := tenTo_of_le hplaces
      have hpowers : ¬ (greatestExponent < decimals - places ∨ greatestExponent < places) := by omega
      have hrounded : (addCapped amount (step / 2) / step).toNat =
          roundToStep amount (10 ^ (decimals - places)) := by
        rw [BitVec.toNat_udiv, toNat_addCapped, BitVec.toNat_udiv, hstepValue]
        rfl
      rw [hstep, hunit, if_neg hpowers]
      refine congrArg Except.ok (joined_eq_text ?_ ?_)
      · rw [BitVec.toNat_udiv, hrounded, hunitValue]
      · rw [BitVec.toNat_umod, hrounded, hunitValue]
    · rw [hstep, tenTo_of_lt (Nat.not_le.mp hplaces), if_pos (.inr (Nat.not_le.mp hplaces))]
      rfl
  · rw [tenTo_of_lt (Nat.not_le.mp hgap), if_pos (.inl (Nat.not_le.mp hgap))]
    rfl

end

theorem formatUnitsChecked_eq (amount : Word) (decimals places : Nat) :
    formatUnitsChecked amount decimals places = formatUnits amount decimals places := by
  rcases Nat.lt_or_ge places decimals with hlt | hle
  · exact formatUnitsChecked_of_lt hlt
  · exact formatUnitsChecked_of_le hle

theorem formatUnits_eq_error_iff {amount : Word} {decimals places : Nat} :
    formatUnits amount decimals places = .error .overflow ↔ ¬ Fits amount decimals places := by
  rw [← formatUnits_eq_ok_iff]
  cases formatUnits amount decimals places with
  | ok written => simp
  | error cause =>
      cases cause
      simp

/-- An amount overflows exactly when a power of ten is that of 78 or more, or its fractional part is not a word
with all the places. -/
theorem formatUnits_overflows_iff (amount : Word) (decimals places : Nat) :
    (formatUnits amount decimals places = .error .overflow ↔
      (decimals ≤ places ∧ (78 ≤ decimals ∨ 78 ≤ places - decimals ∨
        2 ^ 256 ≤ amount.toNat % 10 ^ decimals * 10 ^ (places - decimals))) ∨
      (places < decimals ∧ (78 ≤ decimals - places ∨ 78 ≤ places))) ∧
    (decimals ≤ 77 ∧ places ≤ 77 → ∃ written, formatUnits amount decimals places = .ok written) ∧
    formatUnitsChecked amount decimals places = formatUnits amount decimals places := by
  have hword (n : Nat) : ¬ n ≤ greatestWord ↔ 2 ^ 256 ≤ n := Nat.not_le
  have hpower (exponent : Nat) : ¬ 10 ^ exponent ≤ greatestWord ↔ 78 ≤ exponent :=
    (not_congr pow_le_greatestWord_iff).trans Nat.not_le
  refine ⟨?_, ?_, formatUnitsChecked_eq amount decimals places⟩
  · rw [formatUnits_eq_error_iff, Fits]
    by_cases hle : decimals ≤ places
    · rw [if_pos hle, not_and_or, not_and_or, hpower, hpower, hword]
      simp only [hle, true_and, Nat.not_lt.mpr hle, false_and, or_false]
    · rw [if_neg hle, not_and_or, hpower, hpower]
      simp only [hle, false_and, Nat.not_le.mp hle, true_and, false_or]
  · intro h
    obtain ⟨hdecimals, hplaces⟩ := h
    rw [formatUnits_eq_ok_iff, Fits]
    by_cases hle : decimals ≤ places
    · rw [if_pos hle]
      exact ⟨pow_le_greatestWord_iff.mpr hdecimals,
        pow_le_greatestWord_iff.mpr (Nat.le_trans (Nat.sub_le _ _) hplaces),
        fraction_le_greatestWord hle hplaces⟩
    · rw [if_neg hle]
      exact ⟨pow_le_greatestWord_iff.mpr (Nat.le_trans (Nat.sub_le _ _) hdecimals),
        pow_le_greatestWord_iff.mpr hplaces⟩

theorem greatestWord_overflows :
    ((77 ≤ 77 ∧ 77 ≤ 77) ∧ ∃ written, formatUnits (BitVec.allOnes 256) 77 77 = .ok written) ∧
      formatUnits (BitVec.allOnes 256) 77 78 = .error .overflow ∧
      formatUnits 0 0 78 = .error .overflow := by
  have hsafe : 77 ≤ 77 ∧ 77 ≤ 77 := ⟨Nat.le_refl 77, Nat.le_refl 77⟩
  have hproduct : 2 ^ 256 ≤ (BitVec.allOnes 256).toNat % 10 ^ 77 * 10 ^ (78 - 77) := by decide +kernel
  exact ⟨⟨hsafe, (formatUnits_overflows_iff (BitVec.allOnes 256) 77 77).2.1 hsafe⟩,
    (formatUnits_overflows_iff (BitVec.allOnes 256) 77 78).1.mpr
      (.inl ⟨by decide, .inr (.inr hproduct)⟩),
    (formatUnits_overflows_iff 0 0 78).1.mpr (.inl ⟨by decide, .inr (.inl (by decide))⟩)⟩

end LiquidityTrigger
