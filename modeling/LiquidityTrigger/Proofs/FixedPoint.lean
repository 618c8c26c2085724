import LiquidityTrigger.FixedPoint
import LiquidityTrigger.Proofs.Text.Numeral
import Mathlib.Algebra.Order.Round
import Mathlib.Data.List.TakeWhile
import Mathlib.Data.Nat.Cast.Field
import Mathlib.Data.Nat.ModEq
import Mathlib.Data.Rat.Floor
import Mathlib.Tactic.FieldSimp

/-!
# What fixed-point texts denote

A fixed-point text denotes a rational number. There is one exactly when the powers of ten and the product on
the way to it are words (`formatUnits_eq_ok_iff`). With as many places as decimals, or more, the number is the
amount; with fewer it is the nearest one that has so many places, the upper one of two. Rounding adds half a
step, and that sum stops at the greatest word: where it does, the text may come out one last place too low,
depending on where the greatest word lies between two steps.
-/

namespace LiquidityTrigger

namespace FixedPoint

/-! ### The form of a text -/

/-- A numeral, and behind it, if there are places, a point and that many digits. -/
def IsFixed (places : Nat) (written : String) : Prop :=
  ∃ whole fraction : List Char, Decimal.IsNumeral whole ∧ fraction.length = places ∧
    (∀ c ∈ fraction, Decimal.isDigit c = true) ∧
    written.toList = if places = 0 then whole else whole ++ '.' :: fraction

/-- The number that a text denotes: what stands in front of the point, and its share of what stands behind
it. -/
def denoted (written : String) : ℚ :=
  let whole := written.toList.takeWhile (· != '.')
  let fraction := (written.toList.dropWhile (· != '.')).tail
  Decimal.value whole + Decimal.value fraction / 10 ^ fraction.length

example : denoted "12.3400" = 617 / 50 := by decide +kernel

theorem ne_point_of_isDigit {cs : List Char} (h : ∀ c ∈ cs, Decimal.isDigit c = true) :
    ∀ c ∈ cs, (c != '.') = true := by
  intro c hc
  rw [bne_iff_ne]
  rintro rfl
  exact absurd (h '.' hc) (by decide)

theorem denoted_whole {whole : List Char} (h : ∀ c ∈ whole, Decimal.isDigit c = true) :
    denoted (String.ofList whole) = Decimal.value whole := by
  have hwhole := ne_point_of_isDigit h
  simp [denoted, List.takeWhile_eq_self_iff.mpr hwhole, List.dropWhile_eq_nil_iff.mpr hwhole]

theorem denoted_point {whole fraction : List Char} (h : ∀ c ∈ whole, Decimal.isDigit c = true) :
    denoted (String.ofList (whole ++ '.' :: fraction)) =
      Decimal.value whole + Decimal.value fraction / 10 ^ fraction.length := by
  have hwhole := ne_point_of_isDigit h
  simp [denoted, List.takeWhile_append_of_pos hwhole, List.dropWhile_append_of_pos hwhole]

variable (places n : Nat)

theorem text_zero : text 0 n = String.ofList (Decimal.digits n) := by
  rw [text, if_pos rfl, Nat.pow_zero, Nat.div_one]

theorem text_of_pos {places : Nat} (h : 0 < places) (n : Nat) :
    text places n = String.ofList (Decimal.digits (n / 10 ^ places) ++
      '.' :: Decimal.padLeft places (Decimal.digits (n % 10 ^ places))) := by
  rw [text, if_neg h.ne', List.append_assoc, List.singleton_append]

theorem length_fraction {places : Nat} (h : 0 < places) (n : Nat) :
    (Decimal.padLeft places (Decimal.digits (n % 10 ^ places))).length = places :=
  Decimal.length_padLeft (Decimal.length_digits_le h (Nat.mod_lt n (Nat.pow_pos (by decide))))

theorem isFixed_text : IsFixed places (text places n) := by
  rcases Nat.eq_zero_or_pos places with rfl | hpos
  · refine ⟨Decimal.digits n, [], Decimal.isNumeral_digits n, rfl, ?_, ?_⟩
    · intro c hc
      cases hc
    · rw [text_zero, String.toList_ofList, if_pos rfl]
  · refine ⟨Decimal.digits (n / 10 ^ places),
      Decimal.padLeft places (Decimal.digits (n % 10 ^ places)), Decimal.isNumeral_digits _,
      length_fraction hpos n,
      Decimal.isDigit_of_mem_padLeft fun _ => Decimal.isDigit_of_mem_digits, ?_⟩
    rw [text_of_pos hpos, String.toList_ofList, if_neg hpos.ne']

theorem denoted_text : denoted (text places n) = n / 10 ^ places := by
  rcases Nat.eq_zero_or_pos places with rfl | hpos
  · rw [text_zero, denoted_whole fun _ => Decimal.isDigit_of_mem_digits, Decimal.value_digits,
      pow_zero, div_one]
  · have hsplit : ((10 ^ places * (n / 10 ^ places) + n % 10 ^ places : ℕ) : ℚ) = n := by
      rw [Nat.div_add_mod]
    push_cast at hsplit
    rw [text_of_pos hpos, denoted_point fun _ => Decimal.isDigit_of_mem_digits, length_fraction hpos,
      Decimal.value_padLeft, Decimal.value_digits, Decimal.value_digits,
      eq_div_iff (by positivity), ← hsplit]
    field_simp

/-! ### Rounding -/

def halfUp (n step : Nat) : Nat := (n + step / 2) / step

theorem halfUp_eq_round {n step : Nat} (hpos : 0 < step) (heven : 2 ∣ step) :
    (halfUp n step : ℤ) = round ((n : ℚ) / step) := by
  have hstep : (step : ℚ) ≠ 0 := Nat.cast_ne_zero.mpr hpos.ne'
  have hshift : (n : ℚ) / step + 1 / 2 = (n + step / 2 : ℕ) / (step : ℕ) := by
    rw [Nat.cast_add, Nat.cast_div heven two_ne_zero]
    field_simp
    ring
  rw [round_eq, hshift, Rat.floor_natCast_div_natCast, halfUp, Int.natCast_div]

theorem halfUp_mono {a b : Nat} (h : a ≤ b) (step : Nat) : halfUp a step ≤ halfUp b step :=
  Nat.div_le_div_right (Nat.add_le_add_right h _)

variable {amount : Word} {step : Nat}

theorem toNat_le_greatestWord (amount : Word) : amount.toNat ≤ greatestWord :=
  Nat.le_sub_one_of_lt amount.isLt

theorem roundToStep_of_le (h : amount.toNat + step / 2 ≤ greatestWord) :
    roundToStep amount step = halfUp amount.toNat step := by
  rw [roundToStep, Nat.min_eq_left h, halfUp]

theorem roundToStep_of_lt (h : greatestWord < amount.toNat + step / 2) :
    roundToStep amount step = greatestWord / step := by
  rw [roundToStep, Nat.min_eq_right h.le]

/-- A capped sum loses at most one step. -/
theorem capped_eq_or (hpos : 0 < step) (h : greatestWord < amount.toNat + step / 2) :
    greatestWord / step = halfUp amount.toNat step ∨
      greatestWord / step + 1 = halfUp amount.toNat step := by
  have hlower : greatestWord / step ≤ halfUp amount.toNat step := Nat.div_le_div_right h.le
  have hupper : halfUp amount.toNat step ≤ greatestWord / step + 1 := by
    rw [← Nat.add_div_right _ hpos]
    exact Nat.div_le_div_right
      (Nat.add_le_add (toNat_le_greatestWord amount) (Nat.div_le_self step 2))
  omega

/-- Nothing is lost where the greatest word lies less than half a step above a multiple of it. -/
theorem roundToStep_eq_halfUp (h : greatestWord % step + step / 2 < step) :
    roundToStep amount step = halfUp amount.toNat step := by
  have hpos : 0 < step := Nat.zero_lt_of_lt h
  rcases Nat.lt_or_ge greatestWord (amount.toNat + step / 2) with hlt | hle
  · have hupper : halfUp amount.toNat step ≤ halfUp greatestWord step :=
      halfUp_mono (toNat_le_greatestWord amount) step
    have hsame : halfUp greatestWord step = greatestWord / step := by
      rw [halfUp, Nat.add_div_eq_of_add_mod_lt]
      · rw [Nat.div_eq_of_lt (Nat.div_lt_self hpos (by decide)), Nat.add_zero]
      · rwa [Nat.mod_eq_of_lt (Nat.div_lt_self hpos (by decide))]
    rw [roundToStep_of_lt hlt]
    exact Nat.le_antisymm (Nat.div_le_div_right hlt.le) (hsame ▸ hupper)
  · exact roundToStep_of_le hle

/-! ### What fits a word -/

theorem pow_le_greatestWord_iff {exponent : Nat} :
    10 ^ exponent ≤ greatestWord ↔ exponent ≤ greatestExponent := by
  constructor
  · intro h
    by_contra hlarge
    have hnext : 10 ^ (greatestExponent + 1) ≤ 10 ^ exponent :=
      Nat.pow_le_pow_right (by decide) (Nat.lt_of_not_le hlarge)
    exact absurd (Nat.le_trans hnext h) (by decide)
  · intro h
    exact Nat.le_trans (Nat.pow_le_pow_right (by decide) h) (by decide)

/-- Every power of ten and every product on the way to a text is a word. -/
def Fits (amount : Word) (decimals places : Nat) : Prop :=
  if decimals ≤ places then
    10 ^ decimals ≤ greatestWord ∧ 10 ^ (places - decimals) ≤ greatestWord ∧
      amount.toNat % 10 ^ decimals * 10 ^ (places - decimals) ≤ greatestWord
  else 10 ^ (decimals - places) ≤ greatestWord ∧ 10 ^ places ≤ greatestWord

end FixedPoint

open FixedPoint

/-! ### Amounts in units -/

section

variable {amount : Word} {decimals places : Nat} {written : String}

theorem formatUnits_of_le (hle : decimals ≤ places)
    (h : formatUnits amount decimals places = .ok written) :
    written = text places (amount.toNat * 10 ^ (places - decimals)) := by
  simp only [formatUnits, if_pos hle] at h
  split at h
  · cases h
  · split at h
    · cases h
    · cases h
      rfl

theorem formatUnits_of_lt (hlt : places < decimals)
    (h : formatUnits amount decimals places = .ok written) :
    written = text places (roundToStep amount (10 ^ (decimals - places))) := by
  simp only [formatUnits, if_neg (Nat.not_le.mpr hlt)] at h
  split at h
  · cases h
  · cases h
    rfl

theorem formatUnits_eq_ok_iff :
    (∃ written, formatUnits amount decimals places = .ok written) ↔ Fits amount decimals places := by
  by_cases hle : decimals ≤ places
  · rw [Fits, if_pos hle, pow_le_greatestWord_iff, pow_le_greatestWord_iff]
    simp only [formatUnits, if_pos hle]
    split
    · exact iff_of_false (by simp) (by omega)
    · split
      · exact iff_of_false (by simp) (by omega)
      · exact iff_of_true ⟨_, rfl⟩ (by omega)
  · rw [Fits, if_neg hle, pow_le_greatestWord_iff, pow_le_greatestWord_iff]
    simp only [formatUnits, if_neg hle]
    split
    · exact iff_of_false (by simp) (by omega)
    · exact iff_of_true ⟨_, rfl⟩ (by omega)

theorem isFixed_of_formatUnits (h : formatUnits amount decimals places = .ok written) :
    IsFixed places written := by
  rcases Nat.lt_or_ge places decimals with hlt | hle
  · rw [formatUnits_of_lt hlt h]
    exact isFixed_text places _
  · rw [formatUnits_of_le hle h]
    exact isFixed_text places _

theorem denoted_of_formatUnits (hle : decimals ≤ places)
    (h : formatUnits amount decimals places = .ok written) :
    denoted written = amount.toNat / 10 ^ decimals := by
  rw [formatUnits_of_le hle h, denoted_text, ← Nat.sub_add_cancel hle, Nat.add_sub_cancel, pow_add]
  push_cast
  field_simp

end

/-- A text denotes the amount, or the amount rounded half up when there are fewer places than decimals, unless
the sum that rounds is greater than a word. -/
theorem formatUnits_rounds_half_up (amount : Word) (decimals places : Nat) :
    ((∃ written, formatUnits amount decimals places = .ok written) ↔ Fits amount decimals places) ∧
    ∀ written, formatUnits amount decimals places = .ok written →
      IsFixed places written ∧
      (decimals ≤ places → denoted written = amount.toNat / 10 ^ decimals) ∧
      (places < decimals →
        let step := 10 ^ (decimals - places)
        let rounded := halfUp amount.toNat step
        let capped := greatestWord / step
        (rounded : ℤ) = round ((amount.toNat : ℚ) / step) ∧
        (amount.toNat + step / 2 ≤ greatestWord → denoted written = rounded / 10 ^ places) ∧
        (greatestWord < amount.toNat + step / 2 →
          denoted written = capped / 10 ^ places ∧ (capped = rounded ∨ capped + 1 = rounded))) := by
  refine ⟨formatUnits_eq_ok_iff, fun written h =>
    ⟨isFixed_of_formatUnits h, fun hle => denoted_of_formatUnits hle h, ?_⟩⟩
  intro hlt step rounded capped
  have hpos : 0 < step := Nat.pow_pos (by decide)
  have heven : 2 ∣ step :=
    Nat.dvd_trans (by decide) (dvd_pow_self 10 (Nat.sub_pos_of_lt hlt).ne')
  refine ⟨halfUp_eq_round hpos heven, ?_, ?_⟩
  · intro hfits
    rw [formatUnits_of_lt hlt h, denoted_text, roundToStep_of_le hfits]
  · intro hcapped
    rw [formatUnits_of_lt hlt h, denoted_text, roundToStep_of_lt hcapped]
    exact ⟨rfl, capped_eq_or hpos hcapped⟩

theorem formatUnits_samples :
    formatUnits 1234 2 4 = .ok "12.3400" ∧ denoted "12.3400" = (1234 : Word).toNat / 10 ^ 2 ∧
    formatUnits 999960000000000000 18 4 = .ok "1.0000" ∧
      denoted "1.0000" = halfUp (999960000000000000 : Word).toNat (10 ^ (18 - 4)) / 10 ^ 4 ∧
    greatestWord < (BitVec.allOnes 256).toNat + 10 ^ (1 - 0) / 2 ∧
      denoted "11579208923731619542357098500868790785326998466564056403945758400791312963993" =
        (greatestWord / 10 ^ (1 - 0) : ℕ) / 10 ^ 0 ∧
      greatestWord / 10 ^ (1 - 0) + 1 = halfUp (BitVec.allOnes 256).toNat (10 ^ (1 - 0)) := by
  have hexact : formatUnits 1234 2 4 = .ok "12.3400" := by decide +kernel
  have hcarry : formatUnits 999960000000000000 18 4 = .ok "1.0000" := by decide +kernel
  have hcapped : formatUnits (BitVec.allOnes 256) 1 0 =
      .ok "11579208923731619542357098500868790785326998466564056403945758400791312963993" := by
    decide +kernel
  have hexceeds : greatestWord < (BitVec.allOnes 256).toNat + 10 ^ (1 - 0) / 2 := by decide +kernel
  obtain ⟨-, hexactly, -⟩ := (formatUnits_rounds_half_up 1234 2 4).2 _ hexact
  obtain ⟨-, -, hrounded⟩ := (formatUnits_rounds_half_up 999960000000000000 18 4).2 _ hcarry
  obtain ⟨-, -, hbounded⟩ := (formatUnits_rounds_half_up (BitVec.allOnes 256) 1 0).2 _ hcapped
  obtain ⟨hvalue, hless⟩ := (hbounded (by decide)).2.2 hexceeds
  exact ⟨hexact, hexactly (by decide), hcarry, (hrounded (by decide)).2.1 (by decide +kernel), hexceeds,
    hvalue, hless.resolve_left (by decide +kernel)⟩

/-! ### Amounts of 18 decimals -/

theorem formatUnits_eq_formatEther (amount : Word) :
    formatUnits amount 18 4 = .ok (formatEther amount) := rfl

theorem denoted_formatEther (amount : Word) :
    denoted (formatEther amount) = halfUp amount.toNat (10 ^ 14) / 10 ^ 4 := by
  rw [formatEther, denoted_text, roundToStep_eq_halfUp (by decide)]

theorem denoted_formatEther_mono {a b : Word} (h : a ≤ b) :
    denoted (formatEther a) ≤ denoted (formatEther b) := by
  rw [denoted_formatEther, denoted_formatEther]
  have hrounded : halfUp a.toNat (10 ^ 14) ≤ halfUp b.toNat (10 ^ 14) := halfUp_mono h _
  gcongr

end LiquidityTrigger
