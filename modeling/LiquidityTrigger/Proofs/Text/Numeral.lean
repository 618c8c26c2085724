import LiquidityTrigger.Bytes
import LiquidityTrigger.Text.Numeral
import Mathlib.Data.List.Induction
import Mathlib.Data.List.TakeWhile

/-!
# Numerals and white space read back

A numeral consists of digits, denotes its number and starts with a zero only if it is nothing else. Zeros on
its left fill it up to any width and denote nothing.

Trimming takes white space off both ends of a text and nothing else. So a text is what is left of it with
white space around, and whatever neither starts nor ends with white space is found inside any of it.
-/

namespace LiquidityTrigger.Decimal

theorem isDigit_of_mem_digits {n : Nat} {c : Char} (h : c ∈ digits n) : isDigit c = true :=
  Nat.isDigit_of_mem_toDigits (by decide) (by decide) h

theorem digits_ne_nil (n : Nat) : digits n ≠ [] := Nat.toDigits_ne_nil

theorem value_digits (n : Nat) : value (digits n) = n := by
  have hcomm : (fun k (c : Char) => k * 10 + digitValue c) =
      fun k c => 10 * k + (c.toNat - '0'.toNat) := by
    funext k c
    rw [Nat.mul_comm, digitValue]
  rw [value, hcomm]
  exact Nat.ofDigitChars_toDigits (by decide) (by decide)

theorem digits_zero : digits 0 = ['0'] := rfl

theorem digits_of_lt {n : Nat} (h : n < 10) : digits n = [n.digitChar] := Nat.toDigits_of_lt_base h

theorem digits_of_le {n : Nat} (h : 10 ≤ n) : digits n = digits (n / 10) ++ [(n % 10).digitChar] :=
  Nat.toDigits_of_base_le (by decide) h

theorem exists_digits_eq_cons {n : Nat} (h : 0 < n) :
    ∃ c cs, digits n = c :: cs ∧ isDigit c = true ∧ c ≠ '0' := by
  induction n using Nat.strongRecOn with
  | ind n ih =>
      rcases Nat.lt_or_ge n 10 with hsmall | hlarge
      · have hall : ∀ k < 10, 0 < k → isDigit k.digitChar = true ∧ k.digitChar ≠ '0' := by decide
        exact ⟨n.digitChar, [], digits_of_lt hsmall, hall n hsmall h⟩
      · obtain ⟨c, cs, hdigits, hc⟩ := ih (n / 10) (by omega) (by omega)
        exact ⟨c, cs ++ [(n % 10).digitChar], by rw [digits_of_le hlarge, hdigits, List.cons_append], hc⟩

theorem length_digits_le {n width : Nat} (hwidth : 0 < width) (h : n < 10 ^ width) :
    (digits n).length ≤ width :=
  (Nat.length_toDigits_le_iff (by decide) hwidth).mpr h

theorem le_foldl_digits (counter : Nat) (ds : List Char) :
    counter ≤ ds.foldl (fun n c => n * 10 + digitValue c) counter := by
  induction ds generalizing counter with
  | nil => exact Nat.le_refl counter
  | cons d ds ih =>
      have hstep : counter ≤ counter * 10 + digitValue d := by omega
      exact Nat.le_trans hstep (ih _)

/-! ### Without superfluous zeros -/

/-- Digits, at least one, of which the first is a zero only if it is the only one. -/
structure IsNumeral (cs : List Char) : Prop where
  ne_nil : cs ≠ []
  isDigit : ∀ c ∈ cs, isDigit c = true
  leading : ∀ rest, cs = '0' :: rest → rest = []

theorem isNumeral_digits (n : Nat) : IsNumeral (digits n) where
  ne_nil := digits_ne_nil n
  isDigit := fun _ => isDigit_of_mem_digits
  leading := by
    intro rest h
    rcases Nat.eq_zero_or_pos n with rfl | hpos
    · exact (List.cons.inj h).2.symm
    · obtain ⟨c, cs, hdigits, -, hc⟩ := exists_digits_eq_cons hpos
      exact absurd (List.cons.inj (hdigits.symm.trans h)).1 hc

/-! ### Zeros on the left -/

theorem value_append (cs ds : List Char) :
    value (cs ++ ds) = value cs * 10 ^ ds.length + value ds := by
  induction ds using List.reverseRecOn with
  | nil => simp
  | append_singleton ds c ih =>
      rw [← List.append_assoc, value_append_singleton, value_append_singleton, ih, List.length_append,
        List.length_singleton, Nat.pow_succ, Nat.add_mul, Nat.mul_assoc, Nat.add_assoc]

theorem value_replicate_zero (n : Nat) : value (List.replicate n '0') = 0 := by
  induction n with
  | zero => rfl
  | succ n ih =>
      rw [List.replicate_succ', value_append_singleton, ih]
      rfl

theorem value_padLeft (width : Nat) (cs : List Char) : value (padLeft width cs) = value cs := by
  rw [padLeft, value_append, value_replicate_zero, Nat.zero_mul, Nat.zero_add]

theorem length_padLeft {width : Nat} {cs : List Char} (h : cs.length ≤ width) :
    (padLeft width cs).length = width := by
  rw [padLeft, List.length_append, List.length_replicate, Nat.sub_add_cancel h]

theorem isDigit_of_mem_padLeft {width : Nat} {cs : List Char} (h : ∀ c ∈ cs, isDigit c = true) :
    ∀ c ∈ padLeft width cs, isDigit c = true := by
  intro c hc
  rcases List.mem_append.mp hc with hzero | hmem
  · rw [List.eq_of_mem_replicate hzero]
    rfl
  · exact h c hmem

end LiquidityTrigger.Decimal

namespace LiquidityTrigger.Blank

def Run (cs : List Char) : Prop := ∀ c ∈ cs, isBlank c = true

instance (cs : List Char) : Decidable (Run cs) :=
  decidable_of_iff (cs.all isBlank = true) List.all_eq_true

/-- No white space at either end. -/
structure Bare (cs : List Char) : Prop where
  front : ∀ c ∈ cs.head?, isBlank c = false
  back : ∀ c ∈ cs.getLast?, isBlank c = false

theorem bare_of_forall {cs : List Char} (h : ∀ c ∈ cs, isBlank c = false) : Bare cs where
  front c hc := h c (List.mem_of_mem_head? hc)
  back c hc := h c (List.mem_of_mem_getLast? hc)

theorem trimStart_of_front {cs : List Char} (h : ∀ c ∈ cs.head?, isBlank c = false) :
    trimStart cs = cs := by
  cases cs with
  | nil => rfl
  | cons c cs =>
      have hc : ¬ isBlank c = true := by simp [h c rfl]
      exact List.dropWhile_cons_of_neg hc

theorem trimEnd_of_back {cs : List Char} (h : ∀ c ∈ cs.getLast?, isBlank c = false) :
    trimEnd cs = cs := by
  rw [← List.head?_reverse] at h
  have hreverse : cs.reverse.dropWhile isBlank = cs.reverse := trimStart_of_front h
  rw [trimEnd, hreverse, List.reverse_reverse]

theorem trimStart_append {before : List Char} (h : Run before) (cs : List Char) :
    trimStart (before ++ cs) = trimStart cs := List.dropWhile_append_of_pos h

theorem trimEnd_append {behind : List Char} (h : Run behind) (cs : List Char) :
    trimEnd (cs ++ behind) = trimEnd cs := by
  have hreverse : ∀ c ∈ behind.reverse, isBlank c = true := fun c hc => h c (List.mem_reverse.mp hc)
  rw [trimEnd, List.reverse_append, List.dropWhile_append_of_pos hreverse, trimEnd]

/-- What has no white space at its ends is what trimming leaves of it with white space around. -/
theorem trim_around {before core behind : List Char} (hbefore : Run before) (hcore : Bare core)
    (hbehind : Run behind) : trim (before ++ core ++ behind) = core := by
  rw [trim, List.append_assoc, trimStart_append hbefore]
  cases core with
  | nil =>
      have hnone : trimStart behind = [] := List.dropWhile_eq_nil_iff.mpr hbehind
      rw [List.nil_append, hnone]
      rfl
  | cons c core =>
      have hfront : trimStart (c :: core ++ behind) = c :: core ++ behind :=
        trimStart_of_front hcore.front
      rw [hfront, trimEnd_append hbehind, trimEnd_of_back hcore.back]

/-- A text is what trimming leaves of it, with white space around. -/
theorem exists_around_trim (cs : List Char) :
    ∃ before behind, Run before ∧ Run behind ∧ cs = before ++ trim cs ++ behind := by
  have hfront : cs.takeWhile isBlank ++ trimStart cs = cs := List.takeWhile_append_dropWhile
  have hback : trim cs ++ ((trimStart cs).reverse.takeWhile isBlank).reverse = trimStart cs := by
    rw [trim, trimEnd, ← List.reverse_append, List.takeWhile_append_dropWhile, List.reverse_reverse]
  refine ⟨cs.takeWhile isBlank, ((trimStart cs).reverse.takeWhile isBlank).reverse, ?_, ?_, ?_⟩
  · intro c hc
    exact List.mem_takeWhile_imp hc
  · intro c hc
    exact List.mem_takeWhile_imp (List.mem_reverse.mp hc)
  · rw [List.append_assoc, hback, hfront]

end LiquidityTrigger.Blank
