import LiquidityTrigger.Json.Scan
import LiquidityTrigger.Proofs.Text.Numeral
import LiquidityTrigger.Proofs.Text.Hex
import Mathlib.Tactic.SplitIfs

/-!
# The atoms of a JSON text read back

A quoted text and the numeral of a counter are read back as what was written, whatever stands behind them
as long as it does not continue a numeral. Each character of a text stands for itself or is escaped, and
either way reading it gathers the character and goes on behind it.
-/

namespace LiquidityTrigger.Json

/-! ### Blanks -/

def Blanks (cs : List Char) : Prop := ∀ c ∈ cs, isBlank c = true

theorem blanks_nil : Blanks [] := List.forall_mem_nil _

theorem skipBlank_append {front : List Char} (h : Blanks front) (cs : List Char) :
    skipBlank (front ++ cs) = skipBlank cs := List.dropWhile_append_of_pos h

theorem skipBlank_cons {c : Char} (h : isBlank c = false) (rest : List Char) :
    skipBlank (c :: rest) = c :: rest := by
  rw [skipBlank, List.dropWhile_cons, h]
  rfl

theorem skipBlank_append_cons {front : List Char} {c : Char} (hfront : Blanks front)
    (h : isBlank c = false) (rest : List Char) : skipBlank (front ++ c :: rest) = c :: rest := by
  rw [skipBlank_append hfront, skipBlank_cons h]

/-! ### Texts -/

theorem readEscape_control {c : Char} (h : c.toNat < 32) (tail : List Char) :
    readEscape ('u' :: '0' :: '0' :: Hex.digit (c.toNat / 16) :: Hex.digit (c.toNat % 16) :: tail) =
      .ok (c, 5) := by
  have hall : ∀ n < 32,
      Hex.toNat? ['0', '0', Hex.digit (n / 16), Hex.digit (n % 16)] = some n := by decide
  have hlow : isLowSurrogate c.toNat = false := by simp [isLowSurrogate]; omega
  have hhigh : isHighSurrogate c.toNat = false := by simp [isHighSurrogate]; omega
  simp only [readEscape, readUnit, hall _ h]
  simp [hlow, hhigh, pure, Except.pure, bind, Except.bind]

theorem readTextFrom_skip (front gathered tail : List Char) :
    readTextFrom front.length gathered (front ++ tail) = readTextFrom 0 gathered tail := by
  induction front with
  | nil => rfl
  | cons c front ih => exact ih

theorem readTextFrom_escaped {c : Char} {front tail : List Char}
    (h : readEscape (front ++ tail) = .ok (c, front.length)) (gathered : List Char) :
    readTextFrom 0 gathered ('\\' :: (front ++ tail)) = readTextFrom 0 (c :: gathered) tail := by
  rw [readTextFrom, if_neg (by decide), if_pos rfl, h]
  exact readTextFrom_skip front (c :: gathered) tail

/-- Behind what a character is written as, the character has been gathered. -/
theorem readTextFrom_escape (c : Char) (gathered tail : List Char) :
    readTextFrom 0 gathered (escape c ++ tail) = readTextFrom 0 (c :: gathered) tail := by
  -- A short escape is a letter that stands for one character.
  have hshort (letter e : Char) (hletter : letter ≠ 'u') (he : shortEscape? letter = some e) (hc : c = e) :
      readTextFrom 0 gathered ('\\' :: ([letter] ++ tail)) = readTextFrom 0 (c :: gathered) tail := by
    refine readTextFrom_escaped ?_ gathered
    rw [hc, List.singleton_append]
    unfold readEscape
    split
    · rename_i h
      cases h
    · rename_i h
      exact absurd (List.cons.inj h).1 hletter
    · rename_i h
      obtain ⟨rfl, -⟩ := List.cons.inj h
      rw [he]
      rfl
  have hof {n : Nat} (h : c.toNat = n) : c = Char.ofNat n := by rw [← h, Char.ofNat_toNat]
  rw [escape]
  split_ifs with hquote hbackslash hback htab hline hform hreturn hcontrol
  · exact hshort '"' '"' (by decide) rfl hquote
  · exact hshort '\\' '\\' (by decide) rfl hbackslash
  · exact hshort 'b' (Char.ofNat 8) (by decide) rfl (hof hback)
  · exact hshort 't' '\t' (by decide) rfl (hof htab)
  · exact hshort 'n' '\n' (by decide) rfl (hof hline)
  · exact hshort 'f' (Char.ofNat 12) (by decide) rfl (hof hform)
  · exact hshort 'r' '\r' (by decide) rfl (hof hreturn)
  · exact readTextFrom_escaped (readEscape_control hcontrol tail) gathered
  · rw [List.singleton_append, readTextFrom, if_neg hquote, if_neg hbackslash, if_neg hcontrol]

theorem readTextFrom_escapes (cs gathered tail : List Char) :
    readTextFrom 0 gathered (cs.flatMap escape ++ '"' :: tail) =
      .ok (String.ofList (gathered.reverse ++ cs), tail) := by
  induction cs generalizing gathered with
  | nil => simp [readTextFrom]
  | cons c cs ih =>
      rw [List.flatMap_cons, List.append_assoc, readTextFrom_escape, ih, List.reverse_cons,
        List.append_assoc, List.singleton_append]

theorem readText_quote (s : String) (tail : List Char) :
    readText (s.toList.flatMap escape ++ '"' :: tail) = .ok (s, tail) := by
  rw [readText, readTextFrom_escapes, List.reverse_nil, List.nil_append, String.ofList_toList]

/-! ### Counters -/

structure EndsNumeral (c : Char) : Prop where
  isDigit : Decimal.isDigit c = false
  ne_point : c ≠ '.'
  ne_e : c ≠ 'e'
  ne_E : c ≠ 'E'

instance (c : Char) : Decidable (EndsNumeral c) :=
  decidable_of_iff (Decimal.isDigit c = false ∧ c ≠ '.' ∧ c ≠ 'e' ∧ c ≠ 'E')
    ⟨fun ⟨hdigit, hpoint, he, hE⟩ => ⟨hdigit, hpoint, he, hE⟩,
      fun h => ⟨h.isDigit, h.ne_point, h.ne_e, h.ne_E⟩⟩

/-- A text that does not continue a numeral in front of it. -/
def Closed (rest : List Char) : Prop := ∀ c ∈ rest.head?, EndsNumeral c

theorem closed_nil : Closed [] := by
  intro c h
  cases h

theorem closed_cons {c : Char} (h : EndsNumeral c) (rest : List Char) : Closed (c :: rest) := by
  intro d hd
  cases hd
  exact h

theorem ne_of_isDigit {d e : Char} (hd : Decimal.isDigit d = true) (he : Decimal.isDigit e = false) :
    d ≠ e := by
  rintro rfl
  rw [hd] at he
  cases he

theorem isBlank_of_isDigit {d : Char} (hd : Decimal.isDigit d = true) : isBlank d = false := by
  simp [isBlank, ne_of_isDigit hd (e := ' ') rfl, ne_of_isDigit hd (e := '\n') rfl,
    ne_of_isDigit hd (e := '\t') rfl, ne_of_isDigit hd (e := '\r') rfl]

theorem endsNumeral_of_isBlank {c : Char} (h : isBlank c = true) : EndsNumeral c := by
  simp only [isBlank, Bool.or_eq_true, decide_eq_true_eq] at h
  rcases h with ((rfl | rfl) | rfl) | rfl <;> decide

theorem closed_append_cons {front : List Char} {c : Char} (hfront : Blanks front)
    (h : EndsNumeral c) (rest : List Char) : Closed (front ++ c :: rest) := by
  cases front with
  | nil => exact closed_cons h rest
  | cons b front => exact closed_cons (endsNumeral_of_isBlank (hfront b List.mem_cons_self)) _

/-- A run of digits is gathered as a whole if its number fits the counter. -/
theorem gather_digits {ds rest : List Char} (hdigits : ∀ d ∈ ds, Decimal.isDigit d = true)
    (hend : Closed rest) (counter taken : Nat)
    (hfits : ds.foldl (fun n c => n * 10 + Decimal.digitValue c) counter ≤ greatestCounter) :
    gather counter taken (ds ++ rest) =
      (ds.foldl (fun n c => n * 10 + Decimal.digitValue c) counter, taken + ds.length, rest) := by
  induction ds generalizing counter taken with
  | nil =>
      cases rest with
      | nil => rfl
      | cons c rest =>
          have hstops : ¬ (Decimal.isDigit c = true ∧
              counter * 10 + Decimal.digitValue c ≤ greatestCounter) := by
            simp [(hend c rfl).isDigit]
          rw [List.nil_append, gather, if_neg hstops]
          rfl
  | cons d ds ih =>
      rw [List.foldl_cons] at hfits ⊢
      have hgoes : Decimal.isDigit d = true ∧
          counter * 10 + Decimal.digitValue d ≤ greatestCounter :=
        ⟨hdigits d List.mem_cons_self, Nat.le_trans (Decimal.le_foldl_digits _ ds) hfits⟩
      rw [List.cons_append, gather, if_pos hgoes,
        ih (fun d hd => hdigits d (List.mem_cons_of_mem _ hd)) _ _ hfits, List.length_cons,
        Nat.add_right_comm, Nat.add_assoc]

theorem readNumber_zero (negative : Bool) {rest : List Char} (hend : Closed rest) :
    readNumber negative ('0' :: rest) = (makeInteger negative 0).map fun n => (n, rest) := by
  cases rest with
  | nil => cases negative <;> rfl
  | cons c rest =>
      obtain ⟨hdigit, hpoint, he, hE⟩ := hend c rfl
      simp only [readNumber, hdigit, hpoint, he, hE, Bool.false_eq_true, if_false, or_self]
      cases makeInteger negative 0 <;> rfl

theorem readNumber_numeral (negative : Bool) {n : Nat} (hn : n < 2 ^ 64) {rest : List Char}
    (hend : Closed rest) :
    readNumber negative (Decimal.digits n ++ rest) = (makeInteger negative n).map fun n => (n, rest) := by
  rcases Nat.eq_zero_or_pos n with rfl | hpos
  · rw [Decimal.digits_zero]
    exact readNumber_zero negative hend
  · obtain ⟨d, ds, hdigits, hd, hzero⟩ := Decimal.exists_digits_eq_cons hpos
    have hgather : gather 0 0 (d :: (ds ++ rest)) = (n, (Decimal.digits n).length, rest) := by
      have hvalue : (Decimal.digits n).foldl (fun n c => n * 10 + Decimal.digitValue c) 0 = n :=
        Decimal.value_digits n
      have hfits : n ≤ greatestCounter := Nat.le_sub_one_of_lt hn
      rw [← List.cons_append, ← hdigits,
        gather_digits (fun _ => Decimal.isDigit_of_mem_digits) hend 0 0 (hvalue.symm ▸ hfits),
        hvalue, Nat.zero_add]
    have hrest : rest.takeWhile Decimal.isDigit = [] ∧ rest.dropWhile Decimal.isDigit = rest := by
      cases rest with
      | nil => exact ⟨rfl, rfl⟩
      | cons c rest => simp [(hend c rfl).isDigit]
    rw [hdigits, List.cons_append, readNumber]
    · simp only [hd, Bool.not_true, Bool.false_eq_true, if_false, hgather, hrest.1, hrest.2,
        List.length_nil]
      -- None of the characters that the reader looks for stands there.
      split
      · exact absurd rfl (hend '.' rfl).ne_point
      · split
        · exact absurd rfl (hend 'e' rfl).ne_e
        · exact absurd rfl (hend 'E' rfl).ne_E
        · cases makeInteger negative n <;> rfl
        · rename_i hdropped
          exact absurd rfl hdropped
    · exact fun _ _ h _ => hzero h

theorem readNumber_digits {n : Nat} (hn : n < 2 ^ 64) {rest : List Char} (hend : Closed rest) :
    readNumber false (Decimal.digits n ++ rest) = .ok (.counter (UInt64.ofNat n), rest) :=
  readNumber_numeral false hn hend

theorem readNumber_negative {n : Nat} (hpos : 1 ≤ n) (hbound : n ≤ 2 ^ 63) {rest : List Char}
    (hend : Closed rest) : readNumber true (Decimal.digits n ++ rest) = .ok (.negative n, rest) := by
  have hinteger : makeInteger true n = .ok (.negative n) := by
    rw [makeInteger, if_neg (by decide), if_pos ⟨hpos, hbound⟩]
  rw [readNumber_numeral true (by omega) hend, hinteger]
  rfl

end LiquidityTrigger.Json
