import LiquidityTrigger.Proofs.Overflow
import LiquidityTrigger.Proofs.Text.Numeral
import LiquidityTrigger.Proofs.Text.Utf8
import LiquidityTrigger.Settings
import Mathlib.Data.Nat.Digits.Defs

/-!
# Amounts as numerals

`Decimal.Denotes` says which texts are numerals and of which number: the digits count by their places, and white
space may stand around them. An amount is read from the numerals of the numbers below `2 ^ 256` and from nothing
else. The number is of any size when `Word.ofDecimal?` looks at the bound; `Word.readDigits?` reads byte by byte
on words instead and checks every product and every sum. Since a numeral that goes on never denotes less, both
come to the same.
-/

namespace LiquidityTrigger

/-! ### Which texts are numerals -/

namespace Decimal

/-- A text of ASCII digits, any number of them, with white space around is a numeral of the number that the
digits make by their places. -/
inductive Denotes : List Char → Nat → Prop
  | intro {before digits behind : List Char} (hbefore : Blank.Run before)
      (hdigits : ∀ c ∈ digits, isDigit c = true) (hbehind : Blank.Run behind) :
      Denotes (before ++ digits ++ behind) (Nat.ofDigits 10 (digits.reverse.map digitValue))

theorem isDigit_iff {c : Char} : isDigit c = true ↔ 48 ≤ c.toNat ∧ c.toNat ≤ 57 := by
  rw [isDigit, Bool.and_eq_true, decide_eq_true_iff, decide_eq_true_iff]
  rfl

theorem isBlank_of_isDigit {c : Char} (h : isDigit c = true) : Blank.isBlank c = false := by
  have hascii : c.toNat < 0x80 := Nat.lt_of_le_of_lt (isDigit_iff.mp h).2 (by decide)
  exact Utf8.of_ascii (p := fun c => isDigit c = true → Blank.isBlank c = false) (by decide) hascii h

theorem value_eq_ofDigits (cs : List Char) :
    value cs = Nat.ofDigits 10 (cs.reverse.map digitValue) := by
  induction cs using List.reverseRecOn with
  | nil => rfl
  | append_singleton cs c ih =>
      rw [value_append_singleton, ih, List.reverse_append, List.reverse_singleton, List.singleton_append,
        List.map_cons, Nat.ofDigits_cons, Nat.mul_comm, Nat.add_comm]

theorem denotes_iff {cs : List Char} {n : Nat} : Denotes cs n ↔ read? (Blank.trim cs) = some n := by
  constructor
  · intro h
    cases h with
    | intro hbefore hdigits hbehind =>
        have hbare := Blank.bare_of_forall fun c hc => isBlank_of_isDigit (hdigits c hc)
        rw [Blank.trim_around hbefore hbare hbehind, read?, if_pos (List.all_eq_true.mpr hdigits),
          value_eq_ofDigits]
  · intro h
    obtain ⟨before, behind, hbefore, hbehind, haround⟩ := Blank.exists_around_trim cs
    rw [read?] at h
    split at h
    · rename_i hdigits
      obtain rfl := Option.some.inj h
      have hdenotes := Denotes.intro hbefore (List.all_eq_true.mp hdigits) hbehind
      rwa [← haround, ← value_eq_ofDigits] at hdenotes
    · cases h

theorem Denotes.unique {cs : List Char} {n m : Nat} (h : Denotes cs n) (h' : Denotes cs m) : n = m :=
  Option.some.inj ((denotes_iff.mp h).symm.trans (denotes_iff.mp h'))

theorem denotes_digits {before behind : List Char} (hbefore : Blank.Run before) (hbehind : Blank.Run behind)
    (n : Nat) : Denotes (before ++ digits n ++ behind) n := by
  have h := Denotes.intro hbefore (fun c => isDigit_of_mem_digits (n := n)) hbehind
  rwa [← value_eq_ofDigits, value_digits] at h

private theorem exists_eq_append_of_not_mem {α : Type} {xs ys front back : List α} {a : α} (ha : a ∉ xs)
    (h : xs ++ ys = front ++ a :: back) : ∃ more, ys = more ++ a :: back := by
  rcases List.append_eq_append_iff.mp h with ⟨more, -, hys⟩ | ⟨more, rfl, hcons⟩
  · exact ⟨more, hys⟩
  · cases more with
    | nil => exact ⟨[], hcons.symm⟩
    | cons b more =>
        obtain ⟨rfl, -⟩ := List.cons.inj hcons
        exact absurd (by simp) ha

/-- A character of a numeral that is no digit is white space in front of all digits or behind them. -/
theorem Denotes.run_of_stranger {front back : List Char} {c : Char} {n : Nat}
    (h : Denotes (front ++ c :: back) n) (hc : isDigit c = false) :
    Blank.isBlank c = true ∧ (Blank.Run front ∨ Blank.Run back) := by
  generalize htext : front ++ c :: back = text at h
  cases h with
  | @intro before digits behind hbefore hdigits hbehind =>
      have hstranger : c ∉ digits := fun hmem => by simp [hdigits c hmem] at hc
      by_cases hmem : c ∈ before ∧ Blank.Run front
      · exact ⟨hbefore c hmem.1, .inl hmem.2⟩
      · rw [List.append_assoc] at htext
        obtain ⟨more, rfl⟩ : ∃ more, behind = more ++ c :: back := by
          rcases List.append_eq_append_iff.mp htext with ⟨rest, rfl, hrest⟩ | ⟨rest, -, hrest⟩
          · cases rest with
            | nil =>
                have hnone : digits ++ behind = [] ++ c :: back := hrest.symm
                exact exists_eq_append_of_not_mem hstranger hnone
            | cons d rest =>
                obtain ⟨rfl, -⟩ := List.cons.inj hrest
                exact absurd ⟨by simp, fun d hd => hbefore d (by simp [hd])⟩ hmem
          · exact exists_eq_append_of_not_mem hstranger hrest
        exact ⟨hbehind c (by simp), .inr fun d hd => hbehind d (by simp [hd])⟩

end Decimal

/-! ### Reading on words -/

namespace Word

/-- A sum, unless it is too large for a word. -/
def addChecked (a b : Word) : Except Overflow Word :=
  if a.toNat + b.toNat < 2 ^ 256 then .ok (a + b) else .error .overflow

/-- Goes on reading an amount. Every byte must be that of a digit, and every product and every sum must fit a
word. -/
def readDigits? : Word → Bytes → Option Word
  | w, [] => some w
  | w, b :: rest =>
      let digit := b - 0x30
      if 9 < digit then none
      else
        match mulChecked w 10 with
        | .error _ => none
        | .ok tenfold =>
            match addChecked tenfold (BitVec.ofNat 256 digit.toNat) with
            | .error _ => none
            | .ok w => readDigits? w rest

/-- The bytes of the ten digits lie in a row, and no other byte is within nine of the first. -/
theorem not_lt_byte_sub_iff {b : UInt8} : ¬ 9 < b - 0x30 ↔ 48 ≤ b.toNat ∧ b.toNat ≤ 57 := by
  have hb : b.toNat < 256 := b.toNat_lt
  have hsub : (b - 0x30).toNat = (256 - 48 + b.toNat) % 256 := UInt8.toNat_sub b 0x30
  have hnine : (9 : UInt8).toNat = 9 := rfl
  rw [UInt8.lt_iff_toNat_lt, hsub, hnine]
  omega

section

variable {c : Char} (w : Word) (rest : Bytes)

theorem readDigits?_digit (hc : Decimal.isDigit c = true) :
    readDigits? w (String.utf8EncodeChar c ++ rest) =
      if w.toNat * 10 + Decimal.digitValue c < 2 ^ 256 then
        readDigits? (BitVec.ofNat 256 (w.toNat * 10 + Decimal.digitValue c)) rest
      else none := by
  obtain ⟨hlow, hhigh⟩ := Decimal.isDigit_iff.mp hc
  have hbyte : (UInt8.ofNat c.toNat).toNat = c.toNat := UInt8.toNat_ofNat_of_lt' (show _ < 256 by omega)
  have hsmall : ¬ 9 < UInt8.ofNat c.toNat - 0x30 := not_lt_byte_sub_iff.mpr (by omega)
  have hdigit : (UInt8.ofNat c.toNat - 0x30).toNat = Decimal.digitValue c := by
    rw [UInt8.toNat_sub_of_le _ _ (UInt8.le_iff_toNat_le.mpr (by rw [hbyte]; exact hlow)), hbyte]
    rfl
  have hten : (10 : Word).toNat = 10 := rfl
  rw [Utf8.encodeChar_of_lt c (by omega), List.singleton_append, readDigits?]
  simp only [if_neg hsmall, hdigit]
  by_cases hproduct : w.toNat * 10 < 2 ^ 256
  · have htenfold : (w * 10).toNat = w.toNat * 10 := by
      rw [BitVec.toNat_mul, hten, Nat.mod_eq_of_lt hproduct]
    have hcount : (BitVec.ofNat 256 (Decimal.digitValue c)).toNat = Decimal.digitValue c := by
      have hvalue : Decimal.digitValue c ≤ 9 := Nat.sub_le_sub_right hhigh 48
      rw [BitVec.toNat_ofNat, Nat.mod_eq_of_lt (by omega)]
    simp only [mulChecked, hten, if_pos hproduct, addChecked, htenfold, hcount]
    by_cases hsum : w.toNat * 10 + Decimal.digitValue c < 2 ^ 256
    · have hword : w * 10 + BitVec.ofNat 256 (Decimal.digitValue c) =
          BitVec.ofNat 256 (w.toNat * 10 + Decimal.digitValue c) := by
        apply BitVec.eq_of_toNat_eq
        rw [BitVec.toNat_add, htenfold, hcount, BitVec.toNat_ofNat]
      simp only [if_pos hsum, hword]
    · simp only [if_neg hsum]
  · have hsum : ¬ w.toNat * 10 + Decimal.digitValue c < 2 ^ 256 := by omega
    simp only [mulChecked, hten, if_neg hproduct, if_neg hsum]

theorem readDigits?_stranger (hc : Decimal.isDigit c = false) :
    readDigits? w (String.utf8EncodeChar c ++ rest) = none := by
  obtain ⟨a, more, hencode, hspells⟩ := Utf8.exists_spells c
  have hrow : ¬ (48 ≤ a.toNat ∧ a.toNat ≤ 57) := by
    have hc : ¬ (48 ≤ c.toNat ∧ c.toNat ≤ 57) := fun h => by simp [Decimal.isDigit_iff.mpr h] at hc
    generalize c.toNat = n at hc hspells
    cases hspells with
    | one ha => exact hc
    | two hlow => omega
    | three hlow => omega
    | four hlow => omega
  have hlarge : 9 < a - 0x30 := Classical.not_not.mp fun h => hrow (not_lt_byte_sub_iff.mp h)
  rw [hencode, List.cons_append, readDigits?]
  exact if_pos hlarge

end

/-- Digits are read to the end unless their number gets too large, and nothing else is. -/
theorem readDigits?_encode (w : Word) (cs : List Char) :
    readDigits? w (Utf8.encode cs) =
      if cs.all Decimal.isDigit ∧
          cs.foldl (fun n c => n * 10 + Decimal.digitValue c) w.toNat < 2 ^ 256 then
        some (BitVec.ofNat 256 (cs.foldl (fun n c => n * 10 + Decimal.digitValue c) w.toNat))
      else none := by
  induction cs generalizing w with
  | nil => simp [Utf8.encode, readDigits?, w.isLt]
  | cons c cs ih =>
      rw [Utf8.encode, List.flatMap_cons, ← Utf8.encode, List.foldl_cons]
      cases hc : Decimal.isDigit c with
      | true =>
          rw [readDigits?_digit w _ hc]
          by_cases hfits : w.toNat * 10 + Decimal.digitValue c < 2 ^ 256
          · have hword : (BitVec.ofNat 256 (w.toNat * 10 + Decimal.digitValue c)).toNat =
                w.toNat * 10 + Decimal.digitValue c := by
              rw [BitVec.toNat_ofNat, Nat.mod_eq_of_lt hfits]
            simp only [if_pos hfits, ih, hword, List.all_cons, hc, Bool.true_and]
          · -- what is too large stays too large
            have hmore := Decimal.le_foldl_digits (w.toNat * 10 + Decimal.digitValue c) cs
            rw [if_neg hfits, if_neg fun h => hfits (Nat.lt_of_le_of_lt hmore h.2)]
      | false =>
          rw [readDigits?_stranger w _ hc, if_neg fun h => by simp [hc] at h]

theorem readDigits?_trim (text : String) :
    readDigits? 0 (Utf8.encode (Blank.trim text.toList)) = ofDecimal? text := by
  have hzero : (0 : Word).toNat = 0 := rfl
  rw [readDigits?_encode, hzero, ← Decimal.value, ofDecimal?, Decimal.read?]
  by_cases hdigits : (Blank.trim text.toList).all Decimal.isDigit = true
  · simp only [hdigits, true_and, if_true]
    rfl
  · rw [if_neg hdigits, if_neg fun h => hdigits h.1]
    rfl

/-! ### Which amounts are read -/

theorem ofDecimal?_eq_some_iff {text : String} {w : Word} :
    ofDecimal? text = some w ↔ Decimal.Denotes text.toList w.toNat := by
  rw [Decimal.denotes_iff, ofDecimal?, Option.bind_eq_bind, Option.bind_eq_some_iff]
  constructor
  · rintro ⟨n, hread, h⟩
    split at h
    · rename_i hfits
      obtain rfl := Option.some.inj h
      rw [hread, BitVec.toNat_ofNat, Nat.mod_eq_of_lt hfits]
    · cases h
  · intro hread
    refine ⟨w.toNat, hread, ?_⟩
    rw [if_pos w.isLt, BitVec.ofNat_toNat, BitVec.setWidth_eq]
    rfl

theorem ofDecimal?_eq_none_iff {text : String} :
    ofDecimal? text = none ↔ ∀ n, Decimal.Denotes text.toList n → 2 ^ 256 ≤ n := by
  rw [Option.eq_none_iff_forall_ne_some]
  constructor
  · intro h n hdenotes
    refine Nat.not_lt.mp fun hfits => h (BitVec.ofNat 256 n) ?_
    rwa [ofDecimal?_eq_some_iff, BitVec.toNat_ofNat, Nat.mod_eq_of_lt hfits]
  · intro h w hread
    exact Nat.not_lt.mpr (h w.toNat (ofDecimal?_eq_some_iff.mp hread)) w.isLt

end Word

/-- An amount is read exactly from its numerals, with any white space around. -/
theorem amounts_are_read_from_numerals :
    (∀ (text : String) (w : Word), Word.ofDecimal? text = some w ↔ Decimal.Denotes text.toList w.toNat) ∧
    (∀ text : String, Word.ofDecimal? text = none ↔ ∀ n, Decimal.Denotes text.toList n → 2 ^ 256 ≤ n) ∧
    (∀ text n m, Decimal.Denotes text n → Decimal.Denotes text m → n = m) ∧
    (∀ (front back : List Char) (c : Char), Decimal.isDigit c = false →
      (Blank.isBlank c = true → ¬ Blank.Run front ∧ ¬ Blank.Run back) →
      Word.ofDecimal? (String.ofList (front ++ c :: back)) = none) ∧
    (∀ (w : Word) (before behind : List Char), Blank.Run before → Blank.Run behind →
      Word.ofDecimal? (String.ofList (before ++ Decimal.digits w.toNat ++ behind)) = some w) ∧
    ∀ text : String, Word.readDigits? 0 (Utf8.encode (Blank.trim text.toList)) = Word.ofDecimal? text := by
  refine ⟨fun text w => Word.ofDecimal?_eq_some_iff, fun text => Word.ofDecimal?_eq_none_iff,
    fun text n m => Decimal.Denotes.unique, ?_, ?_, Word.readDigits?_trim⟩
  · intro front back c hc hinside
    rw [Word.ofDecimal?_eq_none_iff, String.toList_ofList]
    intro n hdenotes
    obtain ⟨hblank, hrun⟩ := hdenotes.run_of_stranger hc
    obtain ⟨hfront, hback⟩ := hinside hblank
    exact absurd hrun (not_or.mpr ⟨hfront, hback⟩)
  · intro w before behind hbefore hbehind
    rw [Word.ofDecimal?_eq_some_iff, String.toList_ofList]
    exact Decimal.denotes_digits hbefore hbehind w.toNat

theorem greatestAmount_read :
    (Blank.Run ['\u3000', ' '] ∧ Blank.Run ['\n'] ∧
      Word.ofDecimal? (String.ofList
        (['\u3000', ' '] ++ Decimal.digits (BitVec.allOnes 256).toNat ++ ['\n'])) =
          some (BitVec.allOnes 256)) ∧
    (Decimal.isDigit ' ' = false ∧ ¬ Blank.Run ['1'] ∧ ¬ Blank.Run ['0'] ∧
      Word.ofDecimal? (String.ofList (['1'] ++ ' ' :: ['0'])) = none) := by
  obtain ⟨-, -, -, hstranger, hnumeral, -⟩ := amounts_are_read_from_numerals
  have hbefore : Blank.Run ['\u3000', ' '] := by decide
  have hbehind : Blank.Run ['\n'] := by decide
  have hinside : ¬ Blank.Run ['1'] ∧ ¬ Blank.Run ['0'] := by decide
  exact ⟨⟨hbefore, hbehind, hnumeral _ _ _ hbefore hbehind⟩, rfl, hinside.1, hinside.2,
    hstranger ['1'] ['0'] ' ' rfl fun _ => hinside⟩

end LiquidityTrigger
