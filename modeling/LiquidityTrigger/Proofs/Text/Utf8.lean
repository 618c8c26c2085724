import LiquidityTrigger.Text.Utf8
import Mathlib.Data.List.Basic

/-!
# The bytes of a text are read back

Each form of a character is a row of `Spells`: which first byte, which bytes behind it, and the number that
they make. `readChar` accepts the rows and nothing else, and every character is written as its row. So strict
reading takes exactly the bytes of a text, and lenient reading gives the text back.
-/

namespace LiquidityTrigger.Utf8

/-! ### The forms of a character -/

section

variable (c : Char)

theorem encodeChar_of_lt (h : c.toNat < 0x80) : String.utf8EncodeChar c = [UInt8.ofNat c.toNat] := by
  have hone : c.val.toNat ≤ 0x7f := Nat.le_of_lt_succ h
  exact if_pos hone

theorem encodeChar_two (hlow : 0x80 ≤ c.toNat) (hhigh : c.toNat < 0x800) :
    String.utf8EncodeChar c =
      [UInt8.ofNat (c.toNat / 64 % 32 + 0xC0), UInt8.ofNat (c.toNat % 64 + 0x80)] := by
  have hone : ¬ c.val.toNat ≤ 0x7f := Nat.not_le.mpr hlow
  have htwo : c.val.toNat ≤ 0x7ff := Nat.le_of_lt_succ hhigh
  exact (if_neg hone).trans (if_pos htwo)

theorem encodeChar_three (hlow : 0x800 ≤ c.toNat) (hhigh : c.toNat < 0x10000) :
    String.utf8EncodeChar c =
      [UInt8.ofNat (c.toNat / 4096 % 16 + 0xE0), UInt8.ofNat (c.toNat / 64 % 64 + 0x80),
        UInt8.ofNat (c.toNat % 64 + 0x80)] := by
  have hone : ¬ c.val.toNat ≤ 0x7f := Nat.not_le.mpr (Nat.le_trans (by decide) hlow)
  have htwo : ¬ c.val.toNat ≤ 0x7ff := Nat.not_le.mpr hlow
  have hthree : c.val.toNat ≤ 0xffff := Nat.le_of_lt_succ hhigh
  exact (if_neg hone).trans ((if_neg htwo).trans (if_pos hthree))

theorem encodeChar_four (hlow : 0x10000 ≤ c.toNat) :
    String.utf8EncodeChar c =
      [UInt8.ofNat (c.toNat / 262144 % 8 + 0xF0), UInt8.ofNat (c.toNat / 4096 % 64 + 0x80),
        UInt8.ofNat (c.toNat / 64 % 64 + 0x80), UInt8.ofNat (c.toNat % 64 + 0x80)] := by
  have hone : ¬ c.val.toNat ≤ 0x7f := Nat.not_le.mpr (Nat.le_trans (by decide) hlow)
  have htwo : ¬ c.val.toNat ≤ 0x7ff := Nat.not_le.mpr (Nat.le_trans (by decide) hlow)
  have hthree : ¬ c.val.toNat ≤ 0xffff := Nat.not_le.mpr hlow
  exact (if_neg hone).trans ((if_neg htwo).trans (if_neg hthree))

end

/-- What holds of the first 128 characters, one by one, holds of every character of one byte. -/
theorem of_ascii {p : Char → Prop} (hall : ∀ n < 0x80, p (Char.ofNat n)) {c : Char} (hc : c.toNat < 0x80) :
    p c := by
  have hofNat := hall c.toNat hc
  rwa [Char.ofNat_toNat] at hofNat

theorem toNat_ofNat_of_valid {n : Nat} (h : n.isValidChar) : (Char.ofNat n).toNat = n := by
  rw [Char.ofNat, dif_pos h]
  rfl

/-! ### What a reader takes for a character -/

variable {a b d e : UInt8} {rest : Bytes} {c : Char} {n : Nat}

theorem isTail_iff : isTail b = true ↔ 0x80 ≤ b.toNat ∧ b.toNat ≤ 0xBF := by
  simp [isTail, UInt8.le_iff_toNat_le]

theorem second_iff {low high least most : UInt8} (hne : low ≠ high) (hleast : 0x80 ≤ least)
    (hmost : most ≤ 0xBF) :
    (if a = low then decide (least ≤ b) && decide (b ≤ 0xBF)
      else if a = high then decide (0x80 ≤ b) && decide (b ≤ most) else isTail b) = true ↔
      isTail b = true ∧ (a = low → least ≤ b) ∧ (a = high → b ≤ most) := by
  rw [isTail]
  by_cases hlow : a = low
  · simp only [hlow, hne, if_true, Bool.and_eq_true, decide_eq_true_eq, forall_const,
      false_implies, and_true]
    exact ⟨fun h => ⟨⟨UInt8.le_trans hleast h.1, h.2⟩, h.1⟩, fun h => ⟨h.2, h.1.2⟩⟩
  · by_cases hhigh : a = high
    · simp only [hhigh, hne.symm, if_true, if_false, Bool.and_eq_true, decide_eq_true_eq, forall_const,
        false_implies, true_and]
      exact ⟨fun h => ⟨⟨h.1, UInt8.le_trans h.2 hmost⟩, h.2⟩, fun h => ⟨h.1.1, h.2⟩⟩
    · simp only [hlow, hhigh, if_false, false_implies, and_true]

theorem isSecondOfThree_iff : isSecondOfThree a b = true ↔
    isTail b = true ∧ (a.toNat = 0xE0 → 0xA0 ≤ b.toNat) ∧ (a.toNat = 0xED → b.toNat ≤ 0x9F) := by
  refine (second_iff (by decide) (by decide) (by decide)).trans ?_
  simp [← UInt8.toNat_inj, UInt8.le_iff_toNat_le]

theorem isSecondOfFour_iff : isSecondOfFour a b = true ↔
    isTail b = true ∧ (a.toNat = 0xF0 → 0x90 ≤ b.toNat) ∧ (a.toNat = 0xF4 → b.toNat ≤ 0x8F) := by
  refine (second_iff (by decide) (by decide) (by decide)).trans ?_
  simp [← UInt8.toNat_inj, UInt8.le_iff_toNat_le]

/-- A first byte and the bytes behind it spell the character of a number. -/
inductive Spells : UInt8 → Bytes → Nat → Prop
  | one {a : UInt8} (ha : a.toNat < 0x80) : Spells a [] a.toNat
  | two {a b : UInt8} (hlow : 0xC2 ≤ a.toNat) (hhigh : a.toNat ≤ 0xDF) (hb : isTail b = true) :
      Spells a [b] (a.toNat % 32 * 64 + tailBits b)
  | three {a b d : UInt8} (hlow : 0xE0 ≤ a.toNat) (hhigh : a.toNat ≤ 0xEF)
      (hb : isSecondOfThree a b = true) (hd : isTail d = true) :
      Spells a [b, d] ((a.toNat % 16 * 64 + tailBits b) * 64 + tailBits d)
  | four {a b d e : UInt8} (hlow : 0xF0 ≤ a.toNat) (hhigh : a.toNat ≤ 0xF4)
      (hb : isSecondOfFour a b = true) (hd : isTail d = true) (he : isTail e = true) :
      Spells a [b, d, e] (((a.toNat % 8 * 64 + tailBits b) * 64 + tailBits d) * 64 + tailBits e)

theorem readChar_eq (a : UInt8) (rest : Bytes) :
    readChar a rest =
      if a.toNat < 0x80 then (some (Char.ofNat a.toNat), 0)
      else if 0xC2 ≤ a.toNat ∧ a.toNat ≤ 0xDF then readTwo a rest
      else if 0xE0 ≤ a.toNat ∧ a.toNat ≤ 0xEF then readThree a rest
      else if 0xF0 ≤ a.toNat ∧ a.toNat ≤ 0xF4 then readFour a rest
      else (none, 0) := by
  simp only [readChar, UInt8.lt_iff_toNat_lt, UInt8.le_iff_toNat_le, Bool.and_eq_true, decide_eq_true_eq]
  rfl

namespace Spells

theorem isValidChar (h : Spells a rest n) : n.isValidChar := by
  cases h with
  | one ha => exact .inl (by omega)
  | two hlow hhigh hb => exact .inl (by rw [tailBits]; omega)
  | @three b d hlow hhigh hb hd =>
      obtain ⟨hb, hfirst, hlast⟩ := isSecondOfThree_iff.mp hb
      obtain ⟨hb, hb'⟩ := isTail_iff.mp hb
      rw [tailBits, tailBits, Nat.isValidChar]
      omega
  | @four b d e hlow hhigh hb hd he =>
      obtain ⟨hb, hfirst, hlast⟩ := isSecondOfFour_iff.mp hb
      obtain ⟨hb, hb'⟩ := isTail_iff.mp hb
      rw [tailBits, tailBits, tailBits, Nat.isValidChar]
      omega

theorem readChar (h : Spells a rest n) (more : Bytes) :
    Utf8.readChar a (rest ++ more) = (some (Char.ofNat n), rest.length) := by
  rw [readChar_eq]
  cases h with
  | one ha =>
      rw [if_pos ha]
      rfl
  | two hlow hhigh hb =>
      rw [if_neg (by omega), if_pos ⟨hlow, hhigh⟩]
      exact if_pos hb
  | three hlow hhigh hb hd =>
      rw [if_neg (by omega), if_neg (by omega), if_pos ⟨hlow, hhigh⟩]
      exact (if_pos hb).trans (if_pos hd)
  | four hlow hhigh hb hd he =>
      rw [if_neg (by omega), if_neg (by omega), if_neg (by omega), if_pos ⟨hlow, hhigh⟩]
      exact (if_pos hb).trans ((if_pos hd).trans (if_pos he))

theorem encodeChar (h : Spells a rest c.toNat) : String.utf8EncodeChar c = a :: rest := by
  generalize hn : c.toNat = n at h
  have hbyte {x : Nat} {b : UInt8} (hx : x = b.toNat) : UInt8.ofNat x = b := by
    rw [hx, UInt8.ofNat_toNat]
  cases h with
  | one ha => rw [encodeChar_of_lt c (by omega), hbyte hn]
  | @two b hlow hhigh hb =>
      have hb := isTail_iff.mp hb
      rw [tailBits] at hn
      rw [encodeChar_two c (by omega) (by omega), hbyte (b := a) (by omega), hbyte (b := b) (by omega)]
  | @three b d hlow hhigh hb hd =>
      obtain ⟨hb, hfirst, hlast⟩ := isSecondOfThree_iff.mp hb
      obtain ⟨hb, hb'⟩ := isTail_iff.mp hb
      have hd := isTail_iff.mp hd
      rw [tailBits, tailBits] at hn
      rw [encodeChar_three c (by omega) (by omega), hbyte (b := a) (by omega), hbyte (b := b) (by omega),
        hbyte (b := d) (by omega)]
  | @four b d e hlow hhigh hb hd he =>
      obtain ⟨hb, hfirst, hlast⟩ := isSecondOfFour_iff.mp hb
      obtain ⟨hb, hb'⟩ := isTail_iff.mp hb
      have hd := isTail_iff.mp hd
      have he := isTail_iff.mp he
      rw [tailBits, tailBits, tailBits] at hn
      rw [encodeChar_four c (by omega), hbyte (b := a) (by omega), hbyte (b := b) (by omega),
        hbyte (b := d) (by omega), hbyte (b := e) (by omega)]

end Spells

/-! ### Reading is the inverse of writing -/

theorem toNat_ofNat_byte {x : Nat} (h : x < 256) : (UInt8.ofNat x).toNat = x :=
  UInt8.toNat_ofNat_of_lt' h

theorem isTail_ofNat (x : Nat) : isTail (UInt8.ofNat (x % 64 + 0x80)) = true := by
  rw [isTail_iff, toNat_ofNat_byte (by omega)]
  omega

theorem tailBits_ofNat (x : Nat) : tailBits (UInt8.ofNat (x % 64 + 0x80)) = x % 64 := by
  rw [tailBits, toNat_ofNat_byte (by omega)]
  omega

theorem exists_spells (c : Char) :
    ∃ a rest, String.utf8EncodeChar c = a :: rest ∧ Spells a rest c.toNat := by
  -- the gap of the surrogates is what the second byte behind `0xED` may not reach
  have hvalid : c.toNat < 0xD800 ∨ 0xDFFF < c.toNat ∧ c.toNat < 0x110000 := c.valid
  by_cases hone : c.toNat < 0x80
  · refine ⟨_, _, encodeChar_of_lt c hone, ?_⟩
    have ha := toNat_ofNat_byte (x := c.toNat) (by omega)
    convert Spells.one (a := UInt8.ofNat c.toNat) (by omega) using 1
    exact ha.symm
  by_cases htwo : c.toNat < 0x800
  · refine ⟨_, _, encodeChar_two c (by omega) htwo, ?_⟩
    have ha := toNat_ofNat_byte (x := c.toNat / 64 % 32 + 0xC0) (by omega)
    convert Spells.two (a := UInt8.ofNat (c.toNat / 64 % 32 + 0xC0)) (by omega) (by omega)
      (isTail_ofNat c.toNat) using 1
    rw [ha, tailBits_ofNat]
    omega
  by_cases hthree : c.toNat < 0x10000
  · refine ⟨_, _, encodeChar_three c (by omega) hthree, ?_⟩
    have ha := toNat_ofNat_byte (x := c.toNat / 4096 % 16 + 0xE0) (by omega)
    have hb := toNat_ofNat_byte (x := c.toNat / 64 % 64 + 0x80) (by omega)
    have hsecond := isSecondOfThree_iff.mpr
      ⟨isTail_ofNat (c.toNat / 64), by rw [ha, hb]; omega, by rw [ha, hb]; omega⟩
    convert Spells.three (by omega) (by omega) hsecond (isTail_ofNat c.toNat) using 1
    rw [ha, tailBits_ofNat, tailBits_ofNat]
    omega
  · refine ⟨_, _, encodeChar_four c (by omega), ?_⟩
    have ha := toNat_ofNat_byte (x := c.toNat / 262144 % 8 + 0xF0) (by omega)
    have hb := toNat_ofNat_byte (x := c.toNat / 4096 % 64 + 0x80) (by omega)
    have hsecond := isSecondOfFour_iff.mpr
      ⟨isTail_ofNat (c.toNat / 4096), by rw [ha, hb]; omega, by rw [ha, hb]; omega⟩
    convert Spells.four (by omega) (by omega) hsecond (isTail_ofNat (c.toNat / 64))
      (isTail_ofNat c.toNat) using 1
    rw [ha, tailBits_ofNat, tailBits_ofNat, tailBits_ofNat]
    omega

/-- A reader finds a character only in what spells one. -/
theorem exists_spells_of_readChar (h : (readChar a rest).1 = some c) :
    ∃ front more m, rest = front ++ more ∧ Spells a front m := by
  rw [readChar_eq] at h
  split_ifs at h with hone htwo hthree hfour
  · exact ⟨[], rest, _, rfl, .one hone⟩
  · match rest, h with
    | b :: more, h =>
        rw [readTwo] at h
        split_ifs at h with hb
        exact ⟨[b], more, _, rfl, .two htwo.1 htwo.2 hb⟩
  · match rest, h with
    | [b], h =>
        rw [readThree] at h
        split_ifs at h
    | b :: d :: more, h =>
        rw [readThree] at h
        split_ifs at h with hb hd
        exact ⟨[b, d], more, _, rfl, .three hthree.1 hthree.2 hb hd⟩
  · match rest, h with
    | [b], h =>
        rw [readFour] at h
        split_ifs at h
    | [b, d], h =>
        rw [readFour] at h
        split_ifs at h
    | b :: d :: e :: more, h =>
        rw [readFour] at h
        split_ifs at h with hb hd he
        exact ⟨[b, d, e], more, _, rfl, .four hfour.1 hfour.2 hb hd he⟩

theorem encodeChar_of_readChar (h : (readChar a rest).1 = some c) :
    String.utf8EncodeChar c ++ rest.drop (readChar a rest).2 = a :: rest := by
  obtain ⟨front, more, m, rfl, hspells⟩ := exists_spells_of_readChar h
  rw [hspells.readChar] at h ⊢
  obtain rfl := Option.some.inj h
  have hchar : Spells a front (Char.ofNat m).toNat := by
    rwa [toNat_ofNat_of_valid hspells.isValidChar]
  rw [hchar.encodeChar, List.cons_append, List.drop_left]

/-! ### Whole texts -/

theorem scanFrom_eq (skip : Nat) (bytes : Bytes) : scanFrom skip bytes = scan (bytes.drop skip) := by
  induction bytes generalizing skip with
  | nil => cases skip <;> simp [scan, scanFrom]
  | cons b rest ih =>
      cases skip with
      | zero => rfl
      | succ skip => exact ih skip

theorem scan_cons (a : UInt8) (rest : Bytes) :
    scan (a :: rest) = (readChar a rest).1 :: scan (rest.drop (readChar a rest).2) := by
  rw [scan, scanFrom, scanFrom_eq]

theorem scan_encodeChar (c : Char) (rest : Bytes) :
    scan (String.utf8EncodeChar c ++ rest) = some c :: scan rest := by
  obtain ⟨a, front, heq, hspells⟩ := exists_spells c
  rw [heq, List.cons_append, scan_cons, hspells.readChar, Char.ofNat_toNat, List.drop_left]

theorem scan_encode (cs : List Char) : scan (encode cs) = cs.map some := by
  induction cs with
  | nil => rfl
  | cons c cs ih => rw [encode, List.flatMap_cons, scan_encodeChar, ← encode, ih, List.map_cons]

/-- Bytes without a fault are what their characters are written as. -/
theorem encode_of_scan {bytes : Bytes} {cs : List Char} (h : scan bytes = cs.map some) :
    encode cs = bytes := by
  induction cs generalizing bytes with
  | nil =>
      cases bytes with
      | nil => rfl
      | cons a rest => simp [scan_cons] at h
  | cons c cs ih =>
      cases bytes with
      | nil => simp [scan, scanFrom] at h
      | cons a rest =>
          rw [scan_cons, List.map_cons] at h
          obtain ⟨hfirst, hothers⟩ := List.cons.inj h
          rw [encode, List.flatMap_cons, ← encode, ih hothers, encodeChar_of_readChar hfirst]

theorem mapM_id_eq_some_iff {α : Type} {xs : List (Option α)} {ys : List α} :
    xs.mapM id = some ys ↔ xs = ys.map some := by
  induction xs generalizing ys with
  | nil => cases ys <;> simp
  | cons x xs ih =>
      simp only [List.mapM_cons, id, Option.bind_eq_bind, Option.bind_eq_some_iff, ih, Option.pure_def,
        Option.some.injEq]
      cases ys <;> simp

/-- Strict reading takes the bytes of a text and nothing else. -/
theorem decode?_eq_some_iff {bytes : Bytes} {cs : List Char} :
    decode? bytes = some cs ↔ encode cs = bytes := by
  rw [decode?, mapM_id_eq_some_iff]
  exact ⟨encode_of_scan, fun h => h ▸ scan_encode cs⟩

theorem decodeLossy_encode (cs : List Char) : decodeLossy (encode cs) = cs := by
  rw [decodeLossy, scan_encode, List.map_map]
  exact List.map_id cs

end LiquidityTrigger.Utf8
