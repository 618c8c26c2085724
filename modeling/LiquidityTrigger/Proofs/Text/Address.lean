import LiquidityTrigger.Proofs.Text.Hex
import LiquidityTrigger.Proofs.Text.Utf8
import LiquidityTrigger.Text.Numeral
import Mathlib.Data.List.Forall2
import Mathlib.Data.Nat.Digits.Defs
import Mathlib.Tactic.Ring

/-!
# Addresses as texts

`Address.Denotes` says which texts name an address: forty digits of either case, behind at most one marker, whose
number is the one that the address's bytes spell. An address is read from these texts and from nothing else.
`Address.ofText?` counts characters and takes the marker off once; `Address.ofEncoded?` works on the bytes of a
text, takes a marker off twice and may pass over bytes that are no digits. Both come to the same, since forty
bytes give twenty only if every one of them is a digit, and then there was nothing to take off or to pass over.
-/

namespace LiquidityTrigger

namespace Hex

/-- A digit in either case, and its value. -/
def IsDigit (c : Char) (n : Nat) : Prop :=
  "0123456789abcdef".toList[n]? = some c ∨ "0123456789ABCDEF".toList[n]? = some c

instance (c : Char) (n : Nat) : Decidable (IsDigit c n) := inferInstanceAs (Decidable (_ ∨ _))

theorem digitValue?_eq_some_iff_isDigit {c : Char} {n : Nat} : digitValue? c = some n ↔ IsDigit c n := by
  constructor
  · intro h
    have hascii := isAscii_of_digitValue? (Option.isSome_of_eq_some h)
    exact Utf8.of_ascii (p := fun c => ∀ n ∈ digitValue? c, IsDigit c n) (by decide) hascii n h
  · intro h
    have hn : n < 16 := by
      rcases h with h | h
      all_goals exact (List.getElem?_eq_some_iff.mp h).1
    have hall : ∀ n < 16, "0123456789abcdef".toList[n]?.bind digitValue? = some n ∧
        "0123456789ABCDEF".toList[n]?.bind digitValue? = some n := by decide
    obtain ⟨hlower, hupper⟩ := hall n hn
    rcases h with h | h
    · rwa [h] at hlower
    · rwa [h] at hupper

theorem forall₂_isDigit_iff {cs : List Char} {values : List Nat} :
    List.Forall₂ IsDigit cs values ↔ cs.map digitValue? = values.map some := by
  induction cs generalizing values with
  | nil => cases values <;> simp
  | cons c cs ih => cases values <;> simp [← digitValue?_eq_some_iff_isDigit, ih]

theorem exists_values_of_map_toLower {cs : List Char} {bytes : Bytes} (h : cs.map Char.toLower = ofBytes bytes) :
    ∃ values : List Nat, cs.map digitValue? = values.map some ∧ values.length = 2 * bytes.length ∧
      Bytes.toNat bytes = Nat.ofDigits 16 values.reverse := by
  induction bytes generalizing cs with
  | nil =>
      obtain rfl : cs = [] := List.map_eq_nil_iff.mp h
      exact ⟨[], rfl, rfl, rfl⟩
  | cons b rest ih =>
      rw [ofBytes, List.flatMap_cons, ofByte, ← ofBytes] at h
      obtain ⟨high, cs, rfl, hhigh, h⟩ := List.map_eq_cons_iff.mp h
      obtain ⟨low, cs, rfl, hlow, h⟩ := List.map_eq_cons_iff.mp h
      obtain ⟨values, hvalues, hlength, hnumber⟩ := ih h
      have hb : b.toNat < 256 := b.toNat_lt
      have hhigh := digitValue?_eq_some_iff.mpr ⟨(by omega : b.toNat / 16 < 16), hhigh⟩
      have hlow := digitValue?_eq_some_iff.mpr ⟨Nat.mod_lt b.toNat (by decide : 0 < 16), hlow⟩
      refine ⟨b.toNat / 16 :: b.toNat % 16 :: values, ?_, ?_, ?_⟩
      · rw [List.map_cons, List.map_cons, hhigh, hlow, hvalues]
        rfl
      · rw [List.length_cons, List.length_cons, List.length_cons, hlength]
        omega
      · have hpow : 256 ^ rest.length = 16 ^ (2 * rest.length) := by rw [Nat.pow_mul]
        have hsplit := Nat.div_add_mod' b.toNat 16
        rw [Bytes.toNat_cons, hnumber, List.reverse_cons, List.reverse_cons, Nat.ofDigits_append,
          Nat.ofDigits_append, Nat.ofDigits_singleton, Nat.ofDigits_singleton, List.length_append,
          List.length_singleton, List.length_reverse, hlength, hpow, Nat.pow_succ]
        generalize 16 ^ (2 * rest.length) = p
        generalize b.toNat / 16 = h at hsplit ⊢
        generalize b.toNat % 16 = l at hsplit ⊢
        rw [← hsplit]
        ring

theorem isSome_of_values {cs : List Char} {values : List Nat} (h : cs.map digitValue? = values.map some) :
    ∀ c ∈ cs, (digitValue? c).isSome := by
  intro c hc
  have hmem : digitValue? c ∈ values.map some := h ▸ List.mem_map_of_mem hc
  obtain ⟨n, -, hn⟩ := List.mem_map.mp hmem
  rw [← hn]
  rfl

theorem map_toLower_of_values {cs : List Char} {values : List Nat} {bytes : Bytes}
    (hvalues : cs.map digitValue? = values.map some) (hlength : cs.length = 2 * bytes.length)
    (hnumber : Bytes.toNat bytes = Nat.ofDigits 16 values.reverse) : cs.map Char.toLower = ofBytes bytes := by
  obtain ⟨read, hread⟩ := Option.isSome_iff_exists.mp
    ((toBytes?_isSome_iff cs).mpr ⟨by omega, isSome_of_values hvalues⟩)
  have hspelled := toBytes?_eq_some_iff.mp hread
  obtain ⟨values', hvalues', hlength', hnumber'⟩ := exists_values_of_map_toLower hspelled
  have hsame : values' = values :=
    List.map_injective_iff.mpr (Option.some_injective Nat) (hvalues'.symm.trans hvalues)
  have hcount := congrArg List.length hspelled
  rw [List.length_map, length_ofBytes] at hcount
  have hbytes : read = bytes := by
    rw [← Bytes.ofNat_toNat read, ← Bytes.ofNat_toNat bytes, hnumber', hnumber, hsame,
      show read.length = bytes.length by omega]
  rw [hspelled, hbytes]

theorem map_toLower_toUpper (bytes : Bytes) :
    ((ofBytes bytes).map Char.toUpper).map Char.toLower = ofBytes bytes := by
  have hall : ∀ n < 16, (digit n).toUpper.toLower = digit n := by decide
  induction bytes with
  | nil => rfl
  | cons b rest ih =>
      have hb : b.toNat < 256 := b.toNat_lt
      rw [ofBytes, List.flatMap_cons, ofByte, ← ofBytes, List.map_append, List.map_append, ih]
      simp only [List.map_cons, List.map_nil, hall (b.toNat / 16) (by omega),
        hall (b.toNat % 16) (Nat.mod_lt _ (by decide))]

/-! ### The marker -/

theorem exists_marker (cs : List Char) :
    ∃ marker, (marker = [] ∨ marker = ['0', 'x']) ∧ cs = marker ++ stripMarker cs := by
  rw [stripMarker.eq_def]
  split
  · exact ⟨['0', 'x'], .inr rfl, rfl⟩
  · exact ⟨[], .inl rfl, rfl⟩

theorem stripMarker_of_not_mem {cs : List Char} (h : 'x' ∉ cs) : stripMarker cs = cs := by
  rw [stripMarker.eq_def]
  split
  · exact absurd (by simp) h
  · rfl

theorem not_mem_of_digits {cs : List Char} (h : ∀ c ∈ cs, (digitValue? c).isSome) : 'x' ∉ cs :=
  fun hmem => Bool.noConfusion (h 'x' hmem)

theorem mem_stripMarker {cs : List Char} {c : Char} (hc : c ∈ cs) (hzero : c ≠ '0') (hx : c ≠ 'x') :
    c ∈ stripMarker cs := by
  obtain ⟨marker, hmarker, hcs⟩ := exists_marker cs
  rw [hcs] at hc
  rcases List.mem_append.mp hc with hc | hc
  · rcases hmarker with rfl | rfl
    · cases hc
    · exact absurd (List.mem_pair.mp hc) (not_or.mpr ⟨hzero, hx⟩)
  · exact hc

end Hex

/-! ### Which texts name an address -/

namespace Address

/-- A text of forty digits, behind a marker or not, names the address whose bytes spell the number of the
digits. -/
inductive Denotes : List Char → Address → Prop
  | intro {marker digits : List Char} {values : List Nat} {a : Address}
      (hmarker : marker = [] ∨ marker = ['0', 'x']) (hdigits : List.Forall₂ Hex.IsDigit digits values)
      (hlength : digits.length = 40) (hnumber : Bytes.toNat a.toBytes = Nat.ofDigits 16 values.reverse) :
      Denotes (marker ++ digits) a

theorem ofText?_eq_some_iff_denotes {text : String} {a : Address} :
    ofText? text = some a ↔ Denotes text.toList a := by
  rw [ofText?_eq_some_iff, spelling]
  constructor
  · intro h
    obtain ⟨values, hvalues, -, hnumber⟩ := Hex.exists_values_of_map_toLower h
    obtain ⟨marker, hmarker, hcs⟩ := Hex.exists_marker text.toList
    have hcount := congrArg List.length h
    rw [List.length_map, Hex.length_ofBytes, length_toBytes] at hcount
    rw [hcs]
    exact .intro hmarker (Hex.forall₂_isDigit_iff.mpr hvalues) hcount hnumber
  · generalize text.toList = cs
    intro h
    cases h with
    | @intro marker digits values _ hmarker hdigits hlength hnumber =>
        have hvalues := Hex.forall₂_isDigit_iff.mp hdigits
        have hplain := Hex.stripMarker_of_not_mem (Hex.not_mem_of_digits (Hex.isSome_of_values hvalues))
        have hstrip : Hex.stripMarker (marker ++ digits) = digits := by
          rcases hmarker with rfl | rfl
          · exact hplain
          · rfl
        rw [hstrip]
        exact Hex.map_toLower_of_values hvalues (hlength.trans (by rw [length_toBytes])) hnumber

/-! ### Which texts name none -/

theorem ofText?_isSome_iff {text : String} :
    (ofText? text).isSome ↔ (Hex.stripMarker text.toList).length = 40 ∧
      ∀ c ∈ Hex.stripMarker text.toList, (Hex.digitValue? c).isSome := by
  rw [ofText?]
  by_cases hlength : (Hex.stripMarker text.toList).length = 40
  · have hread := Hex.toBytes?_isSome_iff (Hex.stripMarker text.toList)
    rw [hlength] at hread
    rw [if_pos hlength, Option.bind_eq_bind, Option.isSome_bind]
    simpa [hlength] using hread
  · simp [hlength]

theorem ofText?_eq_none_iff {text : String} :
    ofText? text = none ↔ ¬ ((Hex.stripMarker text.toList).length = 40 ∧
      ∀ c ∈ Hex.stripMarker text.toList, (Hex.digitValue? c).isSome) := by
  rw [← ofText?_isSome_iff, Option.not_isSome_iff_eq_none]

theorem ofText?_of_stranger {text : String} {c : Char} (hmem : c ∈ Hex.stripMarker text.toList)
    (hc : Hex.digitValue? c = none) : ofText? text = none := by
  refine ofText?_eq_none_iff.mpr fun h => ?_
  have hdigit := h.2 c hmem
  rw [hc] at hdigit
  cases hdigit

theorem ofText?_of_blank_or_wide {text : String} {c : Char} (hmem : c ∈ text.toList)
    (hc : Blank.isBlank c = true ∨ 1 < c.utf8Size) : ofText? text = none := by
  have hdigit : Hex.digitValue? c = none := by
    refine Option.not_isSome_iff_eq_none.mp fun hsome => ?_
    have hascii := Hex.isAscii_of_digitValue? hsome
    obtain ⟨hblank, hsize⟩ := Utf8.of_ascii (p := fun c => (Hex.digitValue? c).isSome →
      Blank.isBlank c = false ∧ c.utf8Size = 1) (by decide) hascii hsome
    rcases hc with hc | hc
    · rw [hblank] at hc
      cases hc
    · omega
  refine ofText?_of_stranger (Hex.mem_stripMarker hmem ?_ ?_) hdigit
  · rintro rfl
    cases hdigit
  · rintro rfl
    exact hc.elim (by decide) (by decide)

/-- The digits of an address name it in any mix of the cases, with or without a marker. -/
theorem ofText?_of_map_toLower {marker digits : List Char} {a : Address}
    (hmarker : marker = [] ∨ marker = ['0', 'x']) (hdigits : digits.map Char.toLower = Hex.ofBytes a.toBytes) :
    ofText? (String.ofList (marker ++ digits)) = some a := by
  obtain ⟨values, hvalues, hlength, hnumber⟩ := Hex.exists_values_of_map_toLower hdigits
  have hcount := congrArg List.length hdigits
  rw [List.length_map, Hex.length_ofBytes, length_toBytes] at hcount
  rw [ofText?_eq_some_iff_denotes, String.toList_ofList]
  exact .intro hmarker (Hex.forall₂_isDigit_iff.mpr hvalues) hcount hnumber

end Address

/-! ### Reading bytes -/

namespace Utf8

theorem Spells.eq_of_lt {a : UInt8} {rest : Bytes} {n : Nat} (h : Spells a rest n) (ha : a.toNat < 0x80) :
    rest = [] ∧ n = a.toNat := by
  cases h with
  | one => exact ⟨rfl, rfl⟩
  | two hlow => omega
  | three hlow => omega
  | four hlow => omega

theorem exists_of_encode_eq_cons {cs : List Char} {a : UInt8} {rest : Bytes} (h : encode cs = a :: rest)
    (ha : a.toNat < 0x80) : ∃ more, cs = Char.ofNat a.toNat :: more ∧ encode more = rest := by
  cases cs with
  | nil => cases h
  | cons c more =>
      obtain ⟨first, behind, hc, hspells⟩ := exists_spells c
      rw [encode, List.flatMap_cons, hc, List.cons_append] at h
      obtain ⟨rfl, hrest⟩ := List.cons.inj h
      obtain ⟨rfl, hnumber⟩ := hspells.eq_of_lt ha
      exact ⟨more, by rw [← hnumber, Char.ofNat_toNat], hrest⟩

end Utf8

namespace Hex

/-- The bytes of a text less those of one marker in front. -/
def stripMarkerBytes : Bytes → Bytes
  | a :: b :: rest => if a = 0x30 ∧ b = 0x78 then rest else a :: b :: rest
  | bytes => bytes

def isDigitByte (b : UInt8) : Bool := (digitValue? (Char.ofNat b.toNat)).isSome

/-- Goes on reading two digits for each byte, behind the first digit of a pair or behind a whole one. Some bytes
are passed over. -/
def readPairs? (passed : UInt8 → Bool) : Option Nat → Bytes → Option Bytes
  | none, [] => some []
  | some _, [] => none
  | first, b :: rest =>
      if passed b then readPairs? passed first rest
      else
        match digitValue? (Char.ofNat b.toNat), first with
        | none, _ => none
        | some d, none => readPairs? passed (some d) rest
        | some d, some h => (readPairs? passed none rest).map (UInt8.ofNat (h * 16 + d) :: ·)

section

variable {passed : UInt8 → Bool} (first : Option Nat) {b : UInt8} (rest : Bytes)

theorem readPairs?_of_passed (h : passed b = true) :
    readPairs? passed first (b :: rest) = readPairs? passed first rest := by
  cases first <;> simp only [readPairs?, if_pos h]

theorem readPairs?_of_not_passed (h : ¬ passed b = true) :
    readPairs? passed first (b :: rest) =
      match digitValue? (Char.ofNat b.toNat), first with
      | none, _ => none
      | some d, none => readPairs? passed (some d) rest
      | some d, some h => (readPairs? passed none rest).map (UInt8.ofNat (h * 16 + d) :: ·) := by
  cases first <;> simp only [readPairs?, if_neg h]

end

theorem stripMarkerBytes_encode (cs : List Char) :
    stripMarkerBytes (Utf8.encode cs) = Utf8.encode (stripMarker cs) := by
  rw [stripMarker.eq_def]
  split
  · rfl
  · rename_i hnot
    generalize hbytes : Utf8.encode cs = bytes
    rw [stripMarkerBytes.eq_def]
    split
    · split_ifs with hmarker
      · obtain ⟨rfl, rfl⟩ := hmarker
        obtain ⟨more, rfl, hmore⟩ := Utf8.exists_of_encode_eq_cons hbytes (by decide)
        obtain ⟨rest, rfl, -⟩ := Utf8.exists_of_encode_eq_cons hmore (by decide)
        exact absurd rfl (hnot rest)
      · rfl
    · rfl

section

variable {passed : UInt8 → Bool} (hpassed : ∀ b, passed b = true → isDigitByte b = false)

include hpassed

/-- Every byte that is read takes two digits. -/
theorem countP_of_readPairs? {first : Option Nat} {bytes read : Bytes}
    (h : readPairs? passed first bytes = some read) :
    first.toList.length + bytes.countP isDigitByte = 2 * read.length := by
  induction bytes generalizing first read with
  | nil =>
      cases first with
      | none =>
          cases h
          rfl
      | some d => cases h
  | cons b rest ih =>
      have hdigit : isDigitByte b = (digitValue? (Char.ofNat b.toNat)).isSome := rfl
      rw [List.countP_cons]
      by_cases hb : passed b = true
      · rw [readPairs?_of_passed first rest hb] at h
        rw [hpassed b hb, if_neg Bool.false_ne_true]
        exact ih h
      · rw [readPairs?_of_not_passed first rest hb] at h
        cases hvalue : digitValue? (Char.ofNat b.toNat) with
        | none =>
            rw [hvalue] at h
            cases h
        | some d =>
            rw [hvalue] at h hdigit
            rw [hdigit, Option.isSome_some, if_pos rfl]
            cases first with
            | none =>
                have hrest := ih h
                rw [Option.toList_some, List.length_singleton] at hrest
                rw [Option.toList_none, List.length_nil]
                omega
            | some high =>
                obtain ⟨others, hothers, rfl⟩ := Option.map_eq_some_iff.mp h
                have hrest := ih hothers
                rw [Option.toList_none, List.length_nil] at hrest
                rw [Option.toList_some, List.length_singleton, List.length_cons]
                omega

omit hpassed in
theorem digits_of_encode {cs : List Char} (h : ∀ b ∈ Utf8.encode cs, isDigitByte b = true) :
    ∀ c ∈ cs, (digitValue? c).isSome := by
  induction cs with
  | nil => exact List.forall_mem_nil _
  | cons c cs ih =>
      obtain ⟨a, behind, hc, hspells⟩ := Utf8.exists_spells c
      rw [Utf8.encode, List.flatMap_cons, ← Utf8.encode, List.forall_mem_append, hc, List.forall_mem_cons] at h
      obtain ⟨⟨ha, -⟩, hrest⟩ := h
      have hsmall : a.toNat < 0x80 := by
        have hascii := isAscii_of_digitValue? ha
        rwa [Utf8.toNat_ofNat_of_valid (.inl (by have := a.toNat_lt; omega))] at hascii
      obtain ⟨-, hnumber⟩ := hspells.eq_of_lt hsmall
      rw [isDigitByte, ← hnumber, Char.ofNat_toNat] at ha
      exact List.forall_mem_cons.mpr ⟨ha, ih hrest⟩

/-- A text that is read as one byte for each two of its own is of digits, and had no second marker. -/
theorem digits_of_readPairs? {cs : List Char} {read : Bytes}
    (hread : readPairs? passed none (Utf8.encode (stripMarker cs)) = some read)
    (hlength : 2 * read.length = (Utf8.encode cs).length) : ∀ c ∈ cs, (digitValue? c).isSome := by
  have hcount := countP_of_readPairs? hpassed hread
  have hle := List.countP_le_length (p := isDigitByte) (l := Utf8.encode (stripMarker cs))
  rw [Option.toList_none, List.length_nil, Nat.zero_add] at hcount
  obtain ⟨marker, rfl | rfl, hcs⟩ := exists_marker cs
  · rw [← List.nil_append (stripMarker cs), ← hcs] at hcount
    exact digits_of_encode (List.countP_eq_length.mp (hcount.trans hlength))
  · have htwo : (Utf8.encode cs).length = (Utf8.encode (stripMarker cs)).length + 2 := by
      rw [hcs]
      rfl
    omega

theorem readPairs?_digits {cs : List Char} (h : ∀ c ∈ cs, (digitValue? c).isSome) :
    readPairs? passed none (cs.map fun c => UInt8.ofNat c.toNat) = toBytes? cs := by
  have hbyte {c : Char} {d : Nat} (hc : digitValue? c = some d) :
      digitValue? (Char.ofNat (UInt8.ofNat c.toNat).toNat) = some d ∧ ¬ passed (UInt8.ofNat c.toNat) = true := by
    have hdigit : digitValue? (Char.ofNat (UInt8.ofNat c.toNat).toNat) = some d := by
      rw [ofNat_toNat_ofNat (Option.isSome_of_eq_some hc), hc]
    refine ⟨hdigit, fun hpass => ?_⟩
    have hnone := hpassed _ hpass
    rw [isDigitByte, hdigit] at hnone
    cases hnone
  induction cs using toBytes?.induct with
  | case1 => rfl
  | case2 c =>
      obtain ⟨d, hd⟩ := Option.isSome_iff_exists.mp (h c List.mem_cons_self)
      obtain ⟨hvalue, hkept⟩ := hbyte hd
      rw [List.map_cons, readPairs?_of_not_passed _ _ hkept, hvalue]
      rfl
  | case3 high low rest ih =>
      obtain ⟨hhigh, h⟩ := List.forall_mem_cons.mp h
      obtain ⟨hlow, hrest⟩ := List.forall_mem_cons.mp h
      obtain ⟨d, hd⟩ := Option.isSome_iff_exists.mp hhigh
      obtain ⟨e, he⟩ := Option.isSome_iff_exists.mp hlow
      obtain ⟨hvalue, hkept⟩ := hbyte hd
      obtain ⟨hvalue', hkept'⟩ := hbyte he
      rw [List.map_cons, List.map_cons, readPairs?_of_not_passed _ _ hkept, hvalue]
      dsimp only
      rw [readPairs?_of_not_passed _ _ hkept', hvalue', toBytes?, hd, he, ← ih hrest]
      dsimp only
      cases readPairs? passed none (rest.map fun c => UInt8.ofNat c.toNat) <;> rfl

end

end Hex

/-- The address that the bytes of a text name: less one marker there are forty of them, and less one more, which
there is none of, they are read as twenty. -/
def Address.ofEncoded? (passed : UInt8 → Bool) (text : String) : Option Address :=
  let bytes := Hex.stripMarkerBytes (Utf8.encode text.toList)
  if bytes.length = 40 then
    match Hex.readPairs? passed none (Hex.stripMarkerBytes bytes) with
    | some read => if read.length = 20 then some (Address.ofBytes read) else none
    | none => none
  else none

theorem Address.ofEncoded?_eq_ofText? {passed : UInt8 → Bool}
    (hpassed : ∀ b, passed b = true → Hex.isDigitByte b = false) (text : String) :
    ofEncoded? passed text = ofText? text := by
  rw [ofEncoded?, Hex.stripMarkerBytes_encode, Hex.stripMarkerBytes_encode]
  by_cases hnamed : (Hex.stripMarker text.toList).length = 40 ∧
      ∀ c ∈ Hex.stripMarker text.toList, (Hex.digitValue? c).isSome
  · obtain ⟨hlength, hdigits⟩ := hnamed
    obtain ⟨read, hread⟩ := Option.isSome_iff_exists.mp
      ((Hex.toBytes?_isSome_iff _).mpr ⟨by omega, hdigits⟩)
    have hcount := congrArg List.length (Hex.toBytes?_eq_some_iff.mp hread)
    rw [List.length_map, Hex.length_ofBytes] at hcount
    have hbytes : (Utf8.encode (Hex.stripMarker text.toList)).length = 40 := by
      rw [Hex.encode_digits hdigits, List.length_map, hlength]
    have htwenty : read.length = 20 := by omega
    rw [if_pos hbytes, Hex.stripMarker_of_not_mem (Hex.not_mem_of_digits hdigits), Hex.encode_digits hdigits,
      Hex.readPairs?_digits hpassed hdigits, ofText?, if_pos hlength, hread]
    exact if_pos htwenty
  · rw [ofText?_eq_none_iff.mpr hnamed]
    split_ifs with hlength
    · split
      · rename_i read hread
        refine if_neg fun htwenty => hnamed ?_
        have hdigits := Hex.digits_of_readPairs? hpassed hread (by rw [htwenty, hlength])
        refine ⟨?_, hdigits⟩
        rw [← hlength, Hex.encode_digits hdigits, List.length_map]
      · rfl
    · rfl

/-- An address is read from its forty digits in either case, marked or not, and from nothing else. -/
theorem addresses_are_read_from_digits :
    (∀ text a, Address.ofText? text = some a ↔ Address.Denotes text.toList a) ∧
    (∀ cs, Address.ofText? (String.ofList ('0' :: 'x' :: '0' :: 'x' :: cs)) = none ∧
      Address.ofText? (String.ofList ('0' :: 'X' :: cs)) = none) ∧
    (∀ text, ∀ c ∈ text.toList, Blank.isBlank c = true ∨ 1 < c.utf8Size → Address.ofText? text = none) ∧
    (∀ text, (Hex.stripMarker text.toList).length ≠ 40 ∨ (Utf8.encode (Hex.stripMarker text.toList)).length ≠ 40 →
      Address.ofText? text = none) ∧
    (∀ a, ∀ marker ∈ [[], ['0', 'x']],
      ∀ digits ∈ [Hex.ofBytes (Address.toBytes a), (Hex.ofBytes (Address.toBytes a)).map Char.toUpper],
        Address.ofText? (String.ofList (marker ++ digits)) = some a) ∧
    (∀ text text' a a', Address.ofText? text = some a → Address.ofText? text' = some a' →
      (a = a' ↔ Address.spelling text = Address.spelling text')) ∧
    ∀ passed : UInt8 → Bool, (∀ b, passed b = true → Hex.isDigitByte b = false) →
      ∀ text, Address.ofEncoded? passed text = Address.ofText? text := by
  refine ⟨fun text a => Address.ofText?_eq_some_iff_denotes, fun cs => ⟨?_, ?_⟩,
    fun text c hmem hc => Address.ofText?_of_blank_or_wide hmem hc, fun text hlength => ?_,
    fun a marker hmarker digits hdigits => ?_, fun text text' a a' h h' => Address.eq_iff_spelling_eq h h',
    fun passed hpassed text => Address.ofEncoded?_eq_ofText? hpassed text⟩
  · refine Address.ofText?_of_stranger (c := 'x') ?_ rfl
    rw [String.toList_ofList]
    exact List.mem_cons_of_mem _ List.mem_cons_self
  · refine Address.ofText?_of_stranger (c := 'X') ?_ rfl
    rw [String.toList_ofList]
    exact List.mem_cons_of_mem _ List.mem_cons_self
  · refine Address.ofText?_eq_none_iff.mpr fun ⟨hforty, hdigits⟩ => ?_
    rw [Hex.encode_digits hdigits, List.length_map, or_self] at hlength
    exact hlength hforty
  · refine Address.ofText?_of_map_toLower (List.mem_pair.mp hmarker) ?_
    rcases List.mem_pair.mp hdigits with hdigits | hdigits
    · rw [hdigits]
      exact Hex.toBytes?_eq_some_iff.mp (Hex.toBytes?_ofBytes _)
    · rw [hdigits]
      exact Hex.map_toLower_toUpper _

def sampleNamed : Address := ⟨0xabcdef0123456789abcdef0123456789abcdef01⟩

def samplePassed (b : UInt8) : Bool := b = 0x20 || b = 0x09 || b = 0x0A || b = 0x0D

theorem sampleNamed_read :
    Address.ofText? "0xabCDEF0123456789abcdef0123456789ABCdef01" = some sampleNamed ∧
    Address.ofText? "ABCDEF0123456789ABCDEF0123456789ABCDEF01" = some sampleNamed ∧
    Address.spelling "0xabCDEF0123456789abcdef0123456789ABCdef01" =
      Address.spelling "ABCDEF0123456789ABCDEF0123456789ABCDEF01" ∧
    Address.ofEncoded? samplePassed "0xabCDEF0123456789abcdef0123456789ABCdef01" = some sampleNamed ∧
    Address.ofText? "éCDEF0123456789abcdef0123456789ABCdef01" = none ∧
    Address.ofText? "CDEF0123456789abcdef0123456789ABCdef01 \n" = none ∧
    Address.ofText? "CDEF0123456789abcdef0123456789ABCdef01" = none := by
  obtain ⟨haccepted, -, hstranger, hlength, hspelled, hsame, hbytes⟩ := addresses_are_read_from_digits
  have hdigits : List.Forall₂ Hex.IsDigit "abCDEF0123456789abcdef0123456789ABCdef01".toList
      ([10, 11, 12, 13, 14, 15, 0, 1, 2, 3, 4, 5, 6, 7, 8, 9] ++ [10, 11, 12, 13, 14, 15, 0, 1, 2, 3, 4, 5, 6, 7,
        8, 9] ++ [10, 11, 12, 13, 14, 15, 0, 1]) := Hex.forall₂_isDigit_iff.mpr (by decide)
  have hmixed : Address.ofText? "0xabCDEF0123456789abcdef0123456789ABCdef01" = some sampleNamed :=
    (haccepted _ _).mpr (.intro (.inr rfl) hdigits (by decide) (by decide))
  have hupper : Address.ofText? "ABCDEF0123456789ABCDEF0123456789ABCDEF01" = some sampleNamed :=
    hspelled sampleNamed [] (by decide) "ABCDEF0123456789ABCDEF0123456789ABCDEF01".toList (by decide)
  have hpassed (b : UInt8) (hb : samplePassed b = true) : Hex.isDigitByte b = false := by
    simp only [samplePassed, Bool.or_eq_true, decide_eq_true_eq] at hb
    rcases hb with ((rfl | rfl) | rfl) | rfl
    all_goals rfl
  exact ⟨hmixed, hupper, (hsame _ _ _ _ hmixed hupper).mp rfl, (hbytes samplePassed hpassed _).trans hmixed,
    hstranger _ 'é' (by decide) (.inr (by decide)), hstranger _ ' ' (by decide) (.inl (by decide)),
    hlength _ (.inl (by decide))⟩

end LiquidityTrigger
