import LiquidityTrigger.Proofs.Bytes
import LiquidityTrigger.Proofs.Text.Utf8
import LiquidityTrigger.Text.Hex

/-!
# Hexadecimal text reads back

The digits that a byte is written as denote its two halves, so byte strings and addresses read back what
was written. Reading takes nothing but the digits of either case, and each of them is one byte of UTF-8.
-/

namespace LiquidityTrigger

namespace Hex

theorem digitValue?_digit {n : Nat} (h : n < 16) : digitValue? (digit n) = some n := by
  have hall : ∀ k < 16, digitValue? (digit k) = some k := by decide
  exact hall n h

theorem ofNat_halves (b : UInt8) : UInt8.ofNat (b.toNat / 16 * 16 + b.toNat % 16) = b := by
  rw [Nat.div_add_mod', UInt8.ofNat_toNat]

theorem toBytes?_ofBytes (bytes : Bytes) : toBytes? (ofBytes bytes) = some bytes := by
  induction bytes with
  | nil => rfl
  | cons b rest ih =>
      have hb : b.toNat < 256 := b.toNat_lt
      have hhigh : digitValue? (digit (b.toNat / 16)) = some (b.toNat / 16) :=
        digitValue?_digit (by omega)
      have hlow : digitValue? (digit (b.toNat % 16)) = some (b.toNat % 16) :=
        digitValue?_digit (Nat.mod_lt _ (by decide))
      rw [ofBytes, List.flatMap_cons, ofByte, List.cons_append, List.cons_append, List.nil_append,
        toBytes?, hhigh, hlow, ← ofBytes, ih]
      simp only [Option.bind_eq_bind, Option.bind_some, ofNat_halves]
      rfl

theorem ofBytes_injective {bytes bytes' : Bytes} (h : ofBytes bytes = ofBytes bytes') :
    bytes = bytes' := by
  have hread := toBytes?_ofBytes bytes
  rw [h, toBytes?_ofBytes] at hread
  exact (Option.some.inj hread).symm

theorem length_ofBytes (bytes : Bytes) : (ofBytes bytes).length = 2 * bytes.length := by
  induction bytes with
  | nil => rfl
  | cons b rest ih =>
      rw [ofBytes, List.flatMap_cons, List.length_append, ← ofBytes, ih, List.length_cons, ofByte,
        List.length_cons, List.length_singleton]
      omega

theorem isAscii_of_digitValue? {c : Char} (h : (digitValue? c).isSome) : c.toNat < 128 := by
  refine Nat.lt_of_not_le fun hlarge => ?_
  have hout (high : Char) (hhigh : high.toNat < 128) : ¬ c ≤ high := by
    intro hle
    have hle : c.toNat ≤ high.toNat := hle
    omega
  have hdigit : ¬ c ≤ '9' := hout '9' (by decide)
  have hlower : ¬ c ≤ 'f' := hout 'f' (by decide)
  have hupper : ¬ c ≤ 'F' := hout 'F' (by decide)
  simp [digitValue?, hdigit, hlower, hupper] at h

theorem ofNat_toNat_ofNat {c : Char} (h : (digitValue? c).isSome) :
    Char.ofNat (UInt8.ofNat c.toNat).toNat = c := by
  have hascii := isAscii_of_digitValue? h
  rw [UInt8.toNat_ofNat', Nat.mod_eq_of_lt (by omega), Char.ofNat_toNat]

theorem encode_digits {digits : List Char} (h : ∀ c ∈ digits, (digitValue? c).isSome) :
    Utf8.encode digits = digits.map fun c => UInt8.ofNat c.toNat := by
  induction digits with
  | nil => rfl
  | cons c digits ih =>
      obtain ⟨hc, hdigits⟩ := List.forall_mem_cons.mp h
      rw [Utf8.encode, List.flatMap_cons, Utf8.encodeChar_of_lt c (isAscii_of_digitValue? hc),
        ← Utf8.encode, ih hdigits]
      rfl

/-- Reading succeeds on an even number of digits and on nothing else. -/
theorem toBytes?_isSome_iff (cs : List Char) :
    (toBytes? cs).isSome ↔ cs.length % 2 = 0 ∧ ∀ c ∈ cs, (digitValue? c).isSome := by
  induction cs using toBytes?.induct with
  | case1 => simp [toBytes?]
  | case2 c => simp [toBytes?]
  | case3 hi lo rest ih =>
      have hparity : (hi :: lo :: rest).length % 2 = rest.length % 2 := by
        rw [List.length_cons, List.length_cons]
        omega
      rw [hparity, List.forall_mem_cons, List.forall_mem_cons, toBytes?]
      cases hhigh : digitValue? hi with
      | none => simp
      | some h =>
          cases hlow : digitValue? lo with
          | none => simp
          | some l =>
              rw [Option.bind_eq_bind, Option.bind_some, Option.bind_eq_bind, Option.bind_some]
              cases hrest : toBytes? rest with
              | none => simpa [hrest] using ih
              | some bytes => simpa [hrest] using ih

/-! ### Either case -/

theorem digitValue?_toLower (c : Char) : digitValue? c.toLower = digitValue? c := by
  by_cases hsmall : c.toNat < 128
  · exact Utf8.of_ascii (p := fun c => digitValue? c.toLower = digitValue? c) (by decide) hsmall
  · have hlower : c.toLower = c := dif_neg fun hupper => by
      have hle : c.toNat ≤ 90 := UInt32.le_iff_toNat_le.mp hupper.2
      omega
    rw [hlower]

theorem digitValue?_eq_some_iff {c : Char} {n : Nat} :
    digitValue? c = some n ↔ n < 16 ∧ c.toLower = digit n := by
  constructor
  · intro h
    have hascii := isAscii_of_digitValue? (Option.isSome_of_eq_some h)
    exact Utf8.of_ascii (p := fun c => ∀ n ∈ digitValue? c, n < 16 ∧ c.toLower = digit n) (by decide) hascii n h
  · rintro ⟨hn, hc⟩
    rw [← digitValue?_toLower, hc, digitValue?_digit hn]

/-- Bytes are read from what they are written as, in either case. -/
theorem toBytes?_eq_some_iff {cs : List Char} {bytes : Bytes} :
    toBytes? cs = some bytes ↔ cs.map Char.toLower = ofBytes bytes := by
  induction cs using toBytes?.induct generalizing bytes with
  | case1 => cases bytes <;> simp [toBytes?, ofBytes, ofByte]
  | case2 c => cases bytes <;> simp [toBytes?, ofBytes, ofByte]
  | case3 hi lo rest ih =>
      simp only [toBytes?, Option.bind_eq_bind, Option.bind_eq_some_iff, digitValue?_eq_some_iff, ih,
        Option.pure_def, Option.some.injEq, List.map_cons]
      constructor
      · rintro ⟨h, ⟨hh, hhi⟩, l, ⟨hl, hlo⟩, others, hrest, rfl⟩
        have hbyte : (UInt8.ofNat (h * 16 + l)).toNat = h * 16 + l :=
          UInt8.toNat_ofNat_of_lt' (show _ < 256 by omega)
        have hhigh : (h * 16 + l) / 16 = h := by omega
        have hlow : (h * 16 + l) % 16 = l := by omega
        rw [ofBytes, List.flatMap_cons, ofByte, hbyte, hhigh, hlow, hhi, hlo, hrest]
        rfl
      · cases bytes with
        | nil => simp [ofBytes]
        | cons b others =>
            intro h
            rw [ofBytes, List.flatMap_cons, ofByte, ← ofBytes] at h
            obtain ⟨hhi, h⟩ := List.cons.inj h
            obtain ⟨hlo, hrest⟩ := List.cons.inj h
            have hb : b.toNat < 256 := b.toNat_lt
            exact ⟨_, ⟨by omega, hhi⟩, _, ⟨Nat.mod_lt _ (by decide), hlo⟩, others, hrest,
              by rw [ofNat_halves]⟩

end Hex

theorem Bytes.toList_hex (bytes : Bytes) : bytes.hex.toList = '0' :: 'x' :: Hex.ofBytes bytes := by
  rw [Bytes.hex, Hex.marked, String.toList_ofList]

theorem Bytes.stripMarker_hex (bytes : Bytes) :
    Hex.stripMarker bytes.hex.toList = Hex.ofBytes bytes := by
  rw [bytes.toList_hex, Hex.stripMarker]

theorem Address.ofText?_hex (a : Address) : Address.ofText? a.hex = some a := by
  have hlength : (Hex.ofBytes a.toBytes).length = 40 := by rw [Hex.length_ofBytes, length_toBytes]
  rw [Address.ofText?, Address.hex, Bytes.stripMarker_hex]
  simp [hlength, Hex.toBytes?_ofBytes]

/-- The digits of an address as a text spells them, without the marker and in lower case. -/
def Address.spelling (text : String) : List Char := (Hex.stripMarker text.toList).map Char.toLower

theorem Address.ofText?_eq_some_iff {text : String} {a : Address} :
    Address.ofText? text = some a ↔ Address.spelling text = Hex.ofBytes a.toBytes := by
  rw [Address.ofText?, Address.spelling]
  constructor
  · intro h
    split_ifs at h with hlength
    obtain ⟨bytes, hbytes, h⟩ := Option.bind_eq_some_iff.mp h
    obtain rfl := Option.some.inj h
    have hspelled := Hex.toBytes?_eq_some_iff.mp hbytes
    have hcount := congrArg List.length hspelled
    rw [List.length_map, hlength, Hex.length_ofBytes] at hcount
    rw [hspelled, Address.toBytes_ofBytes (by omega)]
  · intro h
    have hcount := congrArg List.length h
    rw [List.length_map, Hex.length_ofBytes, Address.length_toBytes] at hcount
    rw [if_pos hcount, Hex.toBytes?_eq_some_iff.mpr h, Option.bind_eq_bind, Option.bind_some,
      Address.ofBytes_toBytes]
    rfl

/-- Two texts that name addresses name one address exactly when they spell the same digits. -/
theorem Address.eq_iff_spelling_eq {text text' : String} {a a' : Address}
    (h : Address.ofText? text = some a) (h' : Address.ofText? text' = some a') :
    a = a' ↔ Address.spelling text = Address.spelling text' := by
  rw [Address.ofText?_eq_some_iff.mp h, Address.ofText?_eq_some_iff.mp h']
  exact ⟨fun heq => heq ▸ rfl, fun heq => Address.toBytes_injective (Hex.ofBytes_injective heq)⟩

end LiquidityTrigger
