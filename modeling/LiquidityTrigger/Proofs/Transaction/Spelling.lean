import LiquidityTrigger.Proofs.Rlp.Spelling
import LiquidityTrigger.Proofs.Transaction.Signing
import Mathlib.Data.List.Basic

/-!
# The spellings of a transaction

Every value is read from the one item that spells it, so nine values can be spelled in other ways than
their own wire form only around the items. There are three such ways. The header may announce less
than all nine items, since the last two are read onward. Bytes may stand behind the items, inside the
list or after it, as long as no further item begins there. And an empty list in the recipient's place
passes for an absent recipient. Each spelling is hashed as it is given, so each has a hash of its own.
-/

namespace LiquidityTrigger.Legacy

open Rlp

/-! ### Single values -/

theorem readWord_eq_ok_iff {encoding : Bytes} {w : Word} (hitem : IsItem encoding) :
    readWord encoding = .ok w ↔ encoding = encodeNat w.toNat := by
  constructor
  · intro h
    rw [readWord, bind_eq_ok] at h
    obtain ⟨n, hnat, hw⟩ := h
    cases hw
    obtain ⟨hencoding, hn⟩ := (readNat_eq_ok_iff hitem (Nat.le_refl 32)).mp hnat
    have hvalue : (BitVec.ofNat 256 n).toNat = n := by
      rw [BitVec.toNat_ofNat]
      exact Nat.mod_eq_of_lt hn
    rw [hvalue]
    exact hencoding
  · rintro rfl
    exact readWord_encodeNat w

/-- A recipient is read from its own encoding, and none also from an empty list. -/
theorem readRecipient_eq_ok_iff {encoding : Bytes} {recipient : Option Address}
    (hitem : IsItem encoding) :
    readRecipient encoding = .ok recipient ↔
      encoding = encodeRecipient recipient ∨ recipient = none ∧ encoding = [0xC0] := by
  constructor
  · intro h
    rw [readRecipient] at h
    split at h
    · rename_i hempty
      cases h
      rcases eq_of_isEmptyItem hitem hempty with rfl | rfl
      · exact .inl rfl
      · exact .inr ⟨rfl, rfl⟩
    · rw [bind_eq_ok] at h
      obtain ⟨content, hexact, h⟩ := h
      cases h
      obtain ⟨hencoding, hlength⟩ := (readExact_eq_ok_iff hitem (by decide)).mp hexact
      left
      rw [encodeRecipient, Option.elim_some, Address.toBytes_ofBytes hlength]
      exact hencoding
  · rintro (rfl | ⟨rfl, rfl⟩)
    · exact readRecipient_encodeRecipient recipient
    · rfl

/-! ### Nine items under a header -/

/-- What can differ between two ways to write the same nine values. -/
structure Spelling where
  /-- The item in the recipient's place. -/
  recipient : Bytes
  /-- How many bytes the list's header announces. -/
  announced : Nat
  /-- What stands behind the nine items. -/
  tail : Bytes

namespace Spelling

def items (σ : Spelling) (f : Fields) : List Bytes := f.items.set 3 σ.recipient

def behind (σ : Spelling) (f : Fields) : Bytes := (σ.items f).flatten ++ σ.tail

def bytes (σ : Spelling) (f : Fields) : Bytes := header 0xC0 σ.announced ++ σ.behind f

/-- The spellings that are read: the first seven items are announced, what is announced is there, and
no further item stands behind the nine. Lengths are countable in 64 bits. -/
structure Accepted (σ : Spelling) (f : Fields) : Prop where
  recipient : σ.recipient = encodeRecipient f.recipient ∨
    f.recipient = none ∧ σ.recipient = [0xC0]
  covers : ((σ.items f).take 7).flatten.length ≤ σ.announced
  present : σ.announced ≤ (σ.behind f).length
  countable : σ.announced < 2 ^ 64
  payload : f.data.length < 2 ^ 64
  stops : Broken σ.tail

/-- The spelling that `encode` writes. -/
def own (f : Fields) : Spelling where
  recipient := encodeRecipient f.recipient
  announced := f.items.flatten.length
  tail := []

theorem bytes_own (f : Fields) : (own f).bytes f = encode f := by
  rw [bytes, behind, own, encode_eq, encodeList, List.append_nil]
  rfl

end Spelling

section

variable {nonce gasPrice gas recipient value data v r s : Bytes} {announced : Nat} {tail : Bytes}
  {f : Fields}

theorem readFields_headed_iff
    (hitems : ∀ encoding ∈ [nonce, gasPrice, gas, recipient, value, data, v, r, s],
      IsItem encoding)
    (hcountable : announced < 2 ^ 64)
    (hpresent : announced ≤
      ([nonce, gasPrice, gas, recipient, value, data, v, r, s].flatten ++ tail).length)
    (hcovers : [nonce, gasPrice, gas, recipient, value, data, v].flatten.length ≤ announced) :
    readFields (header 0xC0 announced ++
        ([nonce, gasPrice, gas, recipient, value, data, v, r, s].flatten ++ tail)) = .ok f ↔
      (recipient = encodeRecipient f.recipient ∨ f.recipient = none ∧ recipient = [0xC0]) ∧
        f.data.length < 2 ^ 64 ∧
        [nonce, gasPrice, gas, recipient, value, data, v, r, s] =
          (Spelling.mk recipient announced tail).items f := by
  have hbehind : ∀ index encoding,
      [nonce, gasPrice, gas, recipient, value, data, v, r, s][index]? = some encoding →
      item index ([nonce, gasPrice, gas, recipient, value, data, v, r, s].flatten ++ tail) =
        .ok encoding := fun _ _ => item_flatten_append hitems tail
  have hwithin : ∀ index encoding, index < 7 →
      [nonce, gasPrice, gas, recipient, value, data, v, r, s][index]? = some encoding →
      item index (([nonce, gasPrice, gas, recipient, value, data, v, r, s].flatten ++ tail).take
        announced) = .ok encoding := fun _ _ => item_announced tail hitems hcovers
  simp only [List.forall_mem_cons] at hitems
  obtain ⟨hnonce, hgasPrice, hgas, hrecipient, hvalue, hdata, hv, hr, hs, -⟩ := hitems
  rw [readFields, inside_headed hcountable hpresent, onward_headed hcountable hpresent]
  -- Each item is found at its position, and each is read by its own reader.
  simp only [bind_eq_ok, pure, Except.pure, Except.ok.injEq, exists_eq_left',
    hwithin 3 _ (by decide) rfl, hbehind 7 _ rfl, hbehind 8 _ rfl, hwithin 6 _ (by decide) rfl,
    hwithin 0 _ (by decide) rfl, hwithin 1 _ (by decide) rfl, hwithin 2 _ (by decide) rfl,
    hwithin 4 _ (by decide) rfl, hwithin 5 _ (by decide) rfl]
  simp only [readRecipient_eq_ok_iff hrecipient, readWord_eq_ok_iff hr, readWord_eq_ok_iff hs,
    readCounter_eq_ok_iff hv, readWord_eq_ok_iff hnonce, readWord_eq_ok_iff hgasPrice,
    readWord_eq_ok_iff hgas, readWord_eq_ok_iff hvalue, readBytes_eq_ok_iff hdata]
  constructor
  · rintro ⟨who, hwho, r', rfl, s', rfl, v', rfl, nonce', rfl, gasPrice', rfl, gas', rfl, value', rfl,
      data', ⟨rfl, hlength⟩, rfl⟩
    exact ⟨hwho, hlength, rfl⟩
  · rintro ⟨hwho, hlength, hsame⟩
    simp only [Spelling.items, Fields.items, List.set, List.cons.injEq, true_and, and_true] at hsame
    obtain ⟨rfl, rfl, rfl, rfl, rfl, rfl, rfl, rfl⟩ := hsame
    exact ⟨_, hwho, _, rfl, _, rfl, _, rfl, _, rfl, _, rfl, _, rfl, _, rfl, _, ⟨rfl, hlength⟩, rfl⟩

end

/-! ### Accepted spellings -/

namespace Spelling

variable {σ : Spelling} {f : Fields}

theorem Accepted.isItem (h : σ.Accepted f) : ∀ encoding ∈ σ.items f, IsItem encoding := by
  intro encoding hmem
  rcases List.mem_or_eq_of_mem_set hmem with hmem | rfl
  · exact isItem_of_mem h.payload encoding hmem
  · rcases h.recipient with hown | ⟨-, hlist⟩
    · rw [hown]
      exact isItem_encodeRecipient f.recipient
    · rw [hlist]
      exact isItem_emptyList

theorem decode_bytes (h : σ.Accepted f) :
    decode (σ.bytes f) = .ok (f.toTransaction (keccak256 (σ.bytes f))) := by
  have hitems := h.isItem
  have hcount : itemCount (σ.bytes f) = 9 := by
    have hfirst : item 0 ((σ.behind f).take σ.announced) = .ok (encodeNat f.nonce.toNat) :=
      item_announced σ.tail hitems h.covers (by decide) rfl
    rw [bytes, itemCount_headed h.countable h.present hfirst]
    refine countItems_append hitems h.stops ?_
    rw [behind, List.length_append]
    have hlength := length_le_flatten hitems
    omega
  have hfields : readFields (σ.bytes f) = .ok f :=
    (readFields_headed_iff hitems h.countable h.present h.covers).mpr
      ⟨h.recipient, h.payload, rfl⟩
  rw [decode, bytes, isList_header h.countable, if_neg (by decide), ← bytes, hcount,
    if_neg (not_not_intro rfl), hfields]

theorem decode_of_bytes_eq {raw : Bytes} (h : σ.Accepted f) (hbytes : σ.bytes f = raw) :
    decode raw = .ok (f.toTransaction (keccak256 raw)) := by
  subst hbytes
  exact decode_bytes h

theorem length_flatten_items_lt (h : f.data.length < 2 ^ 64) : f.items.flatten.length < 256 ^ 9 := by
  have hnonce := length_encodeNat_le f.nonce.isLt
  have hgasPrice := length_encodeNat_le f.gasPrice.isLt
  have hgas := length_encodeNat_le f.gas.isLt
  have hvalue := length_encodeNat_le f.value.isLt
  have hv := length_encodeNat_le (Nat.lt_trans f.v.toNat_lt (by decide))
  have hr := length_encodeNat_le f.r.isLt
  have hs := length_encodeNat_le f.s.isLt
  have hdata := (length_encodeBytes f.data).2
  have hlead := lead_le_of_lt h
  have hrecipient : (encodeRecipient f.recipient).length ≤ 21 := by
    cases f.recipient with
    | none => decide
    | some a =>
        have hlength := a.length_toBytes
        rw [encodeRecipient_some, List.length_cons]
        omega
  simp only [Fields.items, List.flatten_cons, List.flatten_nil, List.length_append, List.length_nil]
  omega

/-- Of all spellings, only the own one gives the wire form. -/
theorem bytes_eq_encode_iff (h : σ.Accepted f) : σ.bytes f = encode f ↔ σ = own f := by
  constructor
  · intro hsame
    have hitems := h.isItem
    have hseven : ((σ.items f).take 7).length ≤ ((σ.items f).take 7).flatten.length :=
      length_le_flatten fun e he => hitems e (List.mem_of_mem_take he)
    -- The nine items may be just too many for 64 bits, which adds one to their lead.
    have hnear : Near σ.announced f.items.flatten.length := by
      have hlead := lead_le_of_lt h.countable
      have hpos : lead 7 ≤ lead σ.announced := lead_mono (Nat.le_trans hseven h.covers)
      have htotal := lead_le_add_minimalWidth f.items.flatten.length
      have hwidth := Bytes.minimalWidth_le_iff.mpr (length_flatten_items_lt h.payload)
      rw [lead_of_short (by decide)] at hpos
      rw [greatestShort] at htotal
      constructor <;> omega
    rw [bytes, encode_eq, encodeList] at hsame
    obtain ⟨hannounced, hbehind⟩ := header_append_inj hnear hsame
    have hown : f.items = σ.items f := by
      rw [behind, ← List.append_nil f.items.flatten] at hbehind
      exact items_prefix hitems (isItem_of_mem h.payload) (Nat.le_refl 9) hbehind
    have htail : σ.tail = [] := by
      rw [behind, ← hown] at hbehind
      exact List.append_right_eq_self.mp hbehind
    have hrecipient : encodeRecipient f.recipient = σ.recipient :=
      Option.some.inj (congrArg (fun items => items[3]?) hown)
    cases σ with
    | mk recipient announced tail =>
        subst hannounced htail hrecipient
        rfl
  · rintro rfl
    exact bytes_own f

end Spelling

theorem exists_of_length_eq_nine {items : List Bytes} (h : items.length = 9) :
    ∃ nonce gasPrice gas recipient value data v r s,
      items = [nonce, gasPrice, gas, recipient, value, data, v, r, s] := by
  have hsplit : items = items.take 3 ++ ((items.drop 3).take 3 ++ (items.drop 3).drop 3) := by
    rw [List.take_append_drop, List.take_append_drop]
  have hdrop : (items.drop 3).length = 6 := by rw [List.length_drop, h]
  have hlast : ((items.drop 3).drop 3).length = 3 := by rw [List.length_drop, hdrop]
  obtain ⟨nonce, gasPrice, gas, hfront⟩ :=
    List.length_eq_three.mp (List.length_take_of_le (h ▸ by decide : 3 ≤ items.length))
  obtain ⟨recipient, value, data, hmiddle⟩ :=
    List.length_eq_three.mp (List.length_take_of_le (hdrop ▸ by decide : 3 ≤ (items.drop 3).length))
  obtain ⟨v, r, s, hback⟩ := List.length_eq_three.mp hlast
  rw [hfront, hmiddle, hback] at hsplit
  exact ⟨nonce, gasPrice, gas, recipient, value, data, v, r, s, hsplit⟩

theorem exists_item_of_readFields {raw within : Bytes} {f : Fields}
    (hinside : inside raw = .ok within) (h : readFields raw = .ok f) :
    ∃ encoding, item 6 within = .ok encoding := by
  rw [readFields, hinside] at h
  simp only [bind_eq_ok, Except.ok.injEq, exists_eq_left'] at h
  obtain ⟨behind, -, third, -, who, -, seventh, -, r, -, eighth, -, s, -, v, hv, -⟩ := h
  exact ⟨v, hv⟩

theorem exists_spelling_of_decode {raw : Bytes} {tx : Transaction} (h : decode raw = .ok tx) :
    ∃ (f : Fields) (σ : Spelling), σ.Accepted f ∧ raw = σ.bytes f ∧
      tx = f.toTransaction (keccak256 raw) := by
  rw [decode] at h
  split at h
  · cases h
  · rename_i hlist
    rw [Bool.not_eq_true, Bool.not_eq_false'] at hlist
    split at h
    · cases h
    · rename_i hcount
      rw [not_not] at hcount
      cases hfields : readFields raw with
      | error fault =>
          rw [hfields] at h
          cases h
      | ok f =>
          rw [hfields] at h
          cases h
          obtain ⟨announced, items, tail, hitems, hlength, hbroken, hcountable, hpresent, hraw⟩ :=
            exists_of_itemCount hlist (by omega)
          rw [hcount] at hlength
          have hinside := inside_headed hcountable hpresent
          rw [← hraw] at hinside
          obtain ⟨seventh, hseventh⟩ := exists_item_of_readFields hinside hfields
          have hcovers := length_take_le_of_item hpresent hitems (by omega) rfl hseventh
          obtain ⟨nonce, gasPrice, gas, recipient, value, data, v, r, s, rfl⟩ :=
            exists_of_length_eq_nine hlength
          rw [hraw, readFields_headed_iff hitems hcountable hpresent hcovers] at hfields
          obtain ⟨hrecipient, hpayload, hsame⟩ := hfields
          rw [hsame] at hraw hcovers hpresent
          exact ⟨f, ⟨recipient, announced, tail⟩,
            ⟨hrecipient, hcovers, hpresent, hcountable, hpayload, hbroken⟩, hraw, rfl⟩

theorem decode_eq_ok_iff {raw : Bytes} {tx : Transaction} :
    decode raw = .ok tx ↔
      ∃ (f : Fields) (σ : Spelling), σ.Accepted f ∧ raw = σ.bytes f ∧
        tx = f.toTransaction (keccak256 raw) := by
  constructor
  · exact exists_spelling_of_decode
  · rintro ⟨f, σ, h, rfl, rfl⟩
    exact Spelling.decode_bytes h

theorem fieldsUnder_toTransaction {f : Fields} {hash : Digest} {sig : Signature}
    (h : (f.toTransaction hash).signature = some sig) :
    (f.toTransaction hash).fieldsUnder sig.v sig.r sig.s = f := by
  change Signature.ofNumbers f.v f.r f.s = some sig at h
  rw [Signature.ofNumbers] at h
  split at h
  · cases h
  · cases h
    rfl

/-- Exactly the accepted spellings of nine values are decoded, and the wire form is only one of them.
-/
theorem decoded_is_spelled (raw : Bytes) (tx : Transaction) :
    (decode raw = .ok tx ↔
      ∃ (f : Fields) (σ : Spelling), σ.Accepted f ∧ raw = σ.bytes f ∧
        tx = f.toTransaction (keccak256 raw)) ∧
    ∀ sig, tx.signature = some sig → decode raw = .ok tx →
      ∃ σ : Spelling, σ.Accepted (tx.fieldsUnder sig.v sig.r sig.s) ∧
        raw = σ.bytes (tx.fieldsUnder sig.v sig.r sig.s) ∧
        (raw = encode (tx.fieldsUnder sig.v sig.r sig.s) ↔
          σ = Spelling.own (tx.fieldsUnder sig.v sig.r sig.s)) := by
  constructor
  · exact decode_eq_ok_iff
  · intro sig hsigned hdecode
    obtain ⟨f, σ, haccepted, hraw, rfl⟩ := decode_eq_ok_iff.mp hdecode
    rw [fieldsUnder_toTransaction hsigned]
    refine ⟨σ, haccepted, hraw, ?_⟩
    rw [hraw]
    exact Spelling.bytes_eq_encode_iff haccepted

def sampleSigned : Fields where
  nonce := 0
  gasPrice := 0
  gas := 0
  recipient := none
  value := 0
  data := []
  v := 27
  r := 1
  s := 1

def sampleShortList : Bytes := [0xC7, 0x80, 0x80, 0x80, 0x80, 0x80, 0x80, 0x1B, 0x01, 0x01]

def sampleTrailing : Bytes := [0xC9, 0x80, 0x80, 0x80, 0x80, 0x80, 0x80, 0x1B, 0x01, 0x01, 0xFF]

def sampleEmptyList : Bytes := [0xC9, 0x80, 0x80, 0x80, 0xC0, 0x80, 0x80, 0x1B, 0x01, 0x01]

theorem decode_sampleShortList :
    decode sampleShortList = .ok (sampleSigned.toTransaction (keccak256 sampleShortList)) := by
  have haccepted : Spelling.Accepted ⟨[0x80], 7, []⟩ sampleSigned :=
    ⟨.inl (by decide), by decide, by decide, by decide, by decide, broken_nil⟩
  exact Spelling.decode_of_bytes_eq haccepted (by decide)

theorem decode_sampleTrailing :
    decode sampleTrailing = .ok (sampleSigned.toTransaction (keccak256 sampleTrailing)) := by
  have hbroken : Broken [0xFF] := by
    intro e h
    cases h
  have haccepted : Spelling.Accepted ⟨[0x80], 9, [0xFF]⟩ sampleSigned :=
    ⟨.inl (by decide), by decide, by decide, by decide, by decide, hbroken⟩
  exact Spelling.decode_of_bytes_eq haccepted (by decide)

theorem decode_sampleEmptyList :
    decode sampleEmptyList = .ok (sampleSigned.toTransaction (keccak256 sampleEmptyList)) := by
  have haccepted : Spelling.Accepted ⟨[0xC0], 9, []⟩ sampleSigned :=
    ⟨.inr ⟨rfl, rfl⟩, by decide, by decide, by decide, by decide, broken_nil⟩
  exact Spelling.decode_of_bytes_eq haccepted (by decide)

theorem sampleShortList_spelled :
    ∃ σ : Spelling, σ.Accepted sampleSigned ∧ sampleShortList = σ.bytes sampleSigned ∧
      σ ≠ Spelling.own sampleSigned := by
  obtain ⟨σ, haccepted, hraw, hown⟩ :=
    (decoded_is_spelled sampleShortList _).2 ⟨27, 1, 1⟩ rfl decode_sampleShortList
  refine ⟨σ, haccepted, hraw, ?_⟩
  intro h
  exact absurd (hown.mpr h) (by decide)

theorem sampleSigned_respelled :
    (sampleSigned.toTransaction (keccak256 (encode sampleSigned))).signature = some ⟨27, 1, 1⟩ ∧
    decode (encode sampleSigned) =
      .ok (sampleSigned.toTransaction (keccak256 (encode sampleSigned))) ∧
    (∀ raw ∈ [sampleShortList, sampleTrailing, sampleEmptyList],
      raw ≠ encode sampleSigned ∧
        decode raw = .ok (sampleSigned.toTransaction (keccak256 raw))) ∧
    keccak256 sampleShortList ≠ keccak256 (encode sampleSigned) := by
  refine ⟨rfl, decode_encode (by decide), ?_, by decide +kernel⟩
  simp only [List.forall_mem_cons]
  exact ⟨⟨by decide, decode_sampleShortList⟩, ⟨by decide, decode_sampleTrailing⟩,
    ⟨by decide, decode_sampleEmptyList⟩, List.forall_mem_nil _⟩

end LiquidityTrigger.Legacy
