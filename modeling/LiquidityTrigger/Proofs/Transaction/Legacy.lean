import LiquidityTrigger.Proofs.Rlp.Reading
import LiquidityTrigger.Transaction.Legacy

/-!
# The wire form reads back

Each of the nine items is read by the reader that is made for it, at its own position. Nothing stands
behind the list, so the items that are read inside it and the two that are read onward come from the
same bytes. The bytes of a wire form must be countable in 64 bits, as those of every byte string in
memory are.
-/

namespace LiquidityTrigger.Legacy

open Rlp

def Fields.items (f : Fields) : List Bytes :=
  [encodeNat f.nonce.toNat, encodeNat f.gasPrice.toNat, encodeNat f.gas.toNat,
    encodeRecipient f.recipient, encodeNat f.value.toNat, encodeBytes f.data, encodeNat f.v.toNat,
    encodeNat f.r.toNat, encodeNat f.s.toNat]

theorem encode_eq (f : Fields) : encode f = encodeList f.items := rfl

/-! ### One item -/

theorem isItem_encodeNat {n : Nat} (h : n < 2 ^ 256) : IsItem (encodeNat n) :=
  ⟨_, carries_encodeBytes (Nat.lt_of_le_of_lt (length_ofNatMinimal_le h) (by decide))⟩

theorem isItem_encodeRecipient (recipient : Option Address) : IsItem (encodeRecipient recipient) := by
  refine ⟨_, carries_encodeBytes ?_⟩
  cases recipient with
  | none => decide
  | some a =>
      rw [Option.elim_some, Address.length_toBytes]
      decide

theorem readWord_encodeNat (w : Word) : readWord (encodeNat w.toNat) = .ok w := by
  have hw : w.toNat < 256 ^ 32 := w.isLt
  rw [readWord, readNat_encodeNat hw (Nat.le_refl 32)]
  exact congrArg Except.ok (BitVec.ofNat_toNat 256 w |>.trans (BitVec.setWidth_eq w))

theorem encodeRecipient_some (a : Address) : encodeRecipient (some a) = 0x94 :: a.toBytes := by
  have hplain : ¬ isPlain a.toBytes := by
    intro h
    obtain ⟨b, -, hb⟩ := exists_of_isPlain h
    have hlength := congrArg List.length hb
    rw [Address.length_toBytes, List.length_singleton] at hlength
    exact absurd hlength (by decide)
  have hheader : header 0x80 20 = [0x94] := by decide
  rw [encodeRecipient, Option.elim_some, encodeBytes_of_not_plain hplain, Address.length_toBytes,
    hheader, List.singleton_append]

theorem readRecipient_encodeRecipient (recipient : Option Address) :
    readRecipient (encodeRecipient recipient) = .ok recipient := by
  cases recipient with
  | none => rfl
  | some a =>
      have hempty : isEmptyItem (encodeRecipient (some a)) = false := by
        rw [encodeRecipient_some]
        rfl
      rw [readRecipient, hempty, if_neg Bool.false_ne_true, encodeRecipient, Option.elim_some,
        readExact_encodeBytes a.length_toBytes (by decide)]
      exact congrArg (fun a => Except.ok (some a)) a.ofBytes_toBytes

/-! ### The whole list -/

variable {f : Fields}

theorem length_flatten_lt (h : (encode f).length < 2 ^ 64) : f.items.flatten.length < 2 ^ 64 := by
  rw [encode_eq, encodeList, List.length_append] at h
  exact Nat.lt_of_le_of_lt (Nat.le_add_left _ _) h

theorem length_data_lt (h : (encode f).length < 2 ^ 64) : f.data.length < 2 ^ 64 := by
  have hitems := length_flatten_lt h
  have hdata := (length_encodeBytes f.data).1
  simp only [Fields.items, List.flatten_cons, List.length_append] at hitems
  omega

theorem isItem_of_mem (h : f.data.length < 2 ^ 64) : ∀ encoding ∈ f.items, IsItem encoding := by
  intro encoding hmem
  simp only [Fields.items, List.mem_cons, List.not_mem_nil, or_false] at hmem
  rcases hmem with rfl | rfl | rfl | rfl | rfl | rfl | rfl | rfl | rfl
  · exact isItem_encodeNat f.nonce.isLt
  · exact isItem_encodeNat f.gasPrice.isLt
  · exact isItem_encodeNat f.gas.isLt
  · exact isItem_encodeRecipient f.recipient
  · exact isItem_encodeNat f.value.isLt
  · exact ⟨_, carries_encodeBytes h⟩
  · exact isItem_encodeNat (Nat.lt_trans f.v.toNat_lt (by decide))
  · exact isItem_encodeNat f.r.isLt
  · exact isItem_encodeNat f.s.isLt

theorem readFields_encode (h : (encode f).length < 2 ^ 64) : readFields (encode f) = .ok f := by
  have hcarries := carries_encodeList (length_flatten_lt h)
  have hitem : ∀ index encoding, f.items[index]? = some encoding →
      item index f.items.flatten = .ok encoding := fun _ _ => item_flatten (isItem_of_mem (length_data_lt h))
  rw [readFields, encode_eq, hcarries.inside, hcarries.onward]
  dsimp only [bind, Except.bind, pure, Except.pure]
  rw [hitem 3 _ rfl, hitem 7 _ rfl, hitem 8 _ rfl, hitem 6 _ rfl, hitem 0 _ rfl, hitem 1 _ rfl,
    hitem 2 _ rfl, hitem 4 _ rfl, hitem 5 _ rfl]
  dsimp only
  rw [readRecipient_encodeRecipient, readWord_encodeNat, readWord_encodeNat, readCounter_encodeNat,
    readWord_encodeNat, readWord_encodeNat, readWord_encodeNat, readWord_encodeNat,
    readBytes_encodeBytes (length_data_lt h)]

/-- A wire form is decoded to its own nine values, under the digest of all its bytes. -/
theorem decode_encode (h : (encode f).length < 2 ^ 64) :
    decode (encode f) = .ok (f.toTransaction (keccak256 (encode f))) := by
  have hlist : isList (encode f) = true := isList_encodeList (length_flatten_lt h)
  have hcount : itemCount (encode f) = 9 :=
    itemCount_encodeList (isItem_of_mem (length_data_lt h)) (List.cons_ne_nil _ _)
      (length_flatten_lt h)
  rw [decode, hlist, if_neg (by decide), hcount, if_neg (not_not_intro rfl), readFields_encode h]

/-! ### What decoding promises -/

/-- Whatever the bytes are, a rejection is reported as malformed bytes, with one of the three texts. -/
theorem toFault_of_decode {raw : Bytes} {fault : Fault}
    (h : (decode raw).mapError Rejection.toFault = .error fault) :
    ∃ rejection, decode raw = .error rejection ∧ fault = .rlp rejection.detail := by
  cases hdecode : decode raw with
  | ok tx =>
      rw [hdecode] at h
      cases h
  | error rejection =>
      rw [hdecode] at h
      cases h
      exact ⟨rejection, rfl, rfl⟩

/-- The nine values of a wire form are read back, and whatever is refused is malformed. -/
theorem decode_inverts_encode :
    (∀ f : Fields, (encode f).length < 2 ^ 64 →
      ∃ tx, decode (encode f) = .ok tx ∧ tx.hash = keccak256 (encode f) ∧
        tx.nonce = f.nonce ∧ tx.gasPrice = f.gasPrice ∧ tx.gas = f.gas ∧
        tx.recipient = f.recipient ∧ tx.value = f.value ∧ tx.data = f.data ∧ tx.kind = none ∧
        (tx.signature = none ↔ f.r = 0 ∧ f.s = 0) ∧
        (¬ (f.r = 0 ∧ f.s = 0) → tx.signature = some ⟨f.v, f.r, f.s⟩)) ∧
    ∀ raw fault, (decode raw).mapError Rejection.toFault = .error fault →
      ∃ detail, fault = .rlp detail := by
  constructor
  · intro f h
    refine ⟨_, decode_encode h, rfl, rfl, rfl, rfl, rfl, rfl, rfl, rfl, ?_, ?_⟩
    · simp [Fields.toTransaction, Signature.ofNumbers]
    · intro hsigned
      exact if_neg hsigned
  · intro raw fault h
    obtain ⟨rejection, -, hfault⟩ := toFault_of_decode h
    exact ⟨rejection.detail, hfault⟩

def sampleCreation : Fields where
  nonce := 127
  gasPrice := 128
  gas := BitVec.allOnes 256
  recipient := none
  value := 0
  data := List.replicate 300 0x60
  v := 0x8000000000000000
  r := 0
  s := 1

theorem sampleCreation_decoded :
    (encode sampleCreation).length < 2 ^ 64 ∧
      ∃ tx, decode (encode sampleCreation) = .ok tx ∧ tx.data = List.replicate 300 0x60 ∧
        tx.recipient = none ∧ tx.signature = some ⟨0x8000000000000000, 0, 1⟩ := by
  have hlength : (encode sampleCreation).length < 2 ^ 64 := by decide +kernel
  obtain ⟨tx, hdecode, -, -, -, -, hrecipient, -, hdata, -, -, hsignature⟩ :=
    decode_inverts_encode.1 sampleCreation hlength
  exact ⟨hlength, tx, hdecode, hdata, hrecipient, hsignature (by decide)⟩

end LiquidityTrigger.Legacy
