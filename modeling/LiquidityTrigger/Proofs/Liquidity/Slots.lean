import LiquidityTrigger.Proofs.Bytes
import LiquidityTrigger.Proofs.Liquidity.Payload

/-!
# Payloads and the arguments in them

A payload that was written from an addition is read back as that addition, whatever its selector is and
whatever stands behind its slots. The other way round, a payload that is long enough can be written back
from what was read, but for the 12 bytes in front of each address, which reading ignores.

`Calldata.slot` is total. `Intent.decodeChecked` reads the same slots through parts of byte strings that
notice when they reach out of them, and `decodeChecked_eq` says that none ever does.
-/

namespace LiquidityTrigger

/-! ### Words of 32 bytes -/

theorem Word.toBytes_ofBytes {bytes : Bytes} (h : bytes.length = 32) :
    (Word.ofBytes bytes).toBytes = bytes := by
  have hlt : Bytes.toNat bytes < 2 ^ 256 := by
    have hbound := Bytes.toNat_lt bytes
    rwa [h] at hbound
  rw [toBytes, ofBytes, BitVec.toNat_ofNat, Nat.mod_eq_of_lt hlt, ← h, Bytes.ofNat_toNat]

theorem Address.ofWord_eq (w : Word) : Address.ofWord w = Address.ofBytes (w.toBytes.drop 12) := by
  have hword : Bytes.toNat w.toBytes = w.toNat := by
    rw [Word.toBytes, Bytes.toNat_ofNat]
    exact Nat.mod_eq_of_lt w.isLt
  rw [Address.ofBytes_drop (Word.length_toBytes w), Address.ofBytes, hword, Address.ofWord,
    BitVec.ofNat_toNat]

theorem Address.toBytes_toWord_ofWord (w : Word) :
    (Address.ofWord w).toWord.toBytes = List.replicate 12 0 ++ w.toBytes.drop 12 := by
  rw [Address.toBytes_toWord, Address.ofWord_eq, Address.toBytes_ofBytes]
  simp

theorem getElem?_flatMap_of_length {α β : Type} {f : α → List β} {width : Nat} {xs : List α}
    (hwidth : 0 < width) (hf : ∀ x ∈ xs, (f x).length = width) (k : Nat) :
    (xs.flatMap f)[k]? = xs[k / width]?.bind fun x => (f x)[k % width]? := by
  induction xs generalizing k with
  | nil => rfl
  | cons x xs ih =>
      have hx : (f x).length = width := hf x List.mem_cons_self
      rw [List.flatMap_cons]
      by_cases hk : k < width
      · rw [List.getElem?_append_left (by omega), Nat.div_eq_of_lt hk, Nat.mod_eq_of_lt hk]
        rfl
      · have hge : width ≤ k := Nat.not_lt.mp hk
        rw [List.getElem?_append_right (by omega), hx,
          ih (fun y hy => hf y (List.mem_cons_of_mem _ hy)), Nat.div_eq_sub_div hwidth hge,
          List.getElem?_cons_succ, Nat.mod_eq_sub_mod hge]

/-! ### One slot -/

namespace Calldata

theorem length_slot {data : Bytes} {index : Nat} (h : 4 + 32 * (index + 1) ≤ data.length) :
    (slot data index).length = 32 := by
  rw [slot, List.length_take, List.length_drop]
  omega

theorem getElem?_slot (data : Bytes) (index : Nat) {k : Nat} (h : k < 32) :
    (slot data index)[k]? = data[4 + 32 * index + k]? := by
  rw [slot, List.getElem?_take_of_lt h, List.getElem?_drop]

theorem toBytes_word {data : Bytes} {index : Nat} (h : 4 + 32 * (index + 1) ≤ data.length) :
    (word data index).toBytes = slot data index :=
  Word.toBytes_ofBytes (length_slot h)

theorem toBytes_address {data : Bytes} {index : Nat} (h : 4 + 32 * (index + 1) ≤ data.length) :
    (address data index).toWord.toBytes = List.replicate 12 0 ++ (slot data index).drop 12 := by
  rw [address, Address.toBytes_toWord_ofWord, toBytes_word h]

theorem length_flatMap_toBytes (arguments : List Word) :
    (arguments.flatMap Word.toBytes).length = 32 * arguments.length := by
  induction arguments with
  | nil => rfl
  | cons w rest ih =>
      rw [List.flatMap_cons, List.length_append, ih, Word.length_toBytes, List.length_cons]
      omega

section

variable {selector : Bytes} {arguments : List Word} {index : Nat} {w : Word}

/-- A slot of a payload holds the argument at its index, whatever stands behind the arguments. -/
theorem slot_encode (hselector : selector.length = 4) (h : arguments[index]? = some w) (tail : Bytes) :
    slot (encode selector arguments ++ tail) index = w.toBytes := by
  obtain ⟨hlt, hget⟩ := List.getElem?_eq_some_iff.mp h
  have hsplit : arguments = arguments.take index ++ (w :: arguments.drop (index + 1)) := by
    rw [← hget, List.getElem_cons_drop, List.take_append_drop]
  have hfront : (selector ++ (arguments.take index).flatMap Word.toBytes).length = 4 + 32 * index := by
    rw [List.length_append, hselector, length_flatMap_toBytes,
      List.length_take_of_le (Nat.le_of_lt hlt)]
  rw [slot, encode, hsplit, List.flatMap_append, List.flatMap_cons, ← hfront]
  simp [List.append_assoc]

theorem word_encode (hselector : selector.length = 4) (h : arguments[index]? = some w) (tail : Bytes) :
    word (encode selector arguments ++ tail) index = w := by
  rw [word, slot_encode hselector h, Word.ofBytes_toBytes]

theorem address_encode {a : Address} (hselector : selector.length = 4)
    (h : arguments[index]? = some a.toWord) (tail : Bytes) :
    address (encode selector arguments ++ tail) index = a := by
  rw [address, word_encode hselector h, Address.ofWord_toWord]

end

end Calldata

/-! ### All slots of an addition -/

namespace Intent

open Calldata

def function : Intent → LiquidityFunction
  | pair _ => .addLiquidity
  | native _ => .addLiquidityETH

def arguments : Intent → List Word
  | pair addition => addition.arguments
  | native addition => addition.arguments

def addressSlots : LiquidityFunction → List Nat
  | .addLiquidity => [0, 1, 6]
  | .addLiquidityETH => [0, 4]

@[simp] theorem function_ofSlots (data : Bytes) (f : LiquidityFunction) :
    (ofSlots data f).function = f := by
  cases f <;> rfl

theorem length_arguments (i : Intent) : i.arguments.length = (layout i.function).slots := by
  cases i <;> rfl

theorem ofSlots_encode (i : Intent) {selector : Bytes} (hselector : selector.length = 4) (tail : Bytes) :
    ofSlots (encode selector i.arguments ++ tail) i.function = i := by
  have hword (index : Nat) {w : Word} (h : i.arguments[index]? = some w) :=
    word_encode hselector h tail
  have haddress (index : Nat) {a : Address} (h : i.arguments[index]? = some a.toWord) :=
    address_encode hselector h tail
  cases i with
  | pair a =>
      show pair (PairAddition.ofSlots _) = pair a
      rw [PairAddition.ofSlots, haddress 0 rfl, haddress 1 rfl,
        hword 2 rfl, hword 3 rfl, hword 4 rfl,
        hword 5 rfl, haddress 6 rfl, hword 7 rfl]
  | native a =>
      show native (NativeAddition.ofSlots _) = native a
      rw [NativeAddition.ofSlots, haddress 0 rfl, hword 1 rfl,
        hword 2 rfl, hword 3 rfl, haddress 4 rfl,
        hword 5 rfl]

/-- A slot as it is written back from what was read: without the bytes in front of an address. -/
def rewritten (f : LiquidityFunction) (data : Bytes) (index : Nat) : Bytes :=
  if index ∈ addressSlots f then List.replicate 12 0 ++ (slot data index).drop 12 else slot data index

theorem length_rewritten (f : LiquidityFunction) {data : Bytes} {index : Nat}
    (h : 4 + 32 * (index + 1) ≤ data.length) : (rewritten f data index).length = 32 := by
  rw [rewritten]
  split <;> simp [length_slot h]

theorem getElem?_rewritten (f : LiquidityFunction) (data : Bytes) (index : Nat) {k : Nat} (h : k < 32) :
    (rewritten f data index)[k]? =
      if index ∈ addressSlots f ∧ k < 12 then some 0 else data[4 + 32 * index + k]? := by
  rw [rewritten, ← getElem?_slot data index h]
  by_cases haddress : index ∈ addressSlots f
  · by_cases hfront : k < 12
    · simp [haddress, hfront, List.getElem?_append_left, -List.reduceReplicate]
    · have hbehind : 12 + (k - 12) = k := by omega
      rw [if_pos haddress, if_neg (fun h => hfront h.2), List.getElem?_append_right (by simp; omega),
        List.length_replicate, List.getElem?_drop, hbehind]
  · simp [haddress]

section

variable {f : LiquidityFunction} {data : Bytes} (h : (layout f).size ≤ data.length)

include h

private theorem size_le_of_lt {index : Nat} (hlt : index < (layout f).slots) :
    4 + 32 * (index + 1) ≤ data.length := by
  have hsize : 4 + 32 * (layout f).slots ≤ data.length := h
  omega

private theorem toBytes_word_eq_rewritten (index : Nat) (hlt : index < (layout f).slots)
    (hamount : index ∉ addressSlots f) : (word data index).toBytes = rewritten f data index := by
  rw [rewritten, if_neg hamount, toBytes_word (size_le_of_lt h hlt)]

private theorem toBytes_address_eq_rewritten (index : Nat) (hlt : index < (layout f).slots)
    (haddress : index ∈ addressSlots f) :
    (address data index).toWord.toBytes = rewritten f data index := by
  rw [rewritten, if_pos haddress, toBytes_address (size_le_of_lt h hlt)]

theorem flatMap_arguments_ofSlots :
    (ofSlots data f).arguments.flatMap Word.toBytes =
      (List.range (layout f).slots).flatMap (rewritten f data) := by
  have hword := toBytes_word_eq_rewritten h
  have haddress := toBytes_address_eq_rewritten h
  cases f with
  | addLiquidity =>
      simp only [ofSlots, arguments, PairAddition.arguments, PairAddition.ofSlots, List.flatMap_cons,
        List.flatMap_nil, haddress 0 (by decide) (by decide), haddress 1 (by decide) (by decide),
        hword 2 (by decide) (by decide), hword 3 (by decide) (by decide),
        hword 4 (by decide) (by decide), hword 5 (by decide) (by decide),
        haddress 6 (by decide) (by decide), hword 7 (by decide) (by decide)]
      rfl
  | addLiquidityETH =>
      simp only [ofSlots, arguments, NativeAddition.arguments, NativeAddition.ofSlots,
        List.flatMap_cons, List.flatMap_nil, haddress 0 (by decide) (by decide),
        hword 1 (by decide) (by decide), hword 2 (by decide) (by decide),
        hword 3 (by decide) (by decide), haddress 4 (by decide) (by decide),
        hword 5 (by decide) (by decide)]
      rfl

/-- Byte by byte, what is written back is what was read, but for zeros in front of the addresses. -/
theorem getElem?_flatMap_arguments_ofSlots {k : Nat} (hk : k < 32 * (layout f).slots) :
    ((ofSlots data f).arguments.flatMap Word.toBytes)[k]? =
      if k / 32 ∈ addressSlots f ∧ k % 32 < 12 then some 0 else data[4 + k]? := by
  have hlength : ∀ index ∈ List.range (layout f).slots, (rewritten f data index).length = 32 :=
    fun index hindex => length_rewritten f (size_le_of_lt h (List.mem_range.mp hindex))
  have hindex : k / 32 < (layout f).slots := by omega
  have hposition : 4 + 32 * (k / 32) + k % 32 = 4 + k := by omega
  rw [flatMap_arguments_ofSlots h, getElem?_flatMap_of_length (by decide) hlength,
    List.getElem?_range hindex, Option.bind_some,
    getElem?_rewritten f data (k / 32) (Nat.mod_lt k (by decide)), hposition]

end

end Intent

/-! ### Reads that notice when they reach too far -/

/-- The bytes from one position up to another; none when they are not all there. -/
def slice? (bytes : Bytes) (start stop : Nat) : Option Bytes :=
  if start ≤ stop ∧ stop ≤ bytes.length then some ((bytes.take stop).drop start) else none

theorem slice?_eq {bytes : Bytes} {start length : Nat} (h : start + length ≤ bytes.length) :
    slice? bytes start (start + length) = some ((bytes.drop start).take length) := by
  rw [slice?, if_pos ⟨Nat.le_add_right start length, h⟩, List.drop_take, Nat.add_sub_cancel_left]

namespace Calldata

/-- The word in a slot of the bytes behind the selector; none when a byte is missing or too much. -/
def wordChecked (arguments : Bytes) (index : Nat) : Option Word := do
  let bytes ← slice? arguments (32 * index) (32 * (index + 1))
  if bytes.length ≤ 32 then some (Word.ofBytes bytes) else none

def addressChecked (arguments : Bytes) (index : Nat) : Option Address := do
  let bytes ← slice? arguments (32 * index) (32 * (index + 1))
  let last ← slice? bytes 12 bytes.length
  if last.length = 20 then some (Address.ofBytes last) else none

end Calldata

open Calldata in
def PairAddition.ofSlotsChecked (arguments : Bytes) : Option PairAddition := do
  let tokenA ← addressChecked arguments 0
  let tokenB ← addressChecked arguments 1
  let amountADesired ← wordChecked arguments 2
  let amountBDesired ← wordChecked arguments 3
  let amountAMin ← wordChecked arguments 4
  let amountBMin ← wordChecked arguments 5
  let recipient ← addressChecked arguments 6
  let deadline ← wordChecked arguments 7
  return ⟨tokenA, tokenB, amountADesired, amountBDesired, amountAMin, amountBMin, deadline, recipient⟩

open Calldata in
def NativeAddition.ofSlotsChecked (arguments : Bytes) : Option NativeAddition := do
  let token ← addressChecked arguments 0
  let amountTokenDesired ← wordChecked arguments 1
  let amountTokenMin ← wordChecked arguments 2
  let amountEthMin ← wordChecked arguments 3
  let recipient ← addressChecked arguments 4
  let deadline ← wordChecked arguments 5
  return ⟨token, amountTokenDesired, amountTokenMin, amountEthMin, deadline, recipient⟩

namespace Intent

open Calldata

/-- `Intent.decode` with every read checked; none if one of them reaches out of the bytes. -/
def decodeChecked (f : LiquidityFunction) (data : Bytes) : Option (Except Fault Intent) :=
  if data.length < (layout f).size then
    return .error (.calldata (layout f).name (layout f).size data.length)
  else do
    let arguments ← slice? data 4 (layout f).size
    match f with
    | .addLiquidity => return .ok (pair (← PairAddition.ofSlotsChecked arguments))
    | .addLiquidityETH => return .ok (native (← NativeAddition.ofSlotsChecked arguments))

section

variable {data : Bytes} {slots index : Nat} (h : 4 + 32 * slots ≤ data.length) (hlt : index < slots)

include h hlt

private theorem slice?_slot :
    slice? ((data.take (4 + 32 * slots)).drop 4) (32 * index) (32 * (index + 1)) =
      some (slot data index) := by
  have hwhole : (((data.take (4 + 32 * slots)).drop 4).take (32 * (index + 1))).drop (32 * index) =
      slot data index := by
    simp only [slot, List.drop_take, List.take_take, List.drop_drop]
    congr 1
    omega
  rw [slice?, hwhole, if_pos]
  simp only [List.length_drop, List.length_take]
  omega

private theorem wordChecked_eq :
    wordChecked ((data.take (4 + 32 * slots)).drop 4) index = some (word data index) := by
  have hlength : (slot data index).length = 32 := length_slot (by omega)
  rw [wordChecked, slice?_slot h hlt]
  exact if_pos (Nat.le_of_eq hlength)

private theorem addressChecked_eq :
    addressChecked ((data.take (4 + 32 * slots)).drop 4) index = some (address data index) := by
  have hlength : (slot data index).length = 32 := length_slot (by omega)
  have hlast : slice? (slot data index) 12 (slot data index).length =
      some ((slot data index).drop 12) := by
    rw [slice?, List.take_length, if_pos (by omega)]
  have haddress : address data index = Address.ofBytes ((slot data index).drop 12) := by
    rw [address, Address.ofWord_eq, toBytes_word (by omega)]
  rw [addressChecked, slice?_slot h hlt, haddress, Option.bind_eq_bind, Option.bind_some, hlast,
    Option.bind_some, if_pos]
  simp [hlength]

end

private theorem pair_ofSlotsChecked_eq {data : Bytes} (h : 4 + 32 * 8 ≤ data.length) :
    PairAddition.ofSlotsChecked ((data.take (4 + 32 * 8)).drop 4) =
      some (PairAddition.ofSlots data) := by
  have hword (index : Nat) (hlt : index < 8) := wordChecked_eq h hlt
  have haddress (index : Nat) (hlt : index < 8) := addressChecked_eq h hlt
  simp only [PairAddition.ofSlotsChecked, haddress 0 (by decide), haddress 1 (by decide),
    hword 2 (by decide), hword 3 (by decide), hword 4 (by decide), hword 5 (by decide),
    haddress 6 (by decide), hword 7 (by decide), Option.bind_eq_bind, Option.bind_some]
  rfl

private theorem native_ofSlotsChecked_eq {data : Bytes} (h : 4 + 32 * 6 ≤ data.length) :
    NativeAddition.ofSlotsChecked ((data.take (4 + 32 * 6)).drop 4) =
      some (NativeAddition.ofSlots data) := by
  have hword (index : Nat) (hlt : index < 6) := wordChecked_eq h hlt
  have haddress (index : Nat) (hlt : index < 6) := addressChecked_eq h hlt
  simp only [NativeAddition.ofSlotsChecked, haddress 0 (by decide), hword 1 (by decide),
    hword 2 (by decide), hword 3 (by decide), haddress 4 (by decide), hword 5 (by decide),
    Option.bind_eq_bind, Option.bind_some]
  rfl

/-- Every read finds the bytes that it is for. -/
theorem decodeChecked_eq (f : LiquidityFunction) (data : Bytes) :
    decodeChecked f data = some (decode f data) := by
  rw [decodeChecked, decode_eq]
  by_cases hlength : (layout f).size ≤ data.length
  · have harguments : slice? data 4 (layout f).size = some ((data.take (layout f).size).drop 4) := by
      rw [slice?, if_pos ⟨Nat.le_add_right 4 _, hlength⟩]
    rw [if_neg (Nat.not_lt.mpr hlength), if_pos hlength, harguments, Option.bind_eq_bind,
      Option.bind_some]
    cases f with
    | addLiquidity =>
        show (PairAddition.ofSlotsChecked ((data.take (4 + 32 * 8)).drop 4)).bind
          (fun a => some (Except.ok (pair a))) = _
        rw [pair_ofSlotsChecked_eq hlength]
        rfl
    | addLiquidityETH =>
        show (NativeAddition.ofSlotsChecked ((data.take (4 + 32 * 6)).drop 4)).bind
          (fun a => some (Except.ok (native a))) = _
        rw [native_ofSlotsChecked_eq hlength]
        rfl
  · rw [if_pos (Nat.not_le.mp hlength), if_neg hlength]
    rfl

end Intent

/-! ### Both directions -/

/-- The arguments of an addition are read back, and what is read of a payload gives its slots again, but
for zeros in front of the addresses. -/
theorem additions_invert_arguments :
    (Intent.layout .addLiquidity = ⟨"addLiquidity", 8⟩ ∧
      Intent.layout .addLiquidityETH = ⟨"addLiquidityETH", 6⟩) ∧
    (∀ (intent : Intent) (selector tail : Bytes), selector.length = 4 →
      Intent.decode intent.function (Calldata.encode selector intent.arguments ++ tail) = .ok intent) ∧
    ∀ (f : LiquidityFunction) (data : Bytes),
      let layout := Intent.layout f
      (∀ fault, Intent.decode f data = .error fault ↔
        data.length < 4 + 32 * layout.slots ∧
          fault = .calldata layout.name (4 + 32 * layout.slots) data.length) ∧
      (4 + 32 * layout.slots ≤ data.length →
        ∃ intent, Intent.decode f data = .ok intent ∧ intent.function = f ∧
          (intent.arguments.flatMap Word.toBytes).length = 32 * layout.slots ∧
          ∀ k < 32 * layout.slots, (intent.arguments.flatMap Word.toBytes)[k]? =
            if k / 32 ∈ Intent.addressSlots f ∧ k % 32 < 12 then some 0 else data[4 + k]?) ∧
      Intent.decodeChecked f data = some (Intent.decode f data) := by
  refine ⟨⟨rfl, rfl⟩, ?_, ?_⟩
  · intro intent selector tail hselector
    rw [Intent.decode_eq_ok_iff, Intent.ofSlots_encode intent hselector tail]
    refine ⟨?_, rfl⟩
    rw [Calldata.encode, List.length_append, List.length_append, hselector,
      Calldata.length_flatMap_toBytes, Intent.length_arguments, Layout.size]
    omega
  · intro f data
    refine ⟨fun fault => Intent.decode_eq_error_iff, ?_, Intent.decodeChecked_eq f data⟩
    intro hlength
    refine ⟨_, Intent.decode_eq_ok_iff.mpr ⟨hlength, rfl⟩, Intent.function_ofSlots data f, ?_, ?_⟩
    · rw [Calldata.length_flatMap_toBytes, Intent.length_arguments, Intent.function_ofSlots]
    · intro k hk
      exact Intent.getElem?_flatMap_arguments_ofSlots hlength hk

def sampleNative : NativeAddition where
  token := ⟨0x7171717171717171717171717171717171717171⟩
  amountTokenDesired := 2000
  amountTokenMin := 1900
  amountEthMin := BitVec.allOnes 256
  deadline := 1700000000
  recipient := ⟨0xeeeeeeeeeeeeeeeeeeeeeeeeeeeeeeeeeeeeeeee⟩

def samplePayload : Bytes := List.replicate 260 0xff

theorem sampleNative_read :
    Intent.decode .addLiquidityETH
        (Calldata.encode [0xf3, 0x05, 0xd7, 0x19] sampleNative.arguments ++ [1, 2, 3]) =
      .ok (.native sampleNative) ∧
    4 + 32 * 8 ≤ samplePayload.length ∧
    ∃ intent, Intent.decode .addLiquidity samplePayload = .ok intent ∧
      (intent.arguments.flatMap Word.toBytes)[32 * 6 + 11]? = some 0 ∧
      (intent.arguments.flatMap Word.toBytes)[32 * 6 + 12]? = some 0xff := by
  have hreplicate : samplePayload.length = 260 := List.length_replicate
  have hlength : 4 + 32 * 8 ≤ samplePayload.length := by omega
  obtain ⟨intent, hdecode, -, -, hbytes⟩ :=
    (additions_invert_arguments.2.2 .addLiquidity samplePayload).2.1 hlength
  refine ⟨additions_invert_arguments.2.1 (.native sampleNative) [0xf3, 0x05, 0xd7, 0x19] [1, 2, 3] rfl,
    hlength, intent, hdecode, ?_, ?_⟩
  · exact hbytes (32 * 6 + 11) (by decide)
  · exact hbytes (32 * 6 + 12) (by decide)

end LiquidityTrigger
