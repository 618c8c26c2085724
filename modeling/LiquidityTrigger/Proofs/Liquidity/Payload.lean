import LiquidityTrigger.Liquidity.Intent
import LiquidityTrigger.Proofs.Result
import LiquidityTrigger.Token

/-!
# What payloads and answers say

The conditions under which a payload names a function, is long enough for its layout and concerns the
configured pair, and under which an answer holds a balance. Each is an equivalence, so that a later
proof goes from a condition on bytes to what the program reads and back.
-/

namespace LiquidityTrigger

/-! ### Selectors -/

namespace LiquidityFunction

theorem selector_addLiquidity : addLiquidity.selector = [0xe8, 0xe3, 0x37, 0x00] := by
  decide +kernel

theorem selector_addLiquidityETH : addLiquidityETH.selector = [0xf3, 0x05, 0xd7, 0x19] := by
  decide +kernel

theorem selector_injective {f g : LiquidityFunction} (h : f.selector = g.selector) : f = g := by
  cases f <;> cases g <;>
    simp only [selector_addLiquidity, selector_addLiquidityETH] at h ⊢ <;> simp at h

@[simp] theorem length_selector (f : LiquidityFunction) : f.selector.length = 4 := by
  cases f
  · rw [selector_addLiquidity]
    rfl
  · rw [selector_addLiquidityETH]
    rfl

theorem detect_eq_some_iff {data : Bytes} {f : LiquidityFunction} :
    detect data = some f ↔ data.take 4 = f.selector := by
  rw [detect, selectorOf]
  by_cases hlength : 4 ≤ data.length
  · rw [if_pos hlength]
    simp only [Option.bind_eq_bind, Option.bind_some]
    constructor
    · intro hfind
      simpa using List.find?_some hfind
    · intro hcalled
      rw [hcalled]
      cases f with
      | addLiquidity => rw [List.find?_cons_of_pos (by simp)]
      | addLiquidityETH =>
          have hother : addLiquidityETH.selector ≠ addLiquidity.selector :=
            fun h => LiquidityFunction.noConfusion (selector_injective h)
          rw [List.find?_cons_of_neg (by simpa using hother), List.find?_cons_of_pos (by simp)]
  · rw [if_neg hlength]
    constructor
    · intro hnone
      cases hnone
    · intro hcalled
      have hshort := congrArg List.length hcalled
      rw [List.length_take, length_selector] at hshort
      omega

end LiquidityFunction

/-! ### Layouts -/

theorem Layout.check_bind {α : Type} {l : Layout} {data : Bytes} {f : Unit → Except Fault α} :
    (l.check data >>= f) =
      if l.size ≤ data.length then f () else .error (.calldata l.name l.size data.length) := by
  rw [Layout.check]
  by_cases h : l.size ≤ data.length
  · rw [if_neg (Nat.not_lt.mpr h), if_pos h]
    rfl
  · rw [if_pos (Nat.not_le.mp h), if_neg h]
    rfl

namespace Intent

def layout : LiquidityFunction → Layout
  | .addLiquidity => PairAddition.layout
  | .addLiquidityETH => NativeAddition.layout

/-- The addition in the slots of a payload, whatever its length. -/
def ofSlots (data : Bytes) : LiquidityFunction → Intent
  | .addLiquidity => pair (.ofSlots data)
  | .addLiquidityETH => native (.ofSlots data)

theorem decode_eq (function : LiquidityFunction) (data : Bytes) :
    decode function data =
      if (layout function).size ≤ data.length then .ok (ofSlots data function)
      else .error (.calldata (layout function).name (layout function).size data.length) := by
  cases function with
  | addLiquidity =>
      rw [decode, PairAddition.decode, Layout.check_bind, layout]
      by_cases hlength : PairAddition.layout.size ≤ data.length
      · rw [if_pos hlength, if_pos hlength]
        rfl
      · rw [if_neg hlength, if_neg hlength]
        rfl
  | addLiquidityETH =>
      rw [decode, NativeAddition.decode, Layout.check_bind, layout]
      by_cases hlength : NativeAddition.layout.size ≤ data.length
      · rw [if_pos hlength, if_pos hlength]
        rfl
      · rw [if_neg hlength, if_neg hlength]
        rfl

theorem decode_eq_ok_iff {function : LiquidityFunction} {data : Bytes} {i : Intent} :
    decode function data = .ok i ↔ (layout function).size ≤ data.length ∧ i = ofSlots data function := by
  rw [decode_eq]
  by_cases hlength : (layout function).size ≤ data.length
  · rw [if_pos hlength, Except.ok.injEq, eq_comm]
    simp only [hlength, true_and]
  · rw [if_neg hlength]
    simp only [reduceCtorEq, hlength, false_and]

theorem decode_eq_error_iff {function : LiquidityFunction} {data : Bytes} {fault : Fault} :
    decode function data = .error fault ↔
      data.length < (layout function).size ∧
        fault = .calldata (layout function).name (layout function).size data.length := by
  rw [decode_eq]
  by_cases hlength : (layout function).size ≤ data.length
  · rw [if_pos hlength]
    simp only [reduceCtorEq, Nat.not_lt.mpr hlength, false_and]
  · rw [if_neg hlength, Except.error.injEq, eq_comm]
    simp only [Nat.not_le.mp hlength, true_and]

end Intent

/-! ### Balances -/

namespace Token

theorem balanceIn_eq_ok_iff {out : Bytes} {balance : Word} :
    balanceIn out = .ok balance ↔ 32 ≤ out.length ∧ Word.ofBytes (out.take 32) = balance := by
  rw [balanceIn, wordAt?, Nat.zero_add, List.drop_zero]
  by_cases hlength : 32 ≤ out.length
  · have hfilled : out.isEmpty = false := by
      cases out with
      | nil => simp at hlength
      | cons first rest => rfl
    rw [if_pos hlength, hfilled]
    simp only [Bool.false_eq_true, if_false, Except.ok.injEq, hlength, true_and, Word.ofBytes]
  · rw [if_neg hlength]
    simp only [hlength, false_and, iff_false]
    split <;> simp only [reduceCtorEq, not_false_eq_true]

theorem balanceOfAnswer_eq_ok_iff {answer : Except Fault Bytes} {balance : Word} :
    balanceOfAnswer answer = .ok balance ↔
      ∃ out, answer = .ok out ∧ 32 ≤ out.length ∧ Word.ofBytes (out.take 32) = balance := by
  cases answer with
  | error fault => simp [balanceOfAnswer, bind, Except.bind]
  | ok out =>
      have hbind : balanceOfAnswer (.ok out) = (balanceIn out).mapError BalanceFault.toFault := rfl
      rw [hbind]
      simp only [Except.ok.injEq, exists_eq_left', ← balanceIn_eq_ok_iff]
      rw [mapError_eq_ok_iff]

/-- A timeout is not made from an answer but handed on. -/
theorem balanceOfAnswer_eq_timeout_iff {answer : Except Fault Bytes} {detail : String} :
    balanceOfAnswer answer = .error (.timeout detail) ↔ answer = .error (.timeout detail) := by
  cases answer with
  | error fault => simp [balanceOfAnswer, bind, Except.bind]
  | ok out =>
      have hbind : balanceOfAnswer (.ok out) = (balanceIn out).mapError BalanceFault.toFault := rfl
      rw [hbind]
      constructor
      · intro h
        obtain ⟨fault, hfault⟩ := exists_of_mapError_eq_error h
        cases hfault
      · intro h
        cases h

/-! ### Calls -/

theorem balanceOfSelector_eq : balanceOfSelector = [0x70, 0xa0, 0x82, 0x31] := by decide +kernel

theorem symbolSelector_eq : symbolSelector = [0x95, 0xd8, 0x9b, 0x41] := by decide +kernel

section

variable (token account : Address)

theorem data_balanceOfCall :
    (balanceOfCall token account).data = balanceOfSelector ++ account.toWord.toBytes := by
  rw [balanceOfCall, Calldata.encode, List.flatMap_singleton]

theorem length_balanceOfCall : (balanceOfCall token account).data.length = 36 := by
  rw [data_balanceOfCall, balanceOfSelector_eq, List.length_append, Word.length_toBytes]
  rfl

theorem symbolCall_ne_balanceOfCall (other : Address) :
    symbolCall other ≠ balanceOfCall token account := by
  intro h
  have hlength := length_balanceOfCall token account
  rw [← h, symbolCall, symbolSelector_eq] at hlength
  cases hlength

end

end Token

end LiquidityTrigger
