import LiquidityTrigger.Proofs.Context
import LiquidityTrigger.Proofs.Evaluation.Course
import LiquidityTrigger.Proofs.Liquidity.Payload

/-!
# When a purchase is made

A purchase cannot be taken back, so the condition under which it is made is stated here in full and
apart from the program: on the bytes of the payload, the signer, the bytes of what the target's contract
answers about the signer's balance, and their delay. `purchases_decide` says that an evaluation through
any entry purchases exactly once when the condition holds, and not at all when it does not.
-/

namespace LiquidityTrigger

/-- Which function an entry takes a payload for: the one that the selector names, or the entry's own. -/
def Entry.Takes (entry : Entry) (data : Bytes) (function : LiquidityFunction) : Prop :=
  match entry with
  | .process => data.take 4 = function.selector
  | .add => function = .addLiquidity
  | .addEth => function = .addLiquidityETH

/-- A payload that adds two tokens names the configured pair, promises no more of the target than the
balance, and promises more than the least liquidity of the other token. -/
def PairAddition.Warrants (a : PairAddition) (config : Config) (balance : Word) : Prop :=
  (a.tokenA = config.target ∧ a.tokenB = config.paired ∧
      a.amountAMin ≤ balance ∧ config.minLiquidity < a.amountBMin) ∨
    (¬ (a.tokenA = config.target ∧ a.tokenB = config.paired) ∧
      a.tokenA = config.paired ∧ a.tokenB = config.target ∧
      a.amountBMin ≤ balance ∧ config.minLiquidity < a.amountAMin)

/-- A payload that adds the chain's own currency names the target, promises no more of it than the
balance, and both promises and attaches more than the least liquidity. -/
def NativeAddition.Warrants (a : NativeAddition) (config : Config) (attached balance : Word) : Prop :=
  a.token = config.target ∧ a.amountTokenMin ≤ balance ∧
    config.minLiquidity < attached ∧ config.minLiquidity < a.amountEthMin

/-- What a transaction has to promise as a call of a function, given its sender's balance. -/
def Transaction.Warrants (tx : Transaction) (config : Config) (balance : Word) :
    LiquidityFunction → Prop
  | .addLiquidity => 260 ≤ tx.data.length ∧ (PairAddition.ofSlots tx.data).Warrants config balance
  | .addLiquidityETH =>
      196 ≤ tx.data.length ∧ (NativeAddition.ofSlots tx.data).Warrants config tx.value balance

section

variable (config : Config) (tx : Transaction) (provider : Provider) (executor : Reply Unit)
  (ctx : Context) (start : Nat)

/-- The answer of the target's contract about a sender's balance comes in time and starts with it. -/
def BalanceIs (sender : Address) (balance : Word) : Prop :=
  let reply := provider.answer (Token.balanceOfCall config.target sender)
  ctx.InTime reply.delay start ∧
    ∃ out, reply.result = .ok out ∧ 32 ≤ out.length ∧ Word.ofBytes (out.take 32) = balance

/-- All that a purchase depends on, for a payload that is taken for a call of a function. -/
def PurchaseWarranted (function : LiquidityFunction) : Prop :=
  ∃ sender balance, tx.sender config.chainId = .ok sender ∧
    BalanceIs config provider ctx start sender balance ∧ tx.Warrants config balance function

end

/-! ### Reads and legs -/

section

variable {config : Config} {function : LiquidityFunction} {tx : Transaction} {provider : Provider}
  {executor : Reply Unit} {ctx : Context} {start : Nat}

theorem balanceRead_eq_ok_iff {sender : Address} {balance : Word} :
    (balanceRead config provider ctx start sender).1 = .ok balance ↔
      BalanceIs config provider ctx start sender balance := by
  rw [balanceRead, BalanceIs, readOf, Token.balanceOfAnswer_eq_ok_iff]
  simp only [Context.wait_eq_ok_iff]
  constructor
  · intro h
    obtain ⟨out, ⟨hresult, htime⟩, hlength, hbalance⟩ := h
    exact ⟨htime, out, hresult, hlength, hbalance⟩
  · intro h
    obtain ⟨htime, out, hresult, hlength, hbalance⟩ := h
    exact ⟨out, ⟨hresult, htime⟩, hlength, hbalance⟩

private theorem pair_warrants_iff {a : PairAddition} {balance : Word} :
    a.Warrants config balance ↔
      ∃ legs, a.legs config = some legs ∧ legs.minTarget ≤ balance ∧
        legs.paired.Suffices config tx := by
  rw [PairAddition.Warrants, PairAddition.legs]
  by_cases hforward : a.tokenA = config.target ∧ a.tokenB = config.paired
  · rw [if_pos hforward]
    simp only [hforward, true_and, not_true_eq_false, false_and, or_false, Option.some.injEq,
      exists_eq_left', PairedLeg.Suffices]
  · rw [if_neg hforward]
    by_cases hbackward : a.tokenB = config.target ∧ a.tokenA = config.paired
    · rw [if_pos hbackward]
      have hpair : ¬ (config.paired = config.target ∧ config.target = config.paired) := by
        rwa [hbackward.1, hbackward.2] at hforward
      simp only [hbackward.1, hbackward.2, hpair, not_false_eq_true, true_and, Option.some.injEq,
        exists_eq_left', PairedLeg.Suffices, or_iff_right_iff_imp]
      intro h
      obtain ⟨hpaired, htarget, _⟩ := h
      exact absurd ⟨hpaired, htarget⟩ hpair
    · rw [if_neg hbackward]
      constructor
      · intro h
        rcases h with ⟨ha, hb, _⟩ | ⟨_, ha, hb, _⟩
        · exact absurd ⟨ha, hb⟩ hforward
        · exact absurd ⟨hb, ha⟩ hbackward
      · intro h
        obtain ⟨legs, hlegs, _⟩ := h
        cases hlegs

private theorem native_warrants_iff {a : NativeAddition} {balance : Word} :
    a.Warrants config tx.value balance ↔
      ∃ legs, a.legs config = some legs ∧ legs.minTarget ≤ balance ∧
        legs.paired.Suffices config tx := by
  rw [NativeAddition.Warrants, NativeAddition.legs]
  by_cases htarget : a.token = config.target
  · rw [if_pos htarget]
    simp only [htarget, true_and, Option.some.injEq, exists_eq_left', PairedLeg.Suffices]
  · rw [if_neg htarget]
    simp only [htarget, false_and, reduceCtorEq, exists_false]

theorem warrants_iff {balance : Word} :
    tx.Warrants config balance function ↔
      ∃ intent, Intent.decode function tx.data = .ok intent ∧
        ∃ legs, intent.legs config = some legs ∧ legs.minTarget ≤ balance ∧
          legs.paired.Suffices config tx := by
  simp only [Intent.decode_eq_ok_iff, and_assoc, exists_and_left, exists_eq_left]
  cases function with
  | addLiquidity => exact and_congr_right fun _ => pair_warrants_iff
  | addLiquidityETH => exact and_congr_right fun _ => native_warrants_iff

theorem decode_of_warranted (h : PurchaseWarranted config tx provider ctx start function) :
    ∃ intent, Intent.decode function tx.data = .ok intent ∧ intent.legs config ≠ none := by
  obtain ⟨_, _, _, _, hwarrants⟩ := h
  obtain ⟨intent, hdecode, legs, hlegs, _⟩ := warrants_iff.mp hwarrants
  exact ⟨intent, hdecode, by rw [hlegs]; exact Option.some_ne_none legs⟩

theorem warranted_iff_of_reach {sender : Address} {legs : Legs}
    (hreach : ReachesBalance config function tx sender legs) :
    PurchaseWarranted config tx provider ctx start function ↔
      ∃ balance, (balanceRead config provider ctx start sender).1 = .ok balance ∧
        legs.minTarget ≤ balance ∧ legs.paired.Suffices config tx := by
  obtain ⟨⟨intent, hdecode, hlegs⟩, hsender⟩ := hreach
  simp only [PurchaseWarranted, warrants_iff, balanceRead_eq_ok_iff, hsender, hdecode, hlegs,
    Except.ok.injEq, Option.some.injEq, exists_and_left, exists_eq_left']

/-! ### The condition decides -/

/-- A course purchases once when a purchase is warranted, and otherwise never. -/
theorem purchasesIn_of_course {record : Record Outcome}
    (h : Course config function tx provider executor ctx start record) :
    (purchasesIn record.trace = [⟨tx.gasPrice, ctx.deadline⟩] ∧
        PurchaseWarranted config tx provider ctx start function) ∨
      (purchasesIn record.trace = [] ∧
        ¬ PurchaseWarranted config tx provider ctx start function) := by
  cases h with
  | undecodable hdecode =>
      refine .inr ⟨rfl, fun hwarranted => ?_⟩
      obtain ⟨intent, hok, _⟩ := decode_of_warranted hwarranted
      rw [hdecode] at hok
      cases hok
  | senderless hdecode hsender =>
      refine .inr ⟨rfl, fun ⟨_, _, hok, _⟩ => ?_⟩
      rw [hsender] at hok
      cases hok
  | irrelevant hdecode hsender hlegs =>
      refine .inr ⟨rfl, fun hwarranted => ?_⟩
      obtain ⟨intent, hok, hsome⟩ := decode_of_warranted hwarranted
      rw [hdecode] at hok
      cases hok
      exact hsome hlegs
  | balanceless hreach hread =>
      refine .inr ⟨rfl, ?_⟩
      rw [warranted_iff_of_reach hreach, hread]
      intro hwarranted
      obtain ⟨_, hok, _⟩ := hwarranted
      cases hok
  | uncovered hreach hread hshort =>
      refine .inr ⟨rfl, ?_⟩
      rw [warranted_iff_of_reach hreach, hread]
      intro hwarranted
      obtain ⟨_, ⟨rfl⟩, hcovered, _⟩ := hwarranted
      exact BitVec.not_le.mpr hshort hcovered
  | scarcePair hreach hread hcovered hpaired hscarce hsymbol =>
      refine .inr ⟨rfl, ?_⟩
      rw [warranted_iff_of_reach hreach, hpaired]
      intro hwarranted
      obtain ⟨_, _, _, hsuffices⟩ := hwarranted
      exact BitVec.not_le.mpr hsuffices hscarce
  | scarceNative hreach hread hcovered hpaired hscarce =>
      refine .inr ⟨rfl, ?_⟩
      rw [warranted_iff_of_reach hreach, hpaired]
      intro hwarranted
      obtain ⟨_, _, _, hsuffices⟩ := hwarranted
      exact BitVec.not_le.mpr hsuffices.1 hscarce
  | underdeclared hreach hread hcovered hpaired hattached hdeclared =>
      refine .inr ⟨rfl, ?_⟩
      rw [warranted_iff_of_reach hreach, hpaired]
      intro hwarranted
      obtain ⟨_, _, _, hsuffices⟩ := hwarranted
      exact BitVec.not_le.mpr hsuffices.2 hdeclared
  | bought hreach hread hcovered hsuffices hexecutor =>
      refine .inl ⟨rfl, (warranted_iff_of_reach hreach).mpr ⟨_, ?_, hcovered, hsuffices⟩⟩
      rw [hread]
  | refused hreach hread hcovered hsuffices hexecutor =>
      refine .inl ⟨rfl, (warranted_iff_of_reach hreach).mpr ⟨_, ?_, hcovered, hsuffices⟩⟩
      rw [hread]

end

/-- Through any entry and against any answers, an evaluation purchases at most once, and exactly when a purchase
is warranted. It does so at the transaction's gas price, under its own deadline. -/
theorem purchases_decide (entry : Entry) (config : Config) (tx : Transaction) (provider : Provider)
    (executor : Reply Unit) (ctx : Context) (start : Nat) :
    let bought := purchasesIn ((entry.decide config tx).play provider executor ctx start).trace
    let warranted := ∃ function, entry.Takes tx.data function ∧
      PurchaseWarranted config tx provider ctx start function
    (bought = [⟨tx.gasPrice, ctx.deadline⟩] ∧ warranted) ∨ (bought = [] ∧ ¬ warranted) := by
  have hevaluate (function : LiquidityFunction) := purchasesIn_of_course
    (course_evaluate config function tx provider executor ctx start)
  cases entry with
  | process =>
      simp only [Entry.decide, process, Entry.Takes, ← LiquidityFunction.detect_eq_some_iff]
      cases hdetect : LiquidityFunction.detect tx.data with
      | none =>
          refine .inr ⟨rfl, ?_⟩
          intro hwarranted
          obtain ⟨_, hsome, _⟩ := hwarranted
          cases hsome
      | some function => simpa only [Option.some.injEq, exists_eq_left'] using hevaluate function
  | add => simpa only [Entry.decide, Entry.Takes, exists_eq_left] using hevaluate .addLiquidity
  | addEth => simpa only [Entry.decide, Entry.Takes, exists_eq_left] using hevaluate .addLiquidityETH

end LiquidityTrigger
