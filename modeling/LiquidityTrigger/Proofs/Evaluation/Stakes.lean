import LiquidityTrigger.Proofs.Evaluation.Agreement
import LiquidityTrigger.Proofs.Events

/-!
# What decides

A decision depends on who signed a transaction, on its gas price, and on what the payload puts at stake:
the tokens, the least amounts and, of the chain's own currency, what is attached. Nothing else of the
transaction reaches a branch, a read or a purchase; the hash is only logged. So of two transactions that
agree in these, the procedure of the one is the procedure of the other that logs the one's hash.
-/

namespace LiquidityTrigger

/-! ### Transactions that are decided alike -/

/-- An event as it is logged about the transaction with the given hash. -/
def Event.about (hash : Digest) : Event → Event
  | .configured chainId target => .configured chainId target
  | .decoded _ function sender => .decoded hash function sender
  | .insufficientBalance _ declared balance => .insufficientBalance hash declared balance
  | .diagnosed _ diagnostic => .diagnosed hash diagnostic
  | .declaredTooLow _ declared => .declaredTooLow hash declared
  | .dispatching _ gasPrice => .dispatching hash gasPrice
  | .purchaseFailed _ fault => .purchaseFailed hash fault

/-- Two evaluations leave the same record, but for the hash that is logged. -/
structure Record.SameButHash (hash : Digest) (a b : Record Outcome) : Prop where
  result : b.result = a.result
  finish : b.finish = a.finish
  calls : callsIn b.trace = callsIn a.trace
  purchases : purchasesIn b.trace = purchasesIn a.trace
  events : eventsIn b.trace = (eventsIn a.trace).map (Event.about hash)

/-- Through an entry, the second transaction is decided on as the first one is, whoever answers. -/
structure DecidedAlike (config : Config) (entry : Entry) (tx tx' : Transaction) : Prop where
  procedures : entry.decide config tx' =
    (entry.decide config tx).mapEvents (Event.about tx'.hash)
  /-- Services that do not look at the hash in the log end in the same state. -/
  runs : ∀ {σ : Type} (services : Services σ) (s : σ),
    (∀ event, services.log (event.about tx'.hash) = services.log event) →
      (entry.decide config tx').run services s = (entry.decide config tx).run services s
  records : ∀ (provider : Provider) (executor : Reply Unit) (ctx : Context) (start : Nat),
    Record.SameButHash tx'.hash ((entry.decide config tx).play provider executor ctx start)
      ((entry.decide config tx').play provider executor ctx start)

section

variable {config : Config} {tx tx' : Transaction}

theorem DecidedAlike.of_procedures {entry : Entry}
    (h : entry.decide config tx' = (entry.decide config tx).mapEvents (Event.about tx'.hash)) :
    DecidedAlike config entry tx tx' where
  procedures := h
  runs services s hblind := by rw [h, Procedure.run_mapEvents_of_blind _ hblind]
  records provider executor ctx start := by
    rw [h, Procedure.play_mapEvents]
    exact ⟨rfl, rfl, callsIn_map_mapEvent _ _, purchasesIn_map_mapEvent _ _,
      eventsIn_map_mapEvent _ _⟩

/-! ### The parts of an evaluation -/

theorem Token.symbol_mapEvents (f : Event → Event) (token : Address) :
    (symbol token).mapEvents f = symbol token := by
  rw [symbol, Procedure.mapEvents_bind, Procedure.mapEvents_tryRead]
  rfl

theorem Token.balanceOf_mapEvents (f : Event → Event) (token account : Address) :
    (balanceOf token account).mapEvents f = balanceOf token account := by
  rw [balanceOf, Procedure.mapEvents_bind, Procedure.mapEvents_tryRead]
  simp only [Procedure.mapEvents_ofExcept]

section

variable (hprice : tx.gasPrice = tx'.gasPrice)

include hprice

theorem dispatch_about : dispatch tx' = (dispatch tx).mapEvents (Event.about tx'.hash) := by
  rw [dispatch, dispatch, hprice, Procedure.mapEvents_bind, Procedure.mapEvents_emit, Event.about]
  refine congrArg (Procedure.emit _ >>= ·) (funext fun _ => ?_)
  rw [Procedure.mapEvents_bind, Procedure.mapEvents_tryBuy]
  refine congrArg (Procedure.tryBuy _ >>= ·) (funext fun answer => ?_)
  cases answer with
  | ok done => rfl
  | error fault => rfl

/-- The attached value counts only where it stands against the target. -/
theorem weigh_about {paired : PairedLeg}
    (hvalue : ∀ declaredMin, paired = .native declaredMin → tx.value = tx'.value) :
    weigh config tx' paired = (weigh config tx paired).mapEvents (Event.about tx'.hash) := by
  cases paired with
  | token token minAmount =>
      rw [weigh, weigh]
      by_cases henough : config.minLiquidity < minAmount
      · rw [if_pos henough, if_pos henough]
        exact dispatch_about hprice
      · rw [if_neg henough, if_neg henough, Procedure.mapEvents_bind, Token.symbol_mapEvents]
        rfl
  | native declaredMin =>
      rw [weigh, weigh, hvalue declaredMin rfl]
      by_cases hlittle : tx'.value ≤ config.minLiquidity
      · rw [if_pos hlittle, if_pos hlittle]
        rfl
      · rw [if_neg hlittle, if_neg hlittle]
        by_cases hlow : declaredMin ≤ config.minLiquidity
        · rw [if_pos hlow, if_pos hlow]
          rfl
        · rw [if_neg hlow, if_neg hlow]
          exact dispatch_about hprice

/-- Transactions of one sender at one price with the same legs are decided on alike. -/
theorem evaluate_about {function : LiquidityFunction} {intent intent' : Intent}
    (hsender : tx.sender config.chainId = tx'.sender config.chainId)
    (hdecode : Intent.decode function tx.data = .ok intent)
    (hdecode' : Intent.decode function tx'.data = .ok intent')
    (hlegs : intent'.legs config = intent.legs config)
    (hvalue : ∀ legs declaredMin, intent.legs config = some legs →
      legs.paired = .native declaredMin → tx.value = tx'.value) :
    evaluate config function tx' =
      (evaluate config function tx).mapEvents (Event.about tx'.hash) := by
  cases hresult : tx'.sender config.chainId with
  | error rejection =>
      rw [evaluate, evaluate, hdecode, hdecode', hsender, hresult]
      rfl
  | ok sender =>
      rw [evaluate, evaluate, hdecode, hdecode', hsender, hresult]
      refine congrArg (Procedure.log (.decoded tx'.hash function sender)) ?_
      rw [Procedure.pure_bind, Procedure.pure_bind, hlegs]
      cases hintent : intent.legs config with
      | none => rfl
      | some legs =>
          rw [Procedure.mapEvents_bind, Token.balanceOf_mapEvents]
          refine congrArg (Token.balanceOf _ _ >>= ·) (funext fun balance => ?_)
          by_cases hshort : balance < legs.minTarget
          · rw [if_pos hshort, if_pos hshort]
            rfl
          · rw [if_neg hshort, if_neg hshort]
            exact weigh_about hprice fun declaredMin => hvalue legs declaredMin hintent

end

/-! ### What is at stake -/

/-- Two additions of two tokens stake the same: they name the same tokens in the same places and promise
the same least amounts of them. -/
structure PairAddition.SameStakes (a b : PairAddition) : Prop where
  tokenA : a.tokenA = b.tokenA
  tokenB : a.tokenB = b.tokenB
  amountAMin : a.amountAMin = b.amountAMin
  amountBMin : a.amountBMin = b.amountBMin

/-- Two additions of the chain's own currency stake the same: they name the same token and promise the
same least amounts. -/
structure NativeAddition.SameStakes (a b : NativeAddition) : Prop where
  token : a.token = b.token
  amountTokenMin : a.amountTokenMin = b.amountTokenMin
  amountEthMin : a.amountEthMin = b.amountEthMin

theorem PairAddition.SameStakes.legs_eq {a b : PairAddition} (h : a.SameStakes b) :
    b.legs config = a.legs config := by
  rw [legs, legs, h.tokenA, h.tokenB, h.amountAMin, h.amountBMin]

theorem NativeAddition.SameStakes.legs_eq {a b : NativeAddition} (h : a.SameStakes b) :
    b.legs config = a.legs config := by
  rw [legs, legs, h.token, h.amountTokenMin, h.amountEthMin]

theorem PairAddition.paired_of_legs {a : PairAddition} {legs : Legs} (h : a.legs config = some legs)
    (declaredMin : Word) : legs.paired ≠ .native declaredMin := by
  rw [PairAddition.legs] at h
  split at h
  · cases h
    exact PairedLeg.noConfusion
  · split at h
    · cases h
      exact PairedLeg.noConfusion
    · cases h

section

variable (hsender : tx.sender config.chainId = tx'.sender config.chainId)
  (hprice : tx.gasPrice = tx'.gasPrice)

include hsender hprice

theorem decidedAlike_of_pair_legs {a a' : PairAddition} (hdecode : PairAddition.decode tx.data = .ok a)
    (hdecode' : PairAddition.decode tx'.data = .ok a') (hlegs : a'.legs config = a.legs config) :
    DecidedAlike config .add tx tx' := by
  have hpair : Intent.decode .addLiquidity tx.data = .ok (.pair a) := by
    rw [Intent.decode, hdecode]
    rfl
  have hpair' : Intent.decode .addLiquidity tx'.data = .ok (.pair a') := by
    rw [Intent.decode, hdecode']
    rfl
  refine .of_procedures (evaluate_about hprice hsender hpair hpair' hlegs ?_)
  intro legs declaredMin hsome hnative
  exact absurd hnative (PairAddition.paired_of_legs hsome declaredMin)

theorem decidedAlike_of_native_legs {a a' : NativeAddition}
    (hdecode : NativeAddition.decode tx.data = .ok a)
    (hdecode' : NativeAddition.decode tx'.data = .ok a') (hlegs : a'.legs config = a.legs config)
    (hvalue : tx.value = tx'.value) : DecidedAlike config .addEth tx tx' := by
  have hnative : Intent.decode .addLiquidityETH tx.data = .ok (.native a) := by
    rw [Intent.decode, hdecode]
    rfl
  have hnative' : Intent.decode .addLiquidityETH tx'.data = .ok (.native a') := by
    rw [Intent.decode, hdecode']
    rfl
  exact .of_procedures (evaluate_about hprice hsender hnative hnative' hlegs fun _ _ _ _ => hvalue)

end

end

/-- Transactions of one sender at one price that stake the same are decided on alike, whatever else they
hold. -/
theorem stakes_decide (config : Config) (tx tx' : Transaction)
    (hsender : tx.sender config.chainId = tx'.sender config.chainId)
    (hprice : tx.gasPrice = tx'.gasPrice) :
    (∀ a a', PairAddition.decode tx.data = .ok a → PairAddition.decode tx'.data = .ok a' →
      a.SameStakes a' → DecidedAlike config .add tx tx') ∧
    ∀ a a', NativeAddition.decode tx.data = .ok a → NativeAddition.decode tx'.data = .ok a' →
      a.SameStakes a' → tx.value = tx'.value → DecidedAlike config .addEth tx tx' := by
  constructor
  · intro a a' hdecode hdecode' hstakes
    exact decidedAlike_of_pair_legs hsender hprice hdecode hdecode' hstakes.legs_eq
  · intro a a' hdecode hdecode' hstakes hvalue
    exact decidedAlike_of_native_legs hsender hprice hdecode hdecode' hstakes.legs_eq hvalue

def sampleLookalike : Transaction where
  hash := ⟨0xabababababababababababababababababababababababababababababababab⟩
  nonce := 8
  gasPrice := 6000000000
  gas := 21000
  recipient := none
  value := 0
  data := Calldata.encode [0xde, 0xad, 0xbe, 0xef]
    [0xffffffffffffffffffffffff7171717171717171717171717171717171717171,
      0x0123456789abcdef01234567bbbbbbbbbbbbbbbbbbbbbbbbbbbbbbbbbbbbbbbb,
      samplePair.amountADesired, samplePair.amountBDesired, samplePair.amountAMin,
      samplePair.amountBMin, BitVec.allOnes 256, 0] ++ [1, 2, 3]
  kind := some 0
  signature := some {
    v := 27
    r := 0x8bf1039d721a389b591262293c3ef492770ebe861f41435a7278e80205775d36
    s := 0x4992b1eeee82cf92da4bda719541753409a4516ef2f39a2c092b74c6d0f1973c }

theorem sampleLookalike_digest :
    sampleLookalike.signedDigest 27 56 =
      .ok (⟨0xc75e51d168bc37756ef982ed40b43416f60cf3dfae5fea207b55a07284e9df25⟩, 0) := by
  decide +kernel

theorem sampleLookalike_signer : sampleLookalike.sender 56 = sampleAddition.sender 56 := by
  rw [sampleAddition_signer, sender_of_digest (.inr rfl) rfl sampleLookalike_digest]
  decide +kernel

theorem sampleAddition_lookalike :
    sampleAddition.sender 56 = sampleLookalike.sender 56 ∧
      sampleAddition.gasPrice = sampleLookalike.gasPrice ∧
      DecidedAlike sampleConfig .add sampleAddition sampleLookalike ∧
      DecidedAlike sampleConfig .addEth sampleAddition sampleLookalike := by
  have hsender := sampleLookalike_signer.symm
  obtain ⟨hpair, hnative⟩ := stakes_decide sampleConfig sampleAddition sampleLookalike hsender rfl
  refine ⟨hsender, rfl, ?_, ?_⟩
  · refine hpair (.ofSlots sampleAddition.data) (.ofSlots sampleLookalike.data) (by decide +kernel)
      (by decide +kernel) ?_
    constructor <;> decide +kernel
  · refine hnative (.ofSlots sampleAddition.data) (.ofSlots sampleLookalike.data) (by decide +kernel)
      (by decide +kernel) ?_ rfl
    constructor <;> decide +kernel

end LiquidityTrigger
