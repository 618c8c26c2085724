import LiquidityTrigger.Proofs.Evaluation.Course
import LiquidityTrigger.Proofs.Liquidity.Payload

/-!
# What an addition promises

An addition seen from the configured pair: whether it concerns that pair, how much of the target it
promises at least, and what stands against the target. All of it is read off the slots of a payload,
whatever the length, the signature or the order of the two tokens. `reachesBalance_iff` says that these are
the legs with which an evaluation comes to the read of the sender's balance.
-/

namespace LiquidityTrigger

namespace PairAddition

/-- The two tokens are the configured pair, in either order. -/
def Names (a : PairAddition) (config : Config) : Prop :=
  (a.tokenA = config.target ∧ a.tokenB = config.paired) ∨
    (a.tokenA = config.paired ∧ a.tokenB = config.target)

instance (a : PairAddition) (config : Config) : Decidable (a.Names config) :=
  inferInstanceAs (Decidable (_ ∨ _))

def minimums (a : PairAddition) (config : Config) : Word × Word :=
  if a.tokenA = config.target ∧ a.tokenB = config.paired then (a.amountAMin, a.amountBMin)
  else (a.amountBMin, a.amountAMin)

theorem legs_eq (a : PairAddition) (config : Config) :
    a.legs config =
      if a.Names config then
        some ⟨(a.minimums config).1, .token config.paired (a.minimums config).2⟩
      else none := by
  rw [legs, minimums]
  by_cases hforward : a.tokenA = config.target ∧ a.tokenB = config.paired
  · rw [if_pos hforward, if_pos hforward, if_pos (.inl hforward)]
  · rw [if_neg hforward, if_neg hforward]
    by_cases hbackward : a.tokenB = config.target ∧ a.tokenA = config.paired
    · rw [if_pos hbackward, if_pos (.inr hbackward.symm)]
    · have hnot : ¬ a.Names config := by
        intro hnames
        rcases hnames with h | h
        · exact hforward h
        · exact hbackward h.symm
      rw [if_neg hbackward, if_neg hnot]

end PairAddition

namespace Transaction

variable (tx : Transaction) (config : Config)

/-- The payload, read as a call of a function, adds to the configured pair. -/
def Concerns : LiquidityFunction → Prop
  | .addLiquidity => (PairAddition.ofSlots tx.data).Names config
  | .addLiquidityETH => (NativeAddition.ofSlots tx.data).token = config.target

def promised : LiquidityFunction → Word
  | .addLiquidity => ((PairAddition.ofSlots tx.data).minimums config).1
  | .addLiquidityETH => (NativeAddition.ofSlots tx.data).amountTokenMin

/-- What stands against the target token: the least amount of the paired token, or the attached amount of
the chain's own currency. -/
def opposed : LiquidityFunction → Word
  | .addLiquidity => ((PairAddition.ofSlots tx.data).minimums config).2
  | .addLiquidityETH => tx.value

def declaredNative : Word := (NativeAddition.ofSlots tx.data).amountEthMin

def pairedLeg : LiquidityFunction → PairedLeg
  | .addLiquidity => .token config.paired (tx.opposed config .addLiquidity)
  | .addLiquidityETH => .native tx.declaredNative

variable {tx config}

theorem legs_of_concerns {function : LiquidityFunction} (h : tx.Concerns config function) :
    (Intent.ofSlots tx.data function).legs config =
      some ⟨tx.promised config function, tx.pairedLeg config function⟩ := by
  cases function with
  | addLiquidity => exact ((PairAddition.ofSlots tx.data).legs_eq config).trans (if_pos h)
  | addLiquidityETH => exact if_pos h

theorem legs_of_not_concerns {function : LiquidityFunction} (h : ¬ tx.Concerns config function) :
    (Intent.ofSlots tx.data function).legs config = none := by
  cases function with
  | addLiquidity => exact ((PairAddition.ofSlots tx.data).legs_eq config).trans (if_neg h)
  | addLiquidityETH => exact if_neg h

theorem concerns_of_legs {function : LiquidityFunction} {legs : Legs}
    (h : (Intent.ofSlots tx.data function).legs config = some legs) : tx.Concerns config function := by
  refine Classical.byContradiction fun hnot => ?_
  rw [legs_of_not_concerns hnot] at h
  cases h

theorem not_concerns_of_decode {function : LiquidityFunction} {intent : Intent}
    (hdecode : Intent.decode function tx.data = .ok intent) (hlegs : intent.legs config = none) :
    ¬ tx.Concerns config function := by
  intro hconcerns
  obtain ⟨-, rfl⟩ := Intent.decode_eq_ok_iff.mp hdecode
  rw [legs_of_concerns hconcerns] at hlegs
  cases hlegs

end Transaction

theorem reachesBalance_iff {config : Config} {function : LiquidityFunction} {tx : Transaction}
    {sender : Address} {legs : Legs} :
    ReachesBalance config function tx sender legs ↔
      (Intent.layout function).size ≤ tx.data.length ∧ tx.sender config.chainId = .ok sender ∧
        tx.Concerns config function ∧
        legs = ⟨tx.promised config function, tx.pairedLeg config function⟩ := by
  constructor
  · intro h
    obtain ⟨⟨intent, hdecode, hlegs⟩, hsender⟩ := h
    obtain ⟨hlong, rfl⟩ := Intent.decode_eq_ok_iff.mp hdecode
    have hconcerns := Transaction.concerns_of_legs hlegs
    rw [Transaction.legs_of_concerns hconcerns] at hlegs
    exact ⟨hlong, hsender, hconcerns, (Option.some.inj hlegs).symm⟩
  · intro h
    obtain ⟨hlong, hsender, hconcerns, rfl⟩ := h
    exact ⟨⟨_, Intent.decode_eq_ok_iff.mpr ⟨hlong, rfl⟩, Transaction.legs_of_concerns hconcerns⟩,
      hsender⟩

section

variable {config : Config} {function : LiquidityFunction} {tx : Transaction}

theorem Transaction.pairedLeg_eq_token_iff {token : Address} {minAmount : Word} :
    tx.pairedLeg config function = .token token minAmount ↔
      function = .addLiquidity ∧ config.paired = token ∧ tx.opposed config function = minAmount := by
  cases function with
  | addLiquidity => simp [pairedLeg]
  | addLiquidityETH => simp [pairedLeg]

theorem Transaction.pairedLeg_eq_native_iff {declaredMin : Word} :
    tx.pairedLeg config function = .native declaredMin ↔
      function = .addLiquidityETH ∧ tx.declaredNative = declaredMin := by
  cases function with
  | addLiquidity => simp [pairedLeg]
  | addLiquidityETH => simp [pairedLeg]

theorem Transaction.pairedLeg_suffices_iff :
    (tx.pairedLeg config function).Suffices config tx ↔
      config.minLiquidity < tx.opposed config function ∧
        (function = .addLiquidityETH → config.minLiquidity < tx.declaredNative) := by
  cases function with
  | addLiquidity => simp [pairedLeg, PairedLeg.Suffices]
  | addLiquidityETH => simp [pairedLeg, PairedLeg.Suffices, opposed]

end

end LiquidityTrigger
