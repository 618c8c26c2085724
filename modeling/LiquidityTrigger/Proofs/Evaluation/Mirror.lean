import LiquidityTrigger.Proofs.Evaluation.Deadline
import LiquidityTrigger.Proofs.Evaluation.Extent
import LiquidityTrigger.Proofs.Evaluation.Promise
import LiquidityTrigger.Proofs.Evaluation.Stakes
import Mathlib.Data.Set.Insert

/-!
# The order of a pair

A pool holds a pair without an order, so an addition may name the two tokens either way. Seen from the
target both ways promise the same, provided that the target and the paired token are not one: else the
first of the two would be taken for the target, whichever it is. Settings are refused in which the two are
one, so every configuration that is made from settings keeps them apart.
-/

namespace LiquidityTrigger

/-! ### The configured tokens differ -/

theorem Settings.target_ne_paired {settings : Settings} {fallback : Option UInt64} {config : Config}
    (h : settings.validate fallback = .ok config) : config.target ≠ config.paired := by
  rw [Settings.validate] at h
  split at h
  · cases h
  · split at h
    · cases h
    · split at h
      · cases h
      · rename_i hdistinct
        split at h
        · cases h
        · split at h
          · cases h
          · cases h
            exact hdistinct

theorem connect_yields (settings : Settings) :
    (connect settings).Yields fun config => config.target ≠ config.paired := by
  rw [connect_eq]
  refine .behind _ fun chainId => ?_
  have hvalid : ∀ config, (settings.validate (some chainId)).mapError SettingsFault.toFault =
      .ok config → config.target ≠ config.paired := by
    intro config h
    cases hresult : settings.validate (some chainId) with
    | error fault =>
        rw [hresult] at h
        cases h
    | ok made =>
        rw [hresult] at h
        cases h
        exact Settings.target_ne_paired hresult
  refine (Procedure.Yields.ofExcept hvalid).bind fun config hdistinct => ?_
  exact .behind _ fun _ => .done hdistinct

/-! ### Mirrored additions -/

namespace PairAddition

def mirrored (a : PairAddition) : PairAddition where
  tokenA := a.tokenB
  tokenB := a.tokenA
  amountADesired := a.amountBDesired
  amountBDesired := a.amountADesired
  amountAMin := a.amountBMin
  amountBMin := a.amountAMin
  deadline := a.deadline
  recipient := a.recipient

variable {a : PairAddition} {config : Config}

theorem names_mirrored_iff : a.mirrored.Names config ↔ a.Names config := by
  constructor
  · intro h
    exact h.symm.imp And.symm And.symm
  · intro h
    exact h.symm.imp And.symm And.symm

theorem names_iff :
    a.Names config ↔ ({a.tokenA, a.tokenB} : Set Address) = {config.target, config.paired} :=
  Set.pair_eq_pair_iff.symm

theorem legs_isSome_iff : (a.legs config).isSome ↔ a.Names config := by
  rw [legs_eq]
  by_cases h : a.Names config
  · rw [if_pos h]
    exact iff_of_true rfl h
  · rw [if_neg h]
    exact iff_of_false Bool.false_ne_true h

/-- Of two tokens that differ only one is the target, so both orders have the same minimums. -/
theorem minimums_mirrored (hdistinct : config.target ≠ config.paired) (h : a.Names config) :
    a.mirrored.minimums config = a.minimums config := by
  rcases h with ⟨htarget, hpaired⟩ | ⟨hpaired, htarget⟩
  · have hnot : ¬ (a.mirrored.tokenA = config.target ∧ a.mirrored.tokenB = config.paired) :=
      fun hboth => hdistinct (hboth.1.symm.trans hpaired)
    rw [minimums, minimums, if_neg hnot, if_pos ⟨htarget, hpaired⟩]
    rfl
  · have hnot : ¬ (a.tokenA = config.target ∧ a.tokenB = config.paired) :=
      fun hboth => hdistinct (hboth.1.symm.trans hpaired)
    have hboth : a.mirrored.tokenA = config.target ∧ a.mirrored.tokenB = config.paired :=
      ⟨htarget, hpaired⟩
    rw [minimums, minimums, if_pos hboth, if_neg hnot]
    rfl

theorem legs_mirrored (hdistinct : config.target ≠ config.paired) :
    a.mirrored.legs config = a.legs config := by
  rw [legs_eq, legs_eq]
  by_cases h : a.Names config
  · rw [if_pos h, if_pos (names_mirrored_iff.mpr h), minimums_mirrored hdistinct h]
  · rw [if_neg h, if_neg (mt names_mirrored_iff.mp h)]

end PairAddition

/-- An addition and its mirror image have the same legs, and from one sender at one price they are decided
on alike. -/
theorem order_of_pair_is_irrelevant :
    (∀ (settings : Settings) fallback config, settings.validate fallback = .ok config →
      config.target ≠ config.paired) ∧
    (∀ (settings : Settings) {σ : Type} (services : Services σ) s config s',
      (connect settings).run services s = (.ok config, s') → config.target ≠ config.paired) ∧
    ∀ config : Config, config.target ≠ config.paired →
      (∀ a : PairAddition, a.mirrored.legs config = a.legs config ∧
        ((a.legs config).isSome ↔
          ({a.tokenA, a.tokenB} : Set Address) = {config.target, config.paired})) ∧
      ∀ (tx tx' : Transaction) (a : PairAddition),
        tx.sender config.chainId = tx'.sender config.chainId → tx.gasPrice = tx'.gasPrice →
        PairAddition.decode tx.data = .ok a → PairAddition.decode tx'.data = .ok a.mirrored →
        DecidedAlike config .add tx tx' := by
  refine ⟨fun _ _ _ => Settings.target_ne_paired,
    fun settings _ _ _ _ _ hrun => (connect_yields settings).of_run hrun, ?_⟩
  intro config hdistinct
  constructor
  · intro a
    exact ⟨PairAddition.legs_mirrored hdistinct,
      PairAddition.legs_isSome_iff.trans PairAddition.names_iff⟩
  · intro tx tx' a hsender hprice hdecode hdecode'
    exact decidedAlike_of_pair_legs hsender hprice hdecode hdecode'
      (PairAddition.legs_mirrored hdistinct)

def sampleSettings : Settings where
  targetToken := "0x7171717171717171717171717171717171717171"
  baseCurrency := "bbbbbbbbbbbbbbbbbbbbbbbbbbbbbbbbbbbbbbbb"
  minimumLiquidity := "10000000000000000000"
  chainId := none

def sampleExchange : Transaction where
  hash := .zero
  nonce := 7
  gasPrice := 6000000000
  gas := 3000000
  recipient := some ⟨0x1010101010101010101010101010101010101010⟩
  value := 0
  data := Calldata.encode [0xe8, 0xe3, 0x37, 0x00] samplePair.mirrored.arguments
  kind := none
  signature := some {
    v := 147
    r := 0x29072e56f1944d776cae807f1a52237b7122888398d8ef969b524c738da07fde
    s := 0x7de53728c4ece15f79b3f523d824ec13e781e27e8f8644da2b559bcd94b068b }

theorem sampleExchange_digest :
    sampleExchange.signedDigest 147 56 =
      .ok (⟨0xcb01dd8e1949929216e3f1919ba2ec241bf1ff252768d3bf5f5b63ee843f5196⟩, 0) := by
  decide +kernel

theorem sampleExchange_signer : sampleAddition.sender 56 = sampleExchange.sender 56 := by
  rw [sampleAddition_signer, sender_of_digest (.inl rfl) rfl sampleExchange_digest]
  decide +kernel

theorem sampleSettings_connect :
    ((connect sampleSettings).run (scripted sampleProvider ⟨.ok (), 7⟩ .background) ⟨0, []⟩).1 =
      .ok sampleConfig := by
  decide +kernel

theorem sampleAddition_exchanged :
    sampleSettings.validate (some 56) = .ok sampleConfig ∧
      sampleConfig.target ≠ sampleConfig.paired ∧
      samplePair.mirrored.legs sampleConfig = samplePair.legs sampleConfig ∧
      DecidedAlike sampleConfig .add sampleAddition sampleExchange := by
  have hvalidate : sampleSettings.validate (some 56) = .ok sampleConfig := by decide +kernel
  have hsettings := order_of_pair_is_irrelevant.1 sampleSettings (some 56) sampleConfig hvalidate
  have hdistinct := order_of_pair_is_irrelevant.2.1 sampleSettings
    (scripted sampleProvider ⟨.ok (), 7⟩ .background) ⟨0, []⟩ sampleConfig _
    (Prod.ext sampleSettings_connect rfl)
  obtain ⟨hlegs, halike⟩ := order_of_pair_is_irrelevant.2.2 sampleConfig hdistinct
  exact ⟨hvalidate, hsettings, (hlegs samplePair).1,
    halike sampleAddition sampleExchange samplePair sampleExchange_signer rfl (by decide +kernel)
      (by decide +kernel)⟩

end LiquidityTrigger
