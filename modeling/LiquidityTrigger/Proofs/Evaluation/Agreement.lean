import LiquidityTrigger.Proofs.Evaluation.Purchase
import LiquidityTrigger.Proofs.Scripted
import LiquidityTrigger.Proofs.Transaction.Sender

/-!
# Two evaluations of one transaction

What an evaluation makes of a transaction depends on the provider and on the context only through the
read of the sender's balance. Everything behind that read is decided by the payload and the
configuration, and the read of a symbol only fills in a text. So two evaluations for which the balance
is the same agree in all but that text.
-/

namespace LiquidityTrigger

/-- Two results are the same but for the text of a symbol in a diagnostic. -/
inductive ResultsAgree : Except Fault Outcome → Except Fault Outcome → Prop
  | same (result : Except Fault Outcome) : ResultsAgree result result
  | symbol (observed expected : Word) (first second : String) :
      ResultsAgree (.ok (.suppressed (.belowThreshold ⟨observed, expected, some first⟩)))
        (.ok (.suppressed (.belowThreshold ⟨observed, expected, some second⟩)))

/-- Two evaluations come to the same decision: their results agree, they ask for the same and they
purchase at the same price. -/
structure Agree (a b : Record Outcome) : Prop where
  results : ResultsAgree a.result b.result
  calls : callsIn a.trace = callsIn b.trace
  gasPrices : (purchasesIn a.trace).map (·.gasPrice) = (purchasesIn b.trace).map (·.gasPrice)

/-! ### Entries -/

namespace Entry

variable {entry : Entry} {config : Config} {tx : Transaction} {provider : Provider}
  {executor : Reply Unit} {ctx : Context} {start : Nat}

theorem decide_of_takes {function : LiquidityFunction} (h : entry.Takes tx.data function) :
    entry.decide config tx = evaluate config function tx := by
  cases entry with
  | process =>
      have hdetect := LiquidityFunction.detect_eq_some_iff.mpr h
      rw [Entry.decide, LiquidityTrigger.process, hdetect]
  | add =>
      obtain rfl : function = .addLiquidity := h
      rfl
  | addEth =>
      obtain rfl : function = .addLiquidityETH := h
      rfl

theorem course_of_takes {function : LiquidityFunction} (h : entry.Takes tx.data function) :
    Course config function tx provider executor ctx start
      ((entry.decide config tx).play provider executor ctx start) := by
  rw [decide_of_takes h]
  exact course_evaluate config function tx provider executor ctx start

theorem play_of_not_takes (h : ¬ ∃ function, entry.Takes tx.data function) :
    (entry.decide config tx).play provider executor ctx start =
      ⟨.ok (.suppressed .unsupportedFunction), start, []⟩ := by
  cases entry with
  | process =>
      cases hdetect : LiquidityFunction.detect tx.data with
      | none =>
          rw [Entry.decide, LiquidityTrigger.process, hdetect]
          rfl
      | some function => exact absurd ⟨function, LiquidityFunction.detect_eq_some_iff.mp hdetect⟩ h
  | add => exact absurd ⟨.addLiquidity, rfl⟩ h
  | addEth => exact absurd ⟨.addLiquidityETH, rfl⟩ h

end Entry

/-! ### The balance decides -/

/-- One record, but for the deadline of a purchase, or two diagnostics of one amount that differ in the
symbol and in the time. -/
inductive Alike (config : Config) (tx : Transaction) (deadline : Option Nat) :
    Record Outcome → Record Outcome → Prop
  | same (record : Record Outcome) : Alike config tx deadline record (record.under deadline)
  | diagnosed (observed : Word) (token sender : Address) (function : LiquidityFunction)
      (first second : String × Nat) :
      Alike config tx deadline
        ⟨.ok (.suppressed (.belowThreshold ⟨observed, config.minLiquidity, some first.1⟩)), first.2,
          openingTrace config function tx sender
            ++ [.called (Token.symbolCall token),
              .logged (.diagnosed tx.hash ⟨observed, config.minLiquidity, some first.1⟩)]⟩
        ⟨.ok (.suppressed (.belowThreshold ⟨observed, config.minLiquidity, some second.1⟩)), second.2,
          openingTrace config function tx sender
            ++ [.called (Token.symbolCall token),
              .logged (.diagnosed tx.hash ⟨observed, config.minLiquidity, some second.1⟩)]⟩

theorem Alike.agree {config : Config} {tx : Transaction} {deadline : Option Nat}
    {a b : Record Outcome} (h : Alike config tx deadline a b) : Agree a b := by
  cases h with
  | same => exact ⟨.same _, by simp [Record.under], by simp [Record.under, Function.comp_def]⟩
  | diagnosed => exact ⟨.symbol _ _ _ _, by simp, by simp⟩

section

variable {config : Config} {tx : Transaction} {provider provider' : Provider} {executor : Reply Unit}
  {ctx ctx' : Context} {start : Nat}

private theorem alike_of_course {function : LiquidityFunction} {record : Record Outcome}
    (hcourse : Course config function tx provider executor ctx start record)
    (hbalance : ∀ sender legs, ReachesBalance config function tx sender legs →
      balanceRead config provider' ctx' start sender = balanceRead config provider ctx start sender) :
    Alike config tx ctx'.deadline record
      ((evaluate config function tx).play provider' executor ctx' start) := by
  cases hcourse with
  | undecodable hdecode =>
      rw [play_of_course (.undecodable hdecode)]
      exact .same _
  | senderless hdecode hsender =>
      rw [play_of_course (.senderless hdecode hsender)]
      exact .same _
  | irrelevant hdecode hsender hlegs =>
      rw [play_of_course (.irrelevant hdecode hsender hlegs)]
      exact .same _
  | balanceless hreach hread =>
      have hread' := (hbalance _ _ hreach).trans hread
      rw [play_of_course (.balanceless hreach hread')]
      exact .same _
  | uncovered hreach hread hshort =>
      have hread' := (hbalance _ _ hreach).trans hread
      rw [play_of_course (.uncovered hreach hread' hshort)]
      exact .same _
  | @scarcePair sender legs balance now token minAmount symbol later hreach hread hcovered hpaired
      hscarce hsymbol =>
      have hread' := (hbalance _ _ hreach).trans hread
      obtain ⟨⟨symbol', later'⟩, hsymbol'⟩ :
          ∃ read, symbolRead provider' ctx' now token = read := ⟨_, rfl⟩
      rw [play_of_course (.scarcePair hreach hread' hcovered hpaired hscarce hsymbol')]
      exact .diagnosed minAmount token sender function (symbol, later) (symbol', later')
  | scarceNative hreach hread hcovered hpaired hscarce =>
      have hread' := (hbalance _ _ hreach).trans hread
      rw [play_of_course (.scarceNative hreach hread' hcovered hpaired hscarce)]
      exact .same _
  | underdeclared hreach hread hcovered hpaired hattached hdeclared =>
      have hread' := (hbalance _ _ hreach).trans hread
      rw [play_of_course (.underdeclared hreach hread' hcovered hpaired hattached hdeclared)]
      exact .same _
  | bought hreach hread hcovered hsuffices hexecutor =>
      have hread' := (hbalance _ _ hreach).trans hread
      rw [play_of_course (.bought hreach hread' hcovered hsuffices hexecutor)]
      exact .same _
  | refused hreach hread hcovered hsuffices hexecutor =>
      have hread' := (hbalance _ _ hreach).trans hread
      rw [play_of_course (.refused hreach hread' hcovered hsuffices hexecutor)]
      exact .same _

/-- Two evaluations through one entry are alike when they read the same balance. -/
theorem alike_of_balance {entry : Entry}
    (hbalance : ∀ function sender legs, entry.Takes tx.data function →
      ReachesBalance config function tx sender legs →
      balanceRead config provider' ctx' start sender = balanceRead config provider ctx start sender) :
    Alike config tx ctx'.deadline ((entry.decide config tx).play provider executor ctx start)
      ((entry.decide config tx).play provider' executor ctx' start) := by
  by_cases htakes : ∃ function, entry.Takes tx.data function
  · obtain ⟨function, hfunction⟩ := htakes
    rw [Entry.decide_of_takes hfunction]
    exact alike_of_course (course_evaluate config function tx provider executor ctx start)
      fun sender legs => hbalance function sender legs hfunction
  · rw [Entry.play_of_not_takes htakes, Entry.play_of_not_takes htakes]
    exact .same _

end

/-! ### A transaction to try things on -/

def sampleConfig : Config where
  target := ⟨0x7171717171717171717171717171717171717171⟩
  paired := ⟨0xbbbbbbbbbbbbbbbbbbbbbbbbbbbbbbbbbbbbbbbb⟩
  minLiquidity := 10000000000000000000
  chainId := 56

def samplePair : PairAddition where
  tokenA := sampleConfig.target
  tokenB := sampleConfig.paired
  amountADesired := 2000000000000000000000
  amountBDesired := 0
  amountAMin := 1000000000000000000000
  amountBMin := 0
  recipient := ⟨0xeeeeeeeeeeeeeeeeeeeeeeeeeeeeeeeeeeeeeeee⟩
  deadline := 1700000000

def sampleAddition : Transaction where
  hash := .zero
  nonce := 7
  gasPrice := 6000000000
  gas := 3000000
  recipient := some ⟨0x1010101010101010101010101010101010101010⟩
  value := 0
  data := Calldata.encode [0xe8, 0xe3, 0x37, 0x00] samplePair.arguments
  kind := none
  signature := some {
    v := 147
    r := 47298433178149631338490938164960179074366362171784698709277218969613351011839
    s := 45434510041841105548768744331354034614903108268310766210829325897620748034691 }

-- The digest and the signature are looked at one after the other, which takes the kernel less room.
theorem sampleAddition_digest :
    sampleAddition.signedDigest 147 56 =
      .ok (⟨0x9743504d045b1601c50e96636d00f53e4c70e01fce0866dc8cdacc2c4b5ada8c⟩, 0) := by
  decide +kernel

theorem sampleAddition_signer :
    sampleAddition.sender 56 = .ok ⟨0x17c5185167401ed00cf5f5b2fc97d9bbfdb7d025⟩ := by
  rw [sender_of_digest (.inl rfl) rfl sampleAddition_digest]
  decide +kernel

theorem sampleAddition_reaches :
    ReachesBalance sampleConfig .addLiquidity sampleAddition
      ⟨0x17c5185167401ed00cf5f5b2fc97d9bbfdb7d025⟩
      ⟨samplePair.amountAMin, .token sampleConfig.paired samplePair.amountBMin⟩ where
  addition := ⟨.pair samplePair, by decide +kernel, by decide +kernel⟩
  signer := sampleAddition_signer

end LiquidityTrigger
