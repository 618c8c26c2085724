import LiquidityTrigger.Proofs.Evaluation.Symbol
import LiquidityTrigger.Proofs.FixedPoint

/-!
# What diagnostics display

A diagnostic shows two amounts, the one that was found and the one that was asked for. The first is never the
greater one, and rounding keeps the order of amounts, so it is not displayed as the greater one either.
-/

namespace LiquidityTrigger

open FixedPoint

/-- A diagnostic, if an outcome has one, is of an amount not above the one that is asked for. -/
def Outcome.Justified : Outcome → Prop
  | .suppressed (.belowThreshold d) => d.observed ≤ d.expected
  | _ => True

/-- The text of a diagnostic ends with its amounts, and as they are displayed the first is not greater. -/
structure Diagnostic.DisplaysInOrder (d : Diagnostic) : Prop where
  text : ∃ opening, d.text =
    opening ++ formatEther d.observed ++ " vs " ++ formatEther d.expected ++ " expected"
  order : denoted (formatEther d.observed) ≤ denoted (formatEther d.expected)

theorem Diagnostic.displaysInOrder {d : Diagnostic} (h : d.observed ≤ d.expected) :
    d.DisplaysInOrder where
  text := ⟨_, rfl⟩
  order := denoted_formatEther_mono h

/-! ### Every diagnostic is justified -/

section

variable (config : Config) (function : LiquidityFunction) (tx : Transaction)

theorem dispatch_justified : (dispatch tx).Yields Outcome.Justified := by
  rw [dispatch]
  refine .behind _ fun _ => .behind _ fun answer => ?_
  cases answer with
  | ok done => exact .done trivial
  | error fault => exact .behind _ fun _ => .fail fault

theorem weigh_justified (paired : PairedLeg) : (weigh config tx paired).Yields Outcome.Justified := by
  cases paired with
  | token token minAmount =>
      rw [weigh]
      split
      · exact dispatch_justified tx
      · rename_i hscarce
        exact .behind _ fun _ => .behind _ fun _ => .done (BitVec.not_lt.mp hscarce)
  | native declaredMin =>
      rw [weigh]
      split
      · rename_i hscarce
        exact .behind _ fun _ => .done hscarce
      · split
        · exact .behind _ fun _ => .done trivial
        · exact dispatch_justified tx

theorem evaluate_justified : (evaluate config function tx).Yields Outcome.Justified := by
  rw [evaluate]
  refine .behind _ fun intent => .behind _ fun sender => .behind _ fun _ => ?_
  cases intent.legs config with
  | none => exact .done trivial
  | some legs =>
      refine .behind _ fun balance => ?_
      split
      · exact .behind _ fun _ => .done trivial
      · exact weigh_justified config tx legs.paired

theorem Entry.decide_justified (entry : Entry) :
    (entry.decide config tx).Yields Outcome.Justified := by
  cases entry with
  | process =>
      rw [Entry.decide, LiquidityTrigger.process]
      cases LiquidityFunction.detect tx.data with
      | none => exact .done trivial
      | some function => exact evaluate_justified config function tx
  | add => exact evaluate_justified config .addLiquidity tx
  | addEth => exact evaluate_justified config .addLiquidityETH tx

end

section

variable {config : Config} {function : LiquidityFunction} {tx : Transaction} {provider : Provider}
  {executor : Reply Unit} {ctx : Context} {start : Nat} {record : Record Outcome}

theorem diagnosed_iff_of_course {hash : Digest} {d : Diagnostic}
    (hcourse : Course config function tx provider executor ctx start record) :
    .logged (.diagnosed hash d) ∈ record.trace ↔
      hash = tx.hash ∧ record.result = .ok (.suppressed (.belowThreshold d)) := by
  cases hcourse with
  | undecodable hdecode => simp
  | senderless hdecode hsender => simp
  | irrelevant hdecode hsender hlegs => simp
  | balanceless hreach hread => simp [openingTrace]
  | uncovered hreach hread hshort => simp [openingTrace]
  | scarcePair hreach hread hcovered hpaired hscarce hsymbol => simp [openingTrace, @eq_comm _ d]
  | scarceNative hreach hread hcovered hpaired hscarce => simp [openingTrace, @eq_comm _ d]
  | underdeclared hreach hread hcovered hpaired hattached hdeclared => simp [openingTrace]
  | bought hreach hread hcovered hsuffices hexecutor => simp [openingTrace]
  | refused hreach hread hcovered hsuffices hexecutor => simp [openingTrace]

theorem Entry.diagnosed_iff {entry : Entry} {hash : Digest} {d : Diagnostic} :
    .logged (.diagnosed hash d) ∈ ((entry.decide config tx).play provider executor ctx start).trace ↔
      hash = tx.hash ∧ ((entry.decide config tx).play provider executor ctx start).result =
        .ok (.suppressed (.belowThreshold d)) := by
  by_cases htakes : ∃ function, entry.Takes tx.data function
  · obtain ⟨function, hfunction⟩ := htakes
    exact diagnosed_iff_of_course (Entry.course_of_takes hfunction)
  · simp [Entry.play_of_not_takes htakes]

end

/-- Whatever is answered, no diagnostic displays more as found than as asked for. -/
theorem displayed_amounts_keep_order :
    (∀ amount : Word, formatUnits amount 18 4 = .ok (formatEther amount) ∧
      IsFixed 4 (formatEther amount) ∧
      denoted (formatEther amount) = ((amount.toNat + 5 * 10 ^ 13) / 10 ^ 14 : ℕ) / 10 ^ 4) ∧
    (∀ a b : Word, a ≤ b → denoted (formatEther a) ≤ denoted (formatEther b)) ∧
    ∀ (entry : Entry) (config : Config) (tx : Transaction),
      (∀ {σ : Type} (services : Services σ) s d s',
        (entry.decide config tx).run services s = (.ok (.suppressed (.belowThreshold d)), s') →
          d.DisplaysInOrder) ∧
      ∀ provider executor ctx start hash d,
        .logged (.diagnosed hash d) ∈
            ((entry.decide config tx).play provider executor ctx start).trace →
          d.DisplaysInOrder := by
  refine ⟨fun amount => ⟨formatUnits_eq_formatEther amount, isFixed_text 4 _,
    denoted_formatEther amount⟩, fun _ _ => denoted_formatEther_mono, fun entry config tx => ?_⟩
  have hjustified := Entry.decide_justified config tx entry
  constructor
  · intro σ services s d s' hrun
    exact Diagnostic.displaysInOrder (hjustified.of_run hrun)
  · intro provider executor ctx start hash d hlogged
    obtain ⟨-, hresult⟩ := Entry.diagnosed_iff.mp hlogged
    exact Diagnostic.displaysInOrder (hjustified.of_run (Procedure.run_of_play hresult))

theorem sampleAddition_displayed :
    denoted (formatEther 1) ≤ denoted (formatEther (BitVec.allOnes 256)) ∧
      ∃ d, ((Entry.add.decide sampleConfig sampleAddition).run
          (scripted sampleProvider ⟨.ok (), 7⟩ (.withDeadline 60)) ⟨0, []⟩).1 =
            .ok (.suppressed (.belowThreshold d)) ∧
        .logged (.diagnosed sampleAddition.hash d) ∈
          ((Entry.add.decide sampleConfig sampleAddition).play sampleProvider ⟨.ok (), 7⟩
            (.withDeadline 60) 0).trace ∧
        d.DisplaysInOrder := by
  obtain ⟨-, hmono, hdisplayed⟩ := displayed_amounts_keep_order
  obtain ⟨⟨d, hresult⟩, -⟩ := sampleAddition_scarce
  have hrun := Procedure.run_of_play hresult
  have hlogged := Entry.diagnosed_iff.mpr ⟨rfl, hresult⟩
  obtain ⟨hofRun, hofLog⟩ := hdisplayed .add sampleConfig sampleAddition
  exact ⟨hmono 1 (BitVec.allOnes 256) (by decide +kernel), d, congrArg Prod.fst hrun, hlogged,
    (hofRun _ _ d _ hrun).text, (hofLog _ _ _ _ _ d hlogged).order⟩

end LiquidityTrigger
