import LiquidityTrigger.Proofs.Evaluation.Agreement

/-!
# What a deadline decides

The reads of an evaluation share one deadline, so behind the deadline only the executor can keep the
evaluation busy. If the balance is not read in time, the evaluation ends with that timeout; otherwise
the deadline decides nothing but the text of a symbol, so with a later deadline, or with none, the
evaluation comes to the same decision.
-/

namespace LiquidityTrigger

section

variable {config : Config} {function : LiquidityFunction} {tx : Transaction} {provider : Provider}
  {executor : Reply Unit} {ctx ctx' : Context} {start : Nat} {sender : Address} {legs : Legs}
  {record : Record Outcome}

/-! ### The end of an evaluation -/

private theorem readOf_end_le {α : Type} {deadline now : Nat} {operation : String} {call : Call}
    {make : Except Fault Bytes → α} (hdeadline : ctx.deadline = some deadline) :
    (readOf provider ctx now operation call make).2 ≤ max now deadline :=
  Context.wait_end_le hdeadline

theorem finish_le_of_course {deadline : Nat} (hdeadline : ctx.deadline = some deadline)
    (hcourse : Course config function tx provider executor ctx start record) :
    record.finish ≤ max start deadline +
      if purchasesIn record.trace = [] then 0 else executor.delay := by
  have hstart : start ≤ max start deadline := Nat.le_max_left start deadline
  have hbalance {sender : Address} {result : Except Fault Word} {now : Nat}
      (hread : balanceRead config provider ctx start sender = (result, now)) :
      now ≤ max start deadline := by
    have hend := congrArg Prod.snd hread
    rw [balanceRead] at hend
    exact Nat.le_trans (Nat.le_of_eq hend.symm) (readOf_end_le hdeadline)
  have hsymbol {token : Address} {now later : Nat} {symbol : String}
      (hread : symbolRead provider ctx now token = (symbol, later)) : later ≤ max now deadline := by
    have hend := congrArg Prod.snd hread
    rw [symbolRead] at hend
    exact Nat.le_trans (Nat.le_of_eq hend.symm) (readOf_end_le hdeadline)
  cases hcourse with
  | undecodable hdecode => exact Nat.le_add_right_of_le hstart
  | senderless hdecode hsender => exact Nat.le_add_right_of_le hstart
  | irrelevant hdecode hsender hlegs => exact Nat.le_add_right_of_le hstart
  | balanceless hreach hread => simpa [openingTrace] using hbalance hread
  | uncovered hreach hread hshort => simpa [openingTrace] using hbalance hread
  | scarcePair hreach hread hcovered hpaired hscarce hsymbolRead =>
      -- The second wait starts where the first one ended, under the same deadline.
      have hnow := hbalance hread
      have hlater := hsymbol hsymbolRead
      simp only [openingTrace, purchasesIn_append, purchasesIn_logged, purchasesIn_called,
        purchasesIn_nil, List.append_nil, if_true]
      omega
  | scarceNative hreach hread hcovered hpaired hscarce =>
      simpa [openingTrace] using hbalance hread
  | underdeclared hreach hread hcovered hpaired hattached hdeclared =>
      simpa [openingTrace] using hbalance hread
  | bought hreach hread hcovered hsuffices hexecutor =>
      simpa [openingTrace] using hbalance hread
  | refused hreach hread hcovered hsuffices hexecutor =>
      simpa [openingTrace] using hbalance hread

/-! ### The read of the balance -/

theorem balanceRead_of_inTime
    (h : ctx.InTime (provider.answer (Token.balanceOfCall config.target sender)).delay start) :
    balanceRead config provider ctx start sender =
      (Token.balanceOfAnswer (provider.answer (Token.balanceOfCall config.target sender)).result,
        start + (provider.answer (Token.balanceOfCall config.target sender)).delay) := by
  rw [balanceRead, readOf, Context.wait_of_inTime h]

theorem balanceRead_eq_timeout_iff :
    (balanceRead config provider ctx start sender).1 = .error (Context.timeoutFault "balanceOf") ↔
      ¬ ctx.InTime (provider.answer (Token.balanceOfCall config.target sender)).delay start ∨
        (provider.answer (Token.balanceOfCall config.target sender)).result =
          .error (Context.timeoutFault "balanceOf") := by
  by_cases h : ctx.InTime (provider.answer (Token.balanceOfCall config.target sender)).delay start
  · rw [balanceRead_of_inTime h, Context.timeoutFault, Token.balanceOfAnswer_eq_timeout_iff]
    simp only [h, not_true_eq_false, false_or]
  · obtain ⟨deadline, -, -, hwait⟩ := Context.wait_of_not_inTime "balanceOf" h
    rw [balanceRead, readOf, hwait, Context.timeoutFault, Token.balanceOfAnswer_eq_timeout_iff]
    simp only [h, not_false_eq_true, true_or]

theorem ReachesBalance.unique {sender' : Address} {legs' : Legs}
    (h : ReachesBalance config function tx sender legs)
    (h' : ReachesBalance config function tx sender' legs') : sender = sender' ∧ legs = legs' := by
  obtain ⟨⟨intent, hdecode, hlegs⟩, hsender⟩ := h
  obtain ⟨⟨intent', hdecode', hlegs'⟩, hsender'⟩ := h'
  rw [hdecode] at hdecode'
  cases hdecode'
  rw [hlegs] at hlegs'
  rw [hsender] at hsender'
  exact ⟨Except.ok.inj hsender', Option.some.inj hlegs'⟩

theorem result_eq_error_iff_of_reach {fault : Fault}
    (hreach : ReachesBalance config function tx sender legs)
    (hcourse : Course config function tx provider executor ctx start record) :
    record.result = .error fault ↔
      (balanceRead config provider ctx start sender).1 = .error fault ∨
        (purchasesIn record.trace ≠ [] ∧ executor.result = .error fault) := by
  cases hcourse with
  | undecodable hdecode =>
      obtain ⟨⟨intent, hok, -⟩, -⟩ := hreach
      rw [hdecode] at hok
      cases hok
  | senderless hdecode hsender =>
      have hok := hreach.signer
      rw [hsender] at hok
      cases hok
  | irrelevant hdecode hsender hlegs =>
      obtain ⟨⟨intent, hok, hsome⟩, -⟩ := hreach
      rw [hdecode] at hok
      cases hok
      rw [hlegs] at hsome
      cases hsome
  | balanceless hreach' hread =>
      obtain ⟨rfl, rfl⟩ := hreach.unique hreach'
      simp [hread, openingTrace]
  | uncovered hreach' hread hshort =>
      obtain ⟨rfl, rfl⟩ := hreach.unique hreach'
      simp [hread, openingTrace]
  | scarcePair hreach' hread hcovered hpaired hscarce hsymbol =>
      obtain ⟨rfl, rfl⟩ := hreach.unique hreach'
      simp [hread, openingTrace]
  | scarceNative hreach' hread hcovered hpaired hscarce =>
      obtain ⟨rfl, rfl⟩ := hreach.unique hreach'
      simp [hread, openingTrace]
  | underdeclared hreach' hread hcovered hpaired hattached hdeclared =>
      obtain ⟨rfl, rfl⟩ := hreach.unique hreach'
      simp [hread, openingTrace]
  | bought hreach' hread hcovered hsuffices hexecutor =>
      obtain ⟨rfl, rfl⟩ := hreach.unique hreach'
      simp [hread, hexecutor]
  | refused hreach' hread hcovered hsuffices hexecutor =>
      obtain ⟨rfl, rfl⟩ := hreach.unique hreach'
      simp [hread, hexecutor]

end

/-! ### The evaluation as a whole -/

def BalanceLate (config : Config) (provider : Provider) (start deadline : Nat) (sender : Address) :
    Prop :=
  let delay := (provider.answer (Token.balanceOfCall config.target sender)).delay
  0 < delay ∧ deadline < start + delay

/-- A service other than the clock reports that the balance was not read in time: the provider in place
of the balance, or the executor that is asked for a purchase. -/
def TimeoutReported (config : Config) (provider : Provider) (executor : Reply Unit) (sender : Address)
    (trace : List Act) : Prop :=
  (provider.answer (Token.balanceOfCall config.target sender)).result =
      .error (Context.timeoutFault "balanceOf") ∨
    (purchasesIn trace ≠ [] ∧ executor.result = .error (Context.timeoutFault "balanceOf"))

/-- An evaluation ends by its deadline, but for the executor's delay, and a later deadline changes no decision
that was made in time. -/
theorem deadline_bounds_reads (entry : Entry) (config : Config) (tx : Transaction) (provider : Provider)
    (executor : Reply Unit) (start deadline : Nat) :
    let record := (entry.decide config tx).play provider executor (.withDeadline deadline) start
    record.finish ≤ max start deadline +
      (if purchasesIn record.trace = [] then 0 else executor.delay) ∧
    (∀ function sender legs, entry.Takes tx.data function →
      ReachesBalance config function tx sender legs →
      (record.result = .error (Context.timeoutFault "balanceOf") ↔
        BalanceLate config provider start deadline sender ∨
          TimeoutReported config provider executor sender record.trace)) ∧
    ∀ relaxed : Context, (∀ later, relaxed.deadline = some later → deadline ≤ later) →
      (∀ function sender legs, entry.Takes tx.data function →
        ReachesBalance config function tx sender legs →
        ¬ BalanceLate config provider start deadline sender) →
      Agree record ((entry.decide config tx).play provider executor relaxed start) := by
  refine ⟨?_, ?_, ?_⟩
  · by_cases htakes : ∃ function, entry.Takes tx.data function
    · obtain ⟨function, hfunction⟩ := htakes
      exact finish_le_of_course rfl (Entry.course_of_takes hfunction)
    · rw [Entry.play_of_not_takes htakes]
      exact Nat.le_max_left start deadline
  · intro function sender legs htakes hreach
    rw [result_eq_error_iff_of_reach hreach (Entry.course_of_takes htakes),
      balanceRead_eq_timeout_iff, Context.not_inTime_withDeadline_iff, or_assoc]
    rfl
  · intro relaxed hrelaxed hlate
    refine (alike_of_balance fun function sender legs htakes hreach => ?_).agree
    have htime : (Context.withDeadline deadline).InTime
        (provider.answer (Token.balanceOfCall config.target sender)).delay start := by
      by_contra hnot
      exact hlate function sender legs htakes hreach (Context.not_inTime_withDeadline_iff.mp hnot)
    have htime' := htime.relax fun later hlater => ⟨deadline, rfl, hrelaxed later hlater⟩
    rw [balanceRead_of_inTime htime, balanceRead_of_inTime htime']

def sampleProvider : Provider where
  balance := ⟨.ok samplePair.amountAMin.toBytes, 5⟩
  symbol := ⟨.ok ((32 : Word).toBytes ++ (4 : Word).toBytes ++ [0x57, 0x42, 0x4e, 0x42]), 50⟩
  balances := []
  networkId := .ok 56

theorem sampleAddition_balanceRead :
    balanceRead sampleConfig sampleProvider (.withDeadline 60) 0
      ⟨0x17c5185167401ed00cf5f5b2fc97d9bbfdb7d025⟩ = (.ok samplePair.amountAMin, 5) := by
  rw [balanceRead, readOf, Provider.answer_of_not_own (p := sampleProvider) rfl, Provider.usual_balanceOfCall]
  decide +kernel

theorem sampleAddition_deadlines :
    ((Entry.add.decide sampleConfig sampleAddition).play sampleProvider ⟨.ok (), 7⟩
        (.withDeadline 3) 0).result = .error (Context.timeoutFault "balanceOf") ∧
      Agree
        ((Entry.add.decide sampleConfig sampleAddition).play sampleProvider ⟨.ok (), 7⟩
          (.withDeadline 20) 0)
        ((Entry.add.decide sampleConfig sampleAddition).play sampleProvider ⟨.ok (), 7⟩
          .background 0) := by
  have hdelay (sender : Address) :
      (sampleProvider.answer (Token.balanceOfCall sampleConfig.target sender)).delay = 5 := by
    rw [Provider.answer_of_not_own (p := sampleProvider) rfl, Provider.usual_balanceOfCall]
    rfl
  constructor
  · refine ((deadline_bounds_reads .add sampleConfig sampleAddition sampleProvider ⟨.ok (), 7⟩ 0 3).2.1
      .addLiquidity _ _ rfl sampleAddition_reaches).mpr (.inl ?_)
    rw [BalanceLate, hdelay]
    decide
  · refine (deadline_bounds_reads .add sampleConfig sampleAddition sampleProvider ⟨.ok (), 7⟩ 0
      20).2.2 .background ?_ ?_
    · intro later hlater
      cases hlater
    · intro function sender legs _ _
      rw [BalanceLate, hdelay]
      decide

end LiquidityTrigger
