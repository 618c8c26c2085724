import LiquidityTrigger.Proofs.Evaluation.Deadline

/-!
# A symbol is only displayed

The symbol of a token is what that token's contract says it is. It is read last, when the evaluation has
already decided against a purchase, and whatever the contract answers becomes a text. So nothing that is
decided depends on it, and an evaluation that does not ask for it is the same for every answer.
-/

namespace LiquidityTrigger

section

variable {config : Config} {function : LiquidityFunction} {tx : Transaction} {provider : Provider}
  {executor : Reply Unit} {ctx : Context} {start : Nat} {record : Record Outcome}

theorem paired_of_reach_native {sender : Address} {legs : Legs}
    (hreach : ReachesBalance config .addLiquidityETH tx sender legs) :
    ∃ declaredMin, legs.paired = .native declaredMin := by
  obtain ⟨⟨intent, hdecode, hlegs⟩, -⟩ := hreach
  obtain ⟨-, rfl⟩ := Intent.decode_eq_ok_iff.mp hdecode
  change (NativeAddition.ofSlots tx.data).legs config = some legs at hlegs
  rw [NativeAddition.legs] at hlegs
  split at hlegs
  · cases hlegs
    exact ⟨_, rfl⟩
  · cases hlegs

theorem symbolCall_not_mem_opening {token sender : Address} :
    Token.symbolCall token ∉ callsIn (openingTrace config function tx sender) := by
  intro h
  have hcall : Token.symbolCall token = Token.balanceOfCall config.target sender := by
    simpa [openingTrace] using h
  exact Token.symbolCall_ne_balanceOfCall _ _ _ hcall

/-- A symbol is asked for only of a paired token and only for a diagnostic, which holds it as a text. -/
theorem symbol_of_course {token : Address}
    (hcourse : Course config function tx provider executor ctx start record)
    (hcall : Token.symbolCall token ∈ callsIn record.trace) :
    function = .addLiquidity ∧ ∃ observed text,
      record.result =
        .ok (.suppressed (.belowThreshold ⟨observed, config.minLiquidity, some text⟩)) := by
  cases hcourse with
  | undecodable hdecode => simp at hcall
  | senderless hdecode hsender => simp at hcall
  | irrelevant hdecode hsender hlegs => simp at hcall
  | balanceless hreach hread => exact absurd hcall symbolCall_not_mem_opening
  | uncovered hreach hread hshort =>
      exact absurd (by simpa using hcall) symbolCall_not_mem_opening
  | scarcePair hreach hread hcovered hpaired hscarce hsymbol =>
      refine ⟨?_, _, _, rfl⟩
      cases function with
      | addLiquidity => rfl
      | addLiquidityETH =>
          obtain ⟨declaredMin, hnative⟩ := paired_of_reach_native hreach
          rw [hpaired] at hnative
          cases hnative
  | scarceNative hreach hread hcovered hpaired hscarce =>
      exact absurd (by simpa using hcall) symbolCall_not_mem_opening
  | underdeclared hreach hread hcovered hpaired hattached hdeclared =>
      exact absurd (by simpa using hcall) symbolCall_not_mem_opening
  | bought hreach hread hcovered hsuffices hexecutor =>
      exact absurd (by simpa using hcall) symbolCall_not_mem_opening
  | refused hreach hread hcovered hsuffices hexecutor =>
      exact absurd (by simpa using hcall) symbolCall_not_mem_opening

theorem native_diagnostic_of_course {diagnostic : Diagnostic}
    (hcourse : Course config .addLiquidityETH tx provider executor ctx start record)
    (hresult : record.result = .ok (.suppressed (.belowThreshold diagnostic))) :
    diagnostic.symbol = none := by
  cases hcourse with
  | undecodable hdecode => cases hresult
  | senderless hdecode hsender => cases hresult
  | irrelevant hdecode hsender hlegs => cases hresult
  | balanceless hreach hread => cases hresult
  | uncovered hreach hread hshort => cases hresult
  | scarcePair hreach hread hcovered hpaired hscarce hsymbol =>
      obtain ⟨declaredMin, hnative⟩ := paired_of_reach_native hreach
      rw [hpaired] at hnative
      cases hnative
  | scarceNative hreach hread hcovered hpaired hscarce =>
      cases hresult
      rfl
  | underdeclared hreach hread hcovered hpaired hattached hdeclared => cases hresult
  | bought hreach hread hcovered hsuffices hexecutor => cases hresult
  | refused hreach hread hcovered hsuffices hexecutor => cases hresult

theorem deadline_of_course (hcourse : Course config function tx provider executor ctx start record) :
    ∀ purchase ∈ purchasesIn record.trace, purchase.deadline = ctx.deadline := by
  intro purchase hpurchase
  rcases purchasesIn_of_course hcourse with ⟨hone, -⟩ | ⟨hnone, -⟩
  · rw [hone, List.mem_singleton] at hpurchase
    rw [hpurchase]
  · rw [hnone] at hpurchase
    cases hpurchase

end

/-! ### Records that are alike -/

section

variable {config : Config} {tx : Transaction} {deadline : Option Nat} {a b : Record Outcome}
  (h : Alike config tx deadline a b)
  (hown : ∀ purchase ∈ purchasesIn a.trace, purchase.deadline = deadline)

include h hown

theorem Alike.purchases_eq : purchasesIn a.trace = purchasesIn b.trace := by
  cases h with
  | same =>
      have htrace : (a.under deadline).trace = a.trace := map_under_eq_self hown
      rw [htrace]
  | diagnosed => simp

theorem Alike.eq_of_symbolless (hcalls : ∀ token, Token.symbolCall token ∉ callsIn a.trace) :
    b = a := by
  cases h with
  | same =>
      have htrace : a.trace.map (Act.under deadline) = a.trace := map_under_eq_self hown
      rw [Record.under, htrace]
  | diagnosed observed token sender function first second =>
      exact absurd (by simp) (hcalls token)

end

/-- Whatever is answered but for the balance of the target, an evaluation comes to the same result, up to
the text of a symbol. -/
theorem symbol_does_not_interfere (entry : Entry) (config : Config) (tx : Transaction)
    (provider provider' : Provider) (executor : Reply Unit) (ctx : Context) (start : Nat)
    (hbalance : ∀ account, provider.answer (Token.balanceOfCall config.target account) =
      provider'.answer (Token.balanceOfCall config.target account)) :
    let record := (entry.decide config tx).play provider executor ctx start
    let record' := (entry.decide config tx).play provider' executor ctx start
    ResultsAgree record.result record'.result ∧
    callsIn record.trace = callsIn record'.trace ∧
    purchasesIn record.trace = purchasesIn record'.trace ∧
    (∀ token, Token.symbolCall token ∈ callsIn record.trace → ∃ observed text, record.result =
      .ok (.suppressed (.belowThreshold ⟨observed, config.minLiquidity, some text⟩))) ∧
    ((∀ token, Token.symbolCall token ∉ callsIn record.trace) → record' = record) ∧
    (entry.Takes tx.data .addLiquidityETH →
      (∀ token, Token.symbolCall token ∉ callsIn record.trace) ∧
      ∀ diagnostic, record.result = .ok (.suppressed (.belowThreshold diagnostic)) →
        diagnostic.symbol = none) := by
  intro record record'
  have halike : Alike config tx ctx.deadline record record' := by
    refine alike_of_balance fun _ sender _ _ _ => ?_
    rw [balanceRead, balanceRead, readOf, readOf, hbalance]
  have hown : ∀ purchase ∈ purchasesIn record.trace, purchase.deadline = ctx.deadline := by
    by_cases htakes : ∃ function, entry.Takes tx.data function
    · obtain ⟨function, hfunction⟩ := htakes
      exact deadline_of_course (Entry.course_of_takes hfunction)
    · simp [record, Entry.play_of_not_takes htakes]
  refine ⟨halike.agree.results, halike.agree.calls, halike.purchases_eq hown, ?_,
    halike.eq_of_symbolless hown, ?_⟩
  · intro token hcall
    by_cases htakes : ∃ function, entry.Takes tx.data function
    · obtain ⟨function, hfunction⟩ := htakes
      exact (symbol_of_course (Entry.course_of_takes hfunction) hcall).2
    · simp [record, Entry.play_of_not_takes htakes] at hcall
  · intro hnative
    refine ⟨fun token hcall => ?_,
      fun diagnostic => native_diagnostic_of_course (Entry.course_of_takes hnative)⟩
    have hpair := (symbol_of_course (Entry.course_of_takes hnative) hcall).1
    cases hpair

/-- The contract of the paired token answers whatever it is asked by something broken, and that late. -/
def hostileProvider : Provider :=
  { sampleProvider with
    own := fun call => if call.target = sampleConfig.paired then some ⟨.ok [0xff], 1000000⟩ else none }

theorem sampleAddition_scarce :
    let record := (Entry.add.decide sampleConfig sampleAddition).play sampleProvider ⟨.ok (), 7⟩
      (.withDeadline 60) 0
    (∃ diagnostic, record.result = .ok (.suppressed (.belowThreshold diagnostic))) ∧
      Token.symbolCall sampleConfig.paired ∈ callsIn record.trace := by
  obtain ⟨⟨symbol, later⟩, hsymbol⟩ :
      ∃ read, symbolRead sampleProvider (.withDeadline 60) 5 sampleConfig.paired = read := ⟨_, rfl⟩
  have hdecide : Entry.add.decide sampleConfig sampleAddition =
      evaluate sampleConfig .addLiquidity sampleAddition := rfl
  rw [hdecide, play_of_course (.scarcePair sampleAddition_reaches sampleAddition_balanceRead (by decide)
    rfl (by decide) hsymbol)]
  exact ⟨⟨_, rfl⟩, by simp⟩

theorem sampleAddition_symbols :
    (∀ account, sampleProvider.answer (Token.balanceOfCall sampleConfig.target account) =
      hostileProvider.answer (Token.balanceOfCall sampleConfig.target account)) ∧
    ResultsAgree
      ((Entry.add.decide sampleConfig sampleAddition).play sampleProvider ⟨.ok (), 7⟩
        (.withDeadline 60) 0).result
      ((Entry.add.decide sampleConfig sampleAddition).play hostileProvider ⟨.ok (), 7⟩
        (.withDeadline 60) 0).result ∧
    (∃ observed text,
      ((Entry.add.decide sampleConfig sampleAddition).play sampleProvider ⟨.ok (), 7⟩
        (.withDeadline 60) 0).result = .ok (.suppressed (.belowThreshold
          ⟨observed, sampleConfig.minLiquidity, some text⟩))) ∧
    (Entry.addEth.decide sampleConfig sampleAddition).play hostileProvider ⟨.ok (), 7⟩
        (.withDeadline 60) 0 =
      (Entry.addEth.decide sampleConfig sampleAddition).play sampleProvider ⟨.ok (), 7⟩
        (.withDeadline 60) 0 := by
  have hbalance (account : Address) :
      sampleProvider.answer (Token.balanceOfCall sampleConfig.target account) =
        hostileProvider.answer (Token.balanceOfCall sampleConfig.target account) := by
    have hother : sampleConfig.target ≠ sampleConfig.paired := by decide
    have hnone : hostileProvider.own (Token.balanceOfCall sampleConfig.target account) = none := by
      simp only [hostileProvider, Token.balanceOfCall, if_neg hother]
    have husual (call : Call) : hostileProvider.usual call = sampleProvider.usual call := rfl
    rw [Provider.answer_of_not_own (p := sampleProvider) rfl, Provider.answer_of_not_own hnone, husual]
  obtain ⟨hresults, -, -, hasked, -, -⟩ := symbol_does_not_interfere .add sampleConfig sampleAddition
    sampleProvider hostileProvider ⟨.ok (), 7⟩ (.withDeadline 60) 0 hbalance
  obtain ⟨-, -, -, -, hsymbolless, hnative⟩ := symbol_does_not_interfere .addEth sampleConfig
    sampleAddition sampleProvider hostileProvider ⟨.ok (), 7⟩ (.withDeadline 60) 0 hbalance
  exact ⟨hbalance, hresults, hasked _ sampleAddition_scarce.2, hsymbolless (hnative rfl).1⟩

end LiquidityTrigger
