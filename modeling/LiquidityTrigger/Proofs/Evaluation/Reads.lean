import LiquidityTrigger.Proofs.Evaluation.Promise
import LiquidityTrigger.Proofs.Evaluation.Symbol

/-!
# What is read of the chain

An evaluation reads at most twice: the balance of the sender first, and behind it the symbol of the
paired token, for a diagnostic. The two calls are spelled out here byte by byte, so that
`process_reads` says which contract is asked, with which payload, in which order and under which
conditions on the transaction.
-/

namespace LiquidityTrigger

/-- The call that reads a sender's balance of the target: a selector and one padded address. -/
def balanceRequest (config : Config) (sender : Address) : Call :=
  ⟨config.target, [0x70, 0xa0, 0x82, 0x31] ++ List.replicate 12 0 ++ sender.toBytes⟩

/-- The call that reads the paired token's symbol: a selector alone. -/
def symbolRequest (config : Config) : Call := ⟨config.paired, [0x95, 0xd8, 0x9b, 0x41]⟩

theorem balanceOfCall_eq (config : Config) (sender : Address) :
    Token.balanceOfCall config.target sender = balanceRequest config sender := by
  rw [balanceRequest, ← Token.balanceOfSelector_eq, List.append_assoc, ← Address.toBytes_toWord,
    ← Token.data_balanceOfCall config.target]
  rfl

theorem symbolCall_eq (config : Config) : Token.symbolCall config.paired = symbolRequest config := by
  rw [Token.symbolCall, Token.symbolSelector_eq, symbolRequest]

theorem balanceRequest_ne_symbolRequest (config : Config) (sender : Address) :
    balanceRequest config sender ≠ symbolRequest config := by
  rw [← balanceOfCall_eq, ← symbolCall_eq]
  exact (Token.symbolCall_ne_balanceOfCall _ _ _).symm

section

variable (config : Config) (function : LiquidityFunction) (tx : Transaction) (provider : Provider)
  (ctx : Context) (start : Nat)

/-- The transaction ends before anything is read: the payload is too short, the sender unknown or the
configured pair not involved. -/
def EndsUnread : Prop :=
  tx.data.length < (Intent.layout function).size ∨
    (∃ rejection, tx.sender config.chainId = .error rejection) ∨ ¬ tx.Concerns config function

/-- A diagnostic with a symbol is called for: two tokens are added, the balance is read and covers what
is promised, and the paired token's least amount is not above the least liquidity. -/
def CallsForSymbol (sender : Address) : Prop :=
  function = .addLiquidity ∧
    (∃ balance, (balanceRead config provider ctx start sender).1 = .ok balance ∧
      tx.promised config function ≤ balance) ∧
    tx.opposed config function ≤ config.minLiquidity

end

def ReadsEndWithPurchase (trace : List Act) : Prop :=
  trace.Pairwise fun earlier later =>
    ∀ purchase call, ¬ (earlier = .purchased purchase ∧ later = .called call)

section

variable {config : Config} {function : LiquidityFunction} {tx : Transaction} {provider : Provider}
  {executor : Reply Unit} {ctx : Context} {start : Nat} {record : Record Outcome} {sender : Address}
  {legs : Legs}

theorem not_endsUnread_of_reach (hreach : ReachesBalance config function tx sender legs) :
    ¬ EndsUnread config function tx := by
  obtain ⟨hlong, hsender, hconcerns, -⟩ := reachesBalance_iff.mp hreach
  intro h
  rcases h with hshort | ⟨rejection, hrejected⟩ | hnot
  · exact Nat.not_lt.mpr hlong hshort
  · rw [hsender] at hrejected
    cases hrejected
  · exact hnot hconcerns

theorem not_callsForSymbol_of_native (hreach : ReachesBalance config function tx sender legs)
    {declaredMin : Word} (hpaired : legs.paired = .native declaredMin) :
    ¬ CallsForSymbol config function tx provider ctx start sender := by
  obtain ⟨-, -, -, rfl⟩ := reachesBalance_iff.mp hreach
  obtain ⟨hfunction, -⟩ := Transaction.pairedLeg_eq_native_iff.mp hpaired
  intro hcalls
  cases hcalls.1.symm.trans hfunction

theorem not_callsForSymbol_of_suffices (hreach : ReachesBalance config function tx sender legs)
    (hsuffices : legs.paired.Suffices config tx) :
    ¬ CallsForSymbol config function tx provider ctx start sender := by
  obtain ⟨-, -, -, rfl⟩ := reachesBalance_iff.mp hreach
  obtain ⟨hopposed, -⟩ := Transaction.pairedLeg_suffices_iff.mp hsuffices
  intro hcalls
  exact BitVec.not_le.mpr hopposed hcalls.2.2

/-- A course reads nothing, or the balance and behind it the symbol if a diagnostic calls for it. -/
theorem callsIn_of_course (hcourse : Course config function tx provider executor ctx start record) :
    (callsIn record.trace = [] ∧ EndsUnread config function tx) ∨
      ∃ sender legs, ReachesBalance config function tx sender legs ∧
        ((callsIn record.trace = [balanceRequest config sender, symbolRequest config] ∧
            CallsForSymbol config function tx provider ctx start sender) ∨
          (callsIn record.trace = [balanceRequest config sender] ∧
            ¬ CallsForSymbol config function tx provider ctx start sender)) := by
  cases hcourse with
  | undecodable hdecode => exact .inl ⟨rfl, .inl (Intent.decode_eq_error_iff.mp hdecode).1⟩
  | senderless hdecode hsender => exact .inl ⟨rfl, .inr (.inl ⟨_, hsender⟩)⟩
  | irrelevant hdecode hsender hlegs =>
      exact .inl ⟨rfl, .inr (.inr (Transaction.not_concerns_of_decode hdecode hlegs))⟩
  | @balanceless sender legs fault now hreach hread =>
      refine .inr ⟨sender, legs, hreach, .inr ⟨by simp [openingTrace, balanceOfCall_eq], ?_⟩⟩
      intro hcalls
      obtain ⟨-, ⟨balance, hok, -⟩, -⟩ := hcalls
      rw [hread] at hok
      cases hok
  | @uncovered sender legs balance now hreach hread hshort =>
      refine .inr ⟨sender, legs, hreach, .inr ⟨by simp [openingTrace, balanceOfCall_eq], ?_⟩⟩
      intro hcalls
      obtain ⟨-, ⟨balance', hok, hcovered⟩, -⟩ := hcalls
      rw [hread] at hok
      cases hok
      obtain ⟨-, -, -, rfl⟩ := reachesBalance_iff.mp hreach
      exact BitVec.not_lt.mpr hcovered hshort
  | @scarcePair sender legs balance now token minAmount symbol later hreach hread hcovered hpaired
      hscarce hsymbol =>
      have hlegs := (reachesBalance_iff.mp hreach).2.2.2
      rw [hlegs] at hcovered hpaired
      obtain ⟨hfunction, rfl, rfl⟩ := Transaction.pairedLeg_eq_token_iff.mp hpaired
      refine .inr ⟨sender, legs, hreach, .inl ⟨?_, hfunction, ⟨balance, by rw [hread], hcovered⟩, hscarce⟩⟩
      simp [openingTrace, balanceOfCall_eq, symbolCall_eq]
  | @scarceNative sender legs balance now declaredMin hreach hread hcovered hpaired hscarce =>
      exact .inr ⟨sender, legs, hreach, .inr ⟨by simp [openingTrace, balanceOfCall_eq],
        not_callsForSymbol_of_native hreach hpaired⟩⟩
  | @underdeclared sender legs balance now declaredMin hreach hread hcovered hpaired hattached
      hdeclared =>
      exact .inr ⟨sender, legs, hreach, .inr ⟨by simp [openingTrace, balanceOfCall_eq],
        not_callsForSymbol_of_native hreach hpaired⟩⟩
  | @bought sender legs balance now hreach hread hcovered hsuffices hexecutor =>
      exact .inr ⟨sender, legs, hreach, .inr ⟨by simp [openingTrace, balanceOfCall_eq],
        not_callsForSymbol_of_suffices hreach hsuffices⟩⟩
  | @refused sender legs balance now fault hreach hread hcovered hsuffices hexecutor =>
      exact .inr ⟨sender, legs, hreach, .inr ⟨by simp [openingTrace, balanceOfCall_eq],
        not_callsForSymbol_of_suffices hreach hsuffices⟩⟩

theorem callsIn_eq_nil_iff_of_course
    (hcourse : Course config function tx provider executor ctx start record) :
    callsIn record.trace = [] ↔ EndsUnread config function tx := by
  rcases callsIn_of_course hcourse with ⟨hnone, hunread⟩ | ⟨sender, legs, hreach, hcalls⟩
  · exact iff_of_true hnone hunread
  · refine iff_of_false ?_ (not_endsUnread_of_reach hreach)
    rcases hcalls with ⟨htwo, -⟩ | ⟨hone, -⟩
    · rw [htwo]
      exact List.cons_ne_nil _ _
    · rw [hone]
      exact List.cons_ne_nil _ _

theorem nodup_callsIn_of_course
    (hcourse : Course config function tx provider executor ctx start record) :
    (callsIn record.trace).Nodup := by
  rcases callsIn_of_course hcourse with ⟨hnone, -⟩ | ⟨sender, legs, -, ⟨htwo, -⟩ | ⟨hone, -⟩⟩
  · rw [hnone]
    exact List.nodup_nil
  · rw [htwo]
    simp [balanceRequest_ne_symbolRequest]
  · rw [hone]
    simp

theorem readsEndWithPurchase_of_course
    (hcourse : Course config function tx provider executor ctx start record) :
    ReadsEndWithPurchase record.trace := by
  cases hcourse <;> simp [ReadsEndWithPurchase, openingTrace]

end

/-- The balance is read and then the symbol, each at most once, and nothing behind a balance that could not
be read or behind a purchase. -/
theorem process_reads (config : Config) (tx : Transaction) (provider : Provider)
    (executor : Reply Unit) (ctx : Context) (start : Nat) :
    let record := (process config tx).play provider executor ctx start
    ((∀ function : LiquidityFunction, tx.data.take 4 ≠ function.selector) →
      process config tx = pure (.suppressed .unsupportedFunction)) ∧
    (callsIn record.trace = [] ↔ ∀ function : LiquidityFunction, tx.data.take 4 = function.selector →
      EndsUnread config function tx) ∧
    (∀ function : LiquidityFunction, tx.data.take 4 = function.selector →
      ¬ EndsUnread config function tx → ∃ sender, tx.sender config.chainId = .ok sender ∧
        ((callsIn record.trace = [balanceRequest config sender, symbolRequest config] ∧
            CallsForSymbol config function tx provider ctx start sender) ∨
          (callsIn record.trace = [balanceRequest config sender] ∧
            ¬ CallsForSymbol config function tx provider ctx start sender))) ∧
    (callsIn record.trace).Nodup ∧ ReadsEndWithPurchase record.trace := by
  intro record
  by_cases htakes : ∃ function : LiquidityFunction, tx.data.take 4 = function.selector
  · obtain ⟨function, hfunction⟩ := htakes
    have hother {other : LiquidityFunction} (h : tx.data.take 4 = other.selector) :
        other = function := LiquidityFunction.selector_injective (h.symm.trans hfunction)
    have htakes : Entry.process.Takes tx.data function := hfunction
    have hcourse : Course config function tx provider executor ctx start record :=
      Entry.course_of_takes htakes
    refine ⟨fun hnot => absurd hfunction (hnot function), ⟨fun hnone other h => ?_, fun hall => ?_⟩,
      fun other h hread => ?_, nodup_callsIn_of_course hcourse,
      readsEndWithPurchase_of_course hcourse⟩
    · rw [hother h]
      exact (callsIn_eq_nil_iff_of_course hcourse).mp hnone
    · exact (callsIn_eq_nil_iff_of_course hcourse).mpr (hall function hfunction)
    · rw [hother h] at hread ⊢
      rcases callsIn_of_course hcourse with ⟨-, hunread⟩ | ⟨sender, legs, hreach, hcalls⟩
      · exact absurd hunread hread
      · exact ⟨sender, hreach.signer, hcalls⟩
  · have hnone (function : LiquidityFunction) : tx.data.take 4 ≠ function.selector :=
      fun h => htakes ⟨function, h⟩
    have hnot : ¬ ∃ function, Entry.process.Takes tx.data function := htakes
    have hdrop : record = ⟨.ok (.suppressed .unsupportedFunction), start, []⟩ :=
      Entry.play_of_not_takes hnot
    have hprocess : process config tx = pure (.suppressed .unsupportedFunction) := by
      cases hdetect : LiquidityFunction.detect tx.data with
      | none => rw [process, hdetect]
      | some function => exact absurd (LiquidityFunction.detect_eq_some_iff.mp hdetect) (hnone function)
    rw [hdrop]
    exact ⟨fun _ => hprocess, iff_of_true rfl fun function h => absurd h (hnone function),
      fun function h => absurd h (hnone function), List.nodup_nil, List.Pairwise.nil⟩

def sampleSender : Address := ⟨0x17c5185167401ed00cf5f5b2fc97d9bbfdb7d025⟩

theorem sampleAddition_reads :
    sampleAddition.data.take 4 = LiquidityFunction.addLiquidity.selector ∧
      ¬ EndsUnread sampleConfig .addLiquidity sampleAddition ∧
      callsIn ((process sampleConfig sampleAddition).play sampleProvider ⟨.ok (), 7⟩
          (.withDeadline 60) 0).trace =
        [balanceRequest sampleConfig sampleSender, symbolRequest sampleConfig] := by
  have hselector : sampleAddition.data.take 4 = LiquidityFunction.addLiquidity.selector := by
    rw [LiquidityFunction.selector_addLiquidity]
    decide +kernel
  have hread := not_endsUnread_of_reach sampleAddition_reaches
  refine ⟨hselector, hread, ?_⟩
  obtain ⟨sender, hsender, hcalls⟩ := (process_reads sampleConfig sampleAddition sampleProvider
    ⟨.ok (), 7⟩ (.withDeadline 60) 0).2.2.1 .addLiquidity hselector hread
  rw [sampleAddition_reaches.signer] at hsender
  cases hsender
  rcases hcalls with ⟨htwo, -⟩ | ⟨-, hnot⟩
  · exact htwo
  · refine absurd ⟨rfl, ⟨samplePair.amountAMin, ?_, ?_⟩, ?_⟩ hnot
    · rw [sampleAddition_balanceRead]
    · decide +kernel
    · decide +kernel

end LiquidityTrigger
