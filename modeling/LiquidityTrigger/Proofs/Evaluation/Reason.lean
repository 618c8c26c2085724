import LiquidityTrigger.Proofs.Evaluation.Promise
import LiquidityTrigger.Proofs.Evaluation.Symbol

/-!
# Why no purchase is made

There are seven reasons not to purchase, looked for in a fixed order. `Reason.Holds` says when a reason
is true, whatever else is wrong with the transaction, and `Reason.ShownBy` what an evaluation then gives.
`first_reason_shown` ties the two together: a reason is shown exactly when it is true and none that comes
before it is. So a fault or a suppression always states the first true reason, with the numbers that make
it true.
-/

namespace LiquidityTrigger

inductive Reason where
  /-- The payload is shorter than its layout. -/
  | tooShort
  /-- No sender can be recovered from the signature. -/
  | senderless (detail : String)
  /-- The configured pair is not involved. -/
  | unrelated
  /-- The sender's balance cannot be read. -/
  | unread (fault : Fault)
  /-- The sender owns less of the target than it promises. -/
  | uncovered (balance : Word)
  /-- Too little stands against the target. -/
  | scarce
  /-- Too little of the chain's own currency is declared. -/
  | underdeclared

/-- The place of a reason in the order in which they are looked for. -/
def Reason.rank : Reason → Nat
  | .tooShort => 0
  | .senderless _ => 1
  | .unrelated => 2
  | .unread _ => 3
  | .uncovered _ => 4
  | .scarce => 5
  | .underdeclared => 6

section

variable (config : Config) (function : LiquidityFunction) (tx : Transaction) (provider : Provider)
  (ctx : Context) (start : Nat)

def BalanceGives (result : Except Fault Word) : Prop :=
  ∃ sender, tx.sender config.chainId = .ok sender ∧
    (balanceRead config provider ctx start sender).1 = result

/-- A reason is true of a transaction, each apart from all others. -/
def Reason.Holds : Reason → Prop
  | .tooShort => tx.data.length < (Intent.layout function).size
  | .senderless detail =>
      ∃ rejection, tx.sender config.chainId = .error rejection ∧ rejection.detail = detail
  | .unrelated => ¬ tx.Concerns config function
  | .unread fault => BalanceGives config tx provider ctx start (.error fault)
  | .uncovered balance =>
      BalanceGives config tx provider ctx start (.ok balance) ∧ balance < tx.promised config function
  | .scarce => tx.opposed config function ≤ config.minLiquidity
  | .underdeclared => function = .addLiquidityETH ∧ tx.declaredNative ≤ config.minLiquidity

def Reason.NoneBefore (place : Nat) : Prop :=
  ∀ other : Reason, other.Holds config function tx provider ctx start → place ≤ other.rank

/-- A reason is true and none that comes before it is. -/
def Reason.IsFirst (reason : Reason) : Prop :=
  reason.Holds config function tx provider ctx start ∧
    NoneBefore config function tx provider ctx start reason.rank

/-- What an evaluation leaves that states a reason. A service can report any fault, so a fault states one
of the transaction only if nobody has been asked for anything. -/
def Reason.ShownBy (record : Record Outcome) : Reason → Prop
  | .tooShort => record.trace = [] ∧ record.result = .error
      (.calldata (Intent.layout function).name (Intent.layout function).size tx.data.length)
  | .senderless detail => record.trace = [] ∧ record.result = .error (.signature detail)
  | .unrelated => record.result = .ok (.suppressed .notRelevant)
  | .unread fault =>
      callsIn record.trace ≠ [] ∧ purchasesIn record.trace = [] ∧ record.result = .error fault
  | .uncovered balance =>
      record.result = .ok (.suppressed (.implausibleBalance (tx.promised config function) balance))
  | .scarce => ∃ symbol, record.result =
      .ok (.suppressed (.belowThreshold ⟨tx.opposed config function, config.minLiquidity, symbol⟩))
  | .underdeclared => record.result =
      .ok (.suppressed (.declaredMinimumTooLow tx.declaredNative config.minLiquidity))

/-- The numbers in a suppression bear out its reason. -/
def Suppression.BorneOut : Suppression → Prop
  | .unsupportedFunction => False
  | .notRelevant => True
  | .implausibleBalance declared balance => balance < declared
  | .belowThreshold diagnostic =>
      diagnostic.observed ≤ diagnostic.expected ∧ diagnostic.expected = config.minLiquidity
  | .declaredMinimumTooLow declared expected =>
      function = .addLiquidityETH ∧ declared ≤ expected ∧ expected < tx.value ∧
        expected = config.minLiquidity

end

section

variable {config : Config} {function : LiquidityFunction} {tx : Transaction} {provider : Provider}
  {executor : Reply Unit} {ctx : Context} {start : Nat} {record : Record Outcome} {sender : Address}
  {legs : Legs} {reason other : Reason}

/-! ### One reason at each place, one reason shown -/

theorem BalanceGives.unique {result result' : Except Fault Word}
    (h : BalanceGives config tx provider ctx start result)
    (h' : BalanceGives config tx provider ctx start result') : result = result' := by
  obtain ⟨sender, hsender, hresult⟩ := h
  obtain ⟨sender', hsender', hresult'⟩ := h'
  rw [hsender] at hsender'
  cases hsender'
  exact hresult.symm.trans hresult'

theorem Reason.eq_of_rank (h : reason.Holds config function tx provider ctx start)
    (h' : other.Holds config function tx provider ctx start) (hrank : reason.rank = other.rank) :
    reason = other := by
  cases reason <;> cases other <;> try cases hrank
  case tooShort.tooShort => rfl
  case senderless.senderless =>
    obtain ⟨rejection, hsender, rfl⟩ := h
    obtain ⟨rejection', hsender', rfl⟩ := h'
    rw [hsender] at hsender'
    cases hsender'
    rfl
  case unrelated.unrelated => rfl
  case unread.unread =>
    cases h.unique h'
    rfl
  case uncovered.uncovered =>
    cases h.1.unique h'.1
    rfl
  case scarce.scarce => rfl
  case underdeclared.underdeclared => rfl

theorem Reason.ShownBy.unique (h : reason.ShownBy config function tx record)
    (h' : other.ShownBy config function tx record) : reason = other := by
  cases reason <;> cases other <;> simp_all [Reason.ShownBy]

/-! ### How far an evaluation comes -/

namespace Reason

theorem NoneBefore.next {place : Nat} (h : NoneBefore config function tx provider ctx start place)
    (hnot : ∀ reason : Reason, reason.rank = place →
      ¬ reason.Holds config function tx provider ctx start) :
    NoneBefore config function tx provider ctx start (place + 1) := by
  intro other hother
  refine Nat.lt_of_le_of_ne (h other hother) ?_
  intro hplace
  exact hnot other hplace.symm hother

theorem noneBefore_of_decoded {intent : Intent}
    (hdecode : Intent.decode function tx.data = .ok intent) :
    NoneBefore config function tx provider ctx start 1 := by
  refine NoneBefore.next (fun other _ => Nat.zero_le other.rank) ?_
  intro reason hrank h
  cases reason <;> cases hrank
  have hlong := (Intent.decode_eq_ok_iff.mp hdecode).1
  exact Nat.not_lt.mpr hlong h

theorem noneBefore_of_sender {intent : Intent}
    (hdecode : Intent.decode function tx.data = .ok intent)
    (hsender : tx.sender config.chainId = .ok sender) :
    NoneBefore config function tx provider ctx start 2 := by
  refine (noneBefore_of_decoded hdecode).next ?_
  intro reason hrank h
  cases reason <;> cases hrank
  obtain ⟨rejection, hrejected, -⟩ := h
  rw [hsender] at hrejected
  cases hrejected

section

variable (hreach : ReachesBalance config function tx sender legs)

include hreach

theorem noneBefore_of_reach : NoneBefore config function tx provider ctx start 3 := by
  obtain ⟨intent, hdecode, -⟩ := hreach.addition
  refine (noneBefore_of_sender hdecode hreach.signer).next ?_
  intro reason hrank h
  cases reason <;> cases hrank
  exact h (reachesBalance_iff.mp hreach).2.2.1

theorem balanceGives_of_read {result : Except Fault Word} {now : Nat}
    (hread : balanceRead config provider ctx start sender = (result, now)) :
    BalanceGives config tx provider ctx start result :=
  ⟨sender, hreach.signer, by rw [hread]⟩

variable {balance : Word} {now : Nat}
  (hread : balanceRead config provider ctx start sender = (.ok balance, now))

include hread

theorem noneBefore_of_read : NoneBefore config function tx provider ctx start 4 := by
  refine (noneBefore_of_reach hreach).next ?_
  intro reason hrank h
  cases reason <;> cases hrank
  cases (balanceGives_of_read hreach hread).unique h

variable (hcovered : legs.minTarget ≤ balance)

include hcovered

theorem noneBefore_of_covered : NoneBefore config function tx provider ctx start 5 := by
  refine (noneBefore_of_read hreach hread).next ?_
  intro reason hrank h
  cases reason <;> cases hrank
  obtain ⟨hgives, hshort⟩ := h
  cases (balanceGives_of_read hreach hread).unique hgives
  obtain ⟨-, -, -, rfl⟩ := reachesBalance_iff.mp hreach
  exact BitVec.not_lt.mpr hcovered hshort

theorem noneBefore_of_opposed (hopposed : config.minLiquidity < tx.opposed config function) :
    NoneBefore config function tx provider ctx start 6 := by
  refine (noneBefore_of_covered hreach hread hcovered).next ?_
  intro reason hrank h
  cases reason <;> cases hrank
  exact BitVec.not_le.mpr hopposed h

theorem not_holds_of_suffices (hsuffices : legs.paired.Suffices config tx) (reason : Reason) :
    ¬ reason.Holds config function tx provider ctx start := by
  obtain ⟨-, -, -, rfl⟩ := reachesBalance_iff.mp hreach
  obtain ⟨hopposed, hdeclared⟩ := Transaction.pairedLeg_suffices_iff.mp hsuffices
  have hnone : NoneBefore config function tx provider ctx start 7 := by
    refine (noneBefore_of_opposed hreach hread hcovered hopposed).next ?_
    intro reason hrank h
    cases reason <;> cases hrank
    exact BitVec.not_le.mpr (hdeclared h.1) h.2
  intro h
  have hrank := hnone reason h
  cases reason <;> simp [rank] at hrank

end

end Reason

/-! ### Every evaluation without a purchase shows its first reason -/

/-- A course either makes no purchase and shows the first reason, or makes one and there is none. -/
theorem reason_of_course (hcourse : Course config function tx provider executor ctx start record) :
    (purchasesIn record.trace = [] ∧ ∃ reason : Reason,
        reason.ShownBy config function tx record ∧
          reason.IsFirst config function tx provider ctx start) ∨
      (purchasesIn record.trace ≠ [] ∧
        record.result = executor.result.map (fun _ => .dispatched tx.gasPrice) ∧
        ∀ reason : Reason, ¬ reason.ShownBy config function tx record ∧
          ¬ reason.Holds config function tx provider ctx start) := by
  cases hcourse with
  | undecodable hdecode =>
      obtain ⟨hshort, rfl⟩ := Intent.decode_eq_error_iff.mp hdecode
      exact .inl ⟨rfl, .tooShort, ⟨rfl, rfl⟩, hshort, fun other _ => Nat.zero_le other.rank⟩
  | @senderless intent rejection hdecode hsender =>
      exact .inl ⟨rfl, .senderless rejection.detail, ⟨rfl, rfl⟩, ⟨rejection, hsender, rfl⟩,
        Reason.noneBefore_of_decoded hdecode⟩
  | irrelevant hdecode hsender hlegs =>
      exact .inl ⟨rfl, .unrelated, rfl, Transaction.not_concerns_of_decode hdecode hlegs,
        Reason.noneBefore_of_sender hdecode hsender⟩
  | @balanceless sender legs fault now hreach hread =>
      exact .inl ⟨rfl, .unread fault, ⟨List.cons_ne_nil _ _, rfl, rfl⟩,
        Reason.balanceGives_of_read hreach hread, Reason.noneBefore_of_reach hreach⟩
  | @uncovered sender legs balance now hreach hread hshort =>
      have hgives := Reason.balanceGives_of_read hreach hread
      have hnone := Reason.noneBefore_of_read hreach hread
      obtain ⟨-, -, -, rfl⟩ := reachesBalance_iff.mp hreach
      exact .inl ⟨rfl, .uncovered balance, rfl, ⟨hgives, hshort⟩, hnone⟩
  | scarcePair hreach hread hcovered hpaired hscarce hsymbol =>
      have hnone := Reason.noneBefore_of_covered hreach hread hcovered
      obtain ⟨-, -, -, rfl⟩ := reachesBalance_iff.mp hreach
      obtain ⟨rfl, rfl, rfl⟩ := Transaction.pairedLeg_eq_token_iff.mp hpaired
      exact .inl ⟨rfl, .scarce, ⟨_, rfl⟩, hscarce, hnone⟩
  | scarceNative hreach hread hcovered hpaired hscarce =>
      have hnone := Reason.noneBefore_of_covered hreach hread hcovered
      obtain ⟨-, -, -, rfl⟩ := reachesBalance_iff.mp hreach
      obtain ⟨rfl, rfl⟩ := Transaction.pairedLeg_eq_native_iff.mp hpaired
      exact .inl ⟨rfl, .scarce, ⟨_, rfl⟩, hscarce, hnone⟩
  | underdeclared hreach hread hcovered hpaired hattached hdeclared =>
      obtain ⟨-, -, -, hlegs⟩ := reachesBalance_iff.mp hreach
      rw [hlegs] at hpaired
      obtain ⟨rfl, rfl⟩ := Transaction.pairedLeg_eq_native_iff.mp hpaired
      exact .inl ⟨rfl, .underdeclared, rfl, ⟨rfl, hdeclared⟩,
        Reason.noneBefore_of_opposed hreach hread hcovered hattached⟩
  | bought hreach hread hcovered hsuffices hexecutor =>
      refine .inr ⟨by simp, by rw [hexecutor]; rfl, fun reason => ⟨?_,
        Reason.not_holds_of_suffices hreach hread hcovered hsuffices reason⟩⟩
      cases reason <;> simp [Reason.ShownBy]
  | refused hreach hread hcovered hsuffices hexecutor =>
      refine .inr ⟨by simp, by rw [hexecutor]; rfl, fun reason => ⟨?_,
        Reason.not_holds_of_suffices hreach hread hcovered hsuffices reason⟩⟩
      cases reason <;> simp [Reason.ShownBy]

theorem Suppression.borneOut_of_first {suppression : Suppression}
    (hshown : reason.ShownBy config function tx record)
    (hfirst : reason.IsFirst config function tx provider ctx start)
    (hresult : record.result = .ok (.suppressed suppression)) :
    suppression.BorneOut config function tx := by
  obtain ⟨hholds, hnone⟩ := hfirst
  cases reason with
  | tooShort => simp [hshown.2] at hresult
  | senderless detail => simp [hshown.2] at hresult
  | unrelated =>
      cases hshown.symm.trans hresult
      trivial
  | unread fault => simp [hshown.2.2] at hresult
  | uncovered balance =>
      cases hshown.symm.trans hresult
      exact hholds.2
  | scarce =>
      obtain ⟨symbol, hshown⟩ := hshown
      cases hshown.symm.trans hresult
      exact ⟨hholds, rfl⟩
  | underdeclared =>
      cases hshown.symm.trans hresult
      obtain ⟨rfl, hdeclared⟩ := hholds
      -- That enough is attached is known only because the reason before this one is not true.
      have hattached : config.minLiquidity < tx.value := by
        refine BitVec.not_le.mp fun hscarce => ?_
        have hrank := hnone .scarce hscarce
        simp [Reason.rank] at hrank
      exact ⟨rfl, hdeclared, hattached, rfl⟩

end

/-- A reason is shown exactly when it is the first one that is true, and none beside a purchase. -/
theorem first_reason_shown (entry : Entry) (config : Config) (function : LiquidityFunction)
    (tx : Transaction) (provider : Provider) (executor : Reply Unit) (ctx : Context) (start : Nat)
    (htakes : entry.Takes tx.data function) :
    let record := (entry.decide config tx).play provider executor ctx start
    (∀ reason : Reason, reason.ShownBy config function tx record ↔
      reason.IsFirst config function tx provider ctx start) ∧
    ((purchasesIn record.trace = [] ∧ ∃ reason : Reason, reason.ShownBy config function tx record) ∨
      (purchasesIn record.trace ≠ [] ∧
        record.result = executor.result.map (fun _ => .dispatched tx.gasPrice) ∧
        ∀ reason : Reason, ¬ reason.Holds config function tx provider ctx start)) ∧
    ∀ suppression, record.result = .ok (.suppressed suppression) →
      suppression.BorneOut config function tx := by
  intro record
  have hcourse : Course config function tx provider executor ctx start record :=
    Entry.course_of_takes htakes
  rcases reason_of_course hcourse with
    ⟨hnone, first, hshown, hfirst⟩ | ⟨hbought, hresult, hreasonless⟩
  · refine ⟨fun reason => ⟨fun h => ?_, fun h => ?_⟩, .inl ⟨hnone, first, hshown⟩,
      fun suppression => Suppression.borneOut_of_first hshown hfirst⟩
    · rwa [h.unique hshown]
    · have hrank : reason.rank = first.rank :=
        Nat.le_antisymm (h.2 first hfirst.1) (hfirst.2 reason h.1)
      rwa [Reason.eq_of_rank h.1 hfirst.1 hrank]
  · refine ⟨fun reason => ?_, .inr ⟨hbought, hresult, fun reason => (hreasonless reason).2⟩, ?_⟩
    · exact iff_of_false (hreasonless reason).1 fun h => (hreasonless reason).2 h.1
    · intro suppression hsuppressed
      rw [hresult] at hsuppressed
      cases hexecutor : executor.result <;> rw [hexecutor] at hsuppressed <;> cases hsuppressed

def sampleStump : Transaction :=
  { sampleAddition with data := [0xe8, 0xe3, 0x37, 0x00], signature := none }

theorem sampleAddition_reasons :
    Entry.add.Takes sampleStump.data .addLiquidity ∧
    Reason.tooShort.ShownBy sampleConfig .addLiquidity sampleStump
      ((Entry.add.decide sampleConfig sampleStump).play sampleProvider ⟨.ok (), 7⟩
        (.withDeadline 60) 0) ∧
    Entry.process.Takes sampleAddition.data .addLiquidity ∧
    Reason.scarce.ShownBy sampleConfig .addLiquidity sampleAddition
      ((Entry.process.decide sampleConfig sampleAddition).play sampleProvider ⟨.ok (), 7⟩
        (.withDeadline 60) 0) := by
  have hstump : Entry.add.Takes sampleStump.data .addLiquidity := rfl
  have haddition : Entry.process.Takes sampleAddition.data .addLiquidity := by
    rw [Entry.Takes, LiquidityFunction.selector_addLiquidity]
    decide +kernel
  refine ⟨hstump, ?_, haddition, ?_⟩
  · refine ((first_reason_shown .add sampleConfig .addLiquidity sampleStump sampleProvider ⟨.ok (), 7⟩
      (.withDeadline 60) 0 hstump).1 .tooShort).mpr ⟨?_, fun other _ => Nat.zero_le other.rank⟩
    rw [Reason.Holds]
    decide
  · refine ((first_reason_shown .process sampleConfig .addLiquidity sampleAddition sampleProvider
      ⟨.ok (), 7⟩ (.withDeadline 60) 0 haddition).1 .scarce).mpr ⟨?_,
        Reason.noneBefore_of_covered sampleAddition_reaches sampleAddition_balanceRead (by decide)⟩
    rw [Reason.Holds]
    decide +kernel

end LiquidityTrigger
