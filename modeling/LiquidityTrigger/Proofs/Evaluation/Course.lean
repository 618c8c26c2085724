import LiquidityTrigger.Proofs.Procedure

/-!
# The courses of an evaluation

An evaluation against scripted services goes one of ten ways. `Course` lists them as rules: what was
found out on the way, and the whole record that is left behind, with result, end and trace.
`course_evaluate` says that every evaluation takes one of them, and `play_of_course` that it takes no
other. A property of all evaluations is then one case for each rule, what two evaluations have in common
is found by taking the rule of the first for the second, and nothing behind this module unfolds
`evaluate`.
-/

namespace LiquidityTrigger

def PairedLeg.Suffices (config : Config) (tx : Transaction) : PairedLeg → Prop
  | .token _ minAmount => config.minLiquidity < minAmount
  | .native declaredMin => config.minLiquidity < tx.value ∧ config.minLiquidity < declaredMin

section

variable (config : Config) (function : LiquidityFunction) (tx : Transaction)
  (provider : Provider) (executor : Reply Unit) (ctx : Context) (start : Nat)

/-- The transaction is an addition to the configured pair from a known sender, so that the sender's
balance is asked for. -/
structure ReachesBalance (sender : Address) (legs : Legs) : Prop where
  addition : ∃ intent, Intent.decode function tx.data = .ok intent ∧ intent.legs config = some legs
  signer : tx.sender config.chainId = .ok sender

/-- What is made of the answer to a call, and when the wait for it ends. -/
def readOf {α : Type} (operation : String) (call : Call) (make : Except Fault Bytes → α) : α × Nat :=
  let waited := ctx.wait operation (provider.answer call) start
  (make waited.1, waited.2)

def balanceRead (sender : Address) : Except Fault Word × Nat :=
  readOf provider ctx start "balanceOf" (Token.balanceOfCall config.target sender)
    Token.balanceOfAnswer

def symbolRead (token : Address) : String × Nat :=
  readOf provider ctx start "symbol" (Token.symbolCall token) Token.symbolOfAnswer

def openingTrace (sender : Address) : List Act :=
  [.logged (.decoded tx.hash function sender), .called (Token.balanceOfCall config.target sender)]

/-- The ways in which an evaluation can go, with the records that they leave. -/
inductive Course : Record Outcome → Prop
  | undecodable {fault : Fault} (hdecode : Intent.decode function tx.data = .error fault) :
      Course ⟨.error fault, start, []⟩
  | senderless {intent : Intent} {rejection : SenderRejection}
      (hdecode : Intent.decode function tx.data = .ok intent)
      (hsender : tx.sender config.chainId = .error rejection) :
      Course ⟨.error rejection.toFault, start, []⟩
  | irrelevant {intent : Intent} {sender : Address}
      (hdecode : Intent.decode function tx.data = .ok intent)
      (hsender : tx.sender config.chainId = .ok sender) (hlegs : intent.legs config = none) :
      Course ⟨.ok (.suppressed .notRelevant), start, [.logged (.decoded tx.hash function sender)]⟩
  | balanceless {sender : Address} {legs : Legs} {fault : Fault} {now : Nat}
      (hreach : ReachesBalance config function tx sender legs)
      (hread : balanceRead config provider ctx start sender = (.error fault, now)) :
      Course ⟨.error fault, now, openingTrace config function tx sender⟩
  | uncovered {sender : Address} {legs : Legs} {balance : Word} {now : Nat}
      (hreach : ReachesBalance config function tx sender legs)
      (hread : balanceRead config provider ctx start sender = (.ok balance, now))
      (hshort : balance < legs.minTarget) :
      Course ⟨.ok (.suppressed (.implausibleBalance legs.minTarget balance)), now,
        openingTrace config function tx sender
          ++ [.logged (.insufficientBalance tx.hash legs.minTarget balance)]⟩
  | scarcePair {sender : Address} {legs : Legs} {balance : Word} {now : Nat} {token : Address}
      {minAmount : Word} {symbol : String} {later : Nat}
      (hreach : ReachesBalance config function tx sender legs)
      (hread : balanceRead config provider ctx start sender = (.ok balance, now))
      (hcovered : legs.minTarget ≤ balance) (hpaired : legs.paired = .token token minAmount)
      (hscarce : minAmount ≤ config.minLiquidity)
      (hsymbol : symbolRead provider ctx now token = (symbol, later)) :
      Course ⟨.ok (.suppressed (.belowThreshold ⟨minAmount, config.minLiquidity, some symbol⟩)), later,
        openingTrace config function tx sender
          ++ [.called (Token.symbolCall token),
            .logged (.diagnosed tx.hash ⟨minAmount, config.minLiquidity, some symbol⟩)]⟩
  | scarceNative {sender : Address} {legs : Legs} {balance : Word} {now : Nat} {declaredMin : Word}
      (hreach : ReachesBalance config function tx sender legs)
      (hread : balanceRead config provider ctx start sender = (.ok balance, now))
      (hcovered : legs.minTarget ≤ balance) (hpaired : legs.paired = .native declaredMin)
      (hscarce : tx.value ≤ config.minLiquidity) :
      Course ⟨.ok (.suppressed (.belowThreshold ⟨tx.value, config.minLiquidity, none⟩)), now,
        openingTrace config function tx sender
          ++ [.logged (.diagnosed tx.hash ⟨tx.value, config.minLiquidity, none⟩)]⟩
  | underdeclared {sender : Address} {legs : Legs} {balance : Word} {now : Nat} {declaredMin : Word}
      (hreach : ReachesBalance config function tx sender legs)
      (hread : balanceRead config provider ctx start sender = (.ok balance, now))
      (hcovered : legs.minTarget ≤ balance) (hpaired : legs.paired = .native declaredMin)
      (hattached : config.minLiquidity < tx.value) (hdeclared : declaredMin ≤ config.minLiquidity) :
      Course ⟨.ok (.suppressed (.declaredMinimumTooLow declaredMin config.minLiquidity)), now,
        openingTrace config function tx sender ++ [.logged (.declaredTooLow tx.hash declaredMin)]⟩
  | bought {sender : Address} {legs : Legs} {balance : Word} {now : Nat}
      (hreach : ReachesBalance config function tx sender legs)
      (hread : balanceRead config provider ctx start sender = (.ok balance, now))
      (hcovered : legs.minTarget ≤ balance) (hsuffices : legs.paired.Suffices config tx)
      (hexecutor : executor.result = .ok ()) :
      Course ⟨.ok (.dispatched tx.gasPrice), now + executor.delay,
        openingTrace config function tx sender
          ++ [.logged (.dispatching tx.hash tx.gasPrice), .purchased ⟨tx.gasPrice, ctx.deadline⟩]⟩
  | refused {sender : Address} {legs : Legs} {balance : Word} {now : Nat} {fault : Fault}
      (hreach : ReachesBalance config function tx sender legs)
      (hread : balanceRead config provider ctx start sender = (.ok balance, now))
      (hcovered : legs.minTarget ≤ balance) (hsuffices : legs.paired.Suffices config tx)
      (hexecutor : executor.result = .error fault) :
      Course ⟨.error fault, now + executor.delay,
        openingTrace config function tx sender
          ++ [.logged (.dispatching tx.hash tx.gasPrice), .purchased ⟨tx.gasPrice, ctx.deadline⟩,
            .logged (.purchaseFailed tx.hash fault)]⟩

end

/-! ### Runs of the parts -/

section

variable {config : Config} {function : LiquidityFunction} {tx : Transaction} {provider : Provider}
  {executor : Reply Unit} {ctx : Context} {start : Nat}

private theorem run_dispatch_of_ok (hexecutor : executor.result = .ok ()) (now : Nat)
    (trace : List Act) :
    (dispatch tx).run (scripted provider executor ctx) ⟨now, trace⟩ =
      (.ok (.dispatched tx.gasPrice), ⟨now + executor.delay,
        trace ++ [.logged (.dispatching tx.hash tx.gasPrice),
          .purchased ⟨tx.gasPrice, ctx.deadline⟩]⟩) := by
  rw [dispatch, Procedure.run_bind_of_ok (Procedure.run_emit _ _ _),
    Procedure.run_bind_of_ok (Procedure.run_tryBuy _ _ _)]
  simp [scripted, World.record, hexecutor]

private theorem run_dispatch_of_error {fault : Fault} (hexecutor : executor.result = .error fault)
    (now : Nat) (trace : List Act) :
    (dispatch tx).run (scripted provider executor ctx) ⟨now, trace⟩ =
      (.error fault, ⟨now + executor.delay,
        trace ++ [.logged (.dispatching tx.hash tx.gasPrice),
          .purchased ⟨tx.gasPrice, ctx.deadline⟩, .logged (.purchaseFailed tx.hash fault)]⟩) := by
  rw [dispatch, Procedure.run_bind_of_ok (Procedure.run_emit _ _ _),
    Procedure.run_bind_of_ok (Procedure.run_tryBuy _ _ _)]
  simp [scripted, World.record, hexecutor, Procedure.run_bind_of_ok (Procedure.run_emit _ _ _)]

private theorem run_belowThreshold (diagnostic : Diagnostic) (now : Nat) (trace : List Act) :
    (belowThreshold tx diagnostic).run (scripted provider executor ctx) ⟨now, trace⟩ =
      (.ok (.suppressed (.belowThreshold diagnostic)),
        ⟨now, trace ++ [.logged (.diagnosed tx.hash diagnostic)]⟩) := by
  rw [belowThreshold, Procedure.run_bind_of_ok (Procedure.run_emit _ _ _), Procedure.run_pure]
  rfl

-- The call is a variable here: at a concrete one the kernel would compute the selector's digest.
private theorem run_read_scripted {α β : Type} (operation : String) (call : Call)
    (make : Except Fault Bytes → α) (next : α → Procedure β) (now : Nat) (trace : List Act) :
    (Procedure.tryRead operation call >>= fun answer => next (make answer)).run
        (scripted provider executor ctx) ⟨now, trace⟩ =
      (next (readOf provider ctx now operation call make).1).run (scripted provider executor ctx)
        ⟨(readOf provider ctx now operation call make).2, trace ++ [.called call]⟩ := rfl

private theorem run_balanceOf_scripted (account : Address) (now : Nat) (trace : List Act) :
    (Token.balanceOf config.target account).run (scripted provider executor ctx) ⟨now, trace⟩ =
      ((balanceRead config provider ctx now account).1,
        ⟨(balanceRead config provider ctx now account).2,
          trace ++ [.called (Token.balanceOfCall config.target account)]⟩) := by
  rw [Token.balanceOf, run_read_scripted, Procedure.run_ofExcept, balanceRead]

private theorem run_symbol_scripted (token : Address) (now : Nat) (trace : List Act) :
    (Token.symbol token).run (scripted provider executor ctx) ⟨now, trace⟩ =
      (.ok (symbolRead provider ctx now token).1,
        ⟨(symbolRead provider ctx now token).2,
          trace ++ [.called (Token.symbolCall token)]⟩) := by
  rw [Token.symbol, run_read_scripted, Procedure.run_pure, symbolRead]

private def fromBalance (config : Config) (tx : Transaction) (sender : Address) (legs : Legs) :
    Procedure Outcome := do
  let balance ← Token.balanceOf config.target sender
  if balance < legs.minTarget then
    Procedure.emit (.insufficientBalance tx.hash legs.minTarget balance)
    return .suppressed (.implausibleBalance legs.minTarget balance)
  else weigh config tx legs.paired

private theorem run_evaluate_of_sender {intent : Intent} {sender : Address}
    (hdecode : Intent.decode function tx.data = .ok intent)
    (hsender : tx.sender config.chainId = .ok sender) :
    (evaluate config function tx).run (scripted provider executor ctx) ⟨start, []⟩ =
      (match intent.legs config with
        | none => pure (.suppressed .notRelevant)
        | some legs => fromBalance config tx sender legs : Procedure Outcome).run
          (scripted provider executor ctx) ⟨start, [.logged (.decoded tx.hash function sender)]⟩ := by
  have hreported : (Except.ok sender : Except SenderRejection Address).mapError
      SenderRejection.toFault = .ok sender := rfl
  rw [evaluate, hdecode, hsender, hreported,
    Procedure.run_bind_of_ok (Procedure.run_ofExcept _ _ _),
    Procedure.run_bind_of_ok (Procedure.run_ofExcept _ _ _),
    Procedure.run_bind_of_ok (Procedure.run_emit _ _ _)]
  rfl

section

variable {sender : Address} {legs : Legs} {balance : Word} {now : Nat}
  (hreach : ReachesBalance config function tx sender legs)

include hreach

private theorem run_evaluate_of_reach :
    (evaluate config function tx).run (scripted provider executor ctx) ⟨start, []⟩ =
      (fromBalance config tx sender legs).run (scripted provider executor ctx)
        ⟨start, [.logged (.decoded tx.hash function sender)]⟩ := by
  obtain ⟨⟨intent, hdecode, hlegs⟩, hsender⟩ := hreach
  rw [run_evaluate_of_sender hdecode hsender, hlegs]

private theorem run_evaluate_of_balance
    (hread : balanceRead config provider ctx start sender = (.ok balance, now)) :
    (evaluate config function tx).run (scripted provider executor ctx) ⟨start, []⟩ =
      (if balance < legs.minTarget then do
          Procedure.emit (.insufficientBalance tx.hash legs.minTarget balance)
          return .suppressed (.implausibleBalance legs.minTarget balance)
        else weigh config tx legs.paired : Procedure Outcome).run (scripted provider executor ctx)
          ⟨now, openingTrace config function tx sender⟩ := by
  have hrun : (Token.balanceOf config.target sender).run (scripted provider executor ctx)
      ⟨start, [.logged (.decoded tx.hash function sender)]⟩ = _ :=
    run_balanceOf_scripted sender start _
  rw [hread] at hrun
  rw [run_evaluate_of_reach hreach, fromBalance, Procedure.run_bind_of_ok hrun]
  rfl

private theorem run_evaluate_of_covered
    (hread : balanceRead config provider ctx start sender = (.ok balance, now))
    (hcovered : legs.minTarget ≤ balance) :
    (evaluate config function tx).run (scripted provider executor ctx) ⟨start, []⟩ =
      (weigh config tx legs.paired).run (scripted provider executor ctx)
        ⟨now, openingTrace config function tx sender⟩ := by
  rw [run_evaluate_of_balance hreach hread, if_neg (BitVec.not_lt.mpr hcovered)]

end

private theorem weigh_of_suffices {paired : PairedLeg} (h : paired.Suffices config tx) :
    weigh config tx paired = dispatch tx := by
  cases paired with
  | token token minAmount => exact if_pos h
  | native declaredMin =>
      obtain ⟨hattached, hdeclared⟩ := h
      rw [weigh, if_neg (BitVec.not_le.mpr hattached), if_neg (BitVec.not_le.mpr hdeclared)]

end

/-! ### Every evaluation takes exactly one course -/

section

variable {config : Config} {function : LiquidityFunction} {tx : Transaction} {provider : Provider}
  {executor : Reply Unit} {ctx : Context} {start : Nat} {record : Record Outcome}

private theorem play_of_run {α : Type} {p : Procedure α} {result : Except Fault α} {now : Nat}
    {trace : List Act}
    (h : p.run (scripted provider executor ctx) ⟨start, []⟩ = (result, ⟨now, trace⟩)) :
    p.play provider executor ctx start = ⟨result, now, trace⟩ := by
  rw [Procedure.play, h]

theorem play_of_course (h : Course config function tx provider executor ctx start record) :
    (evaluate config function tx).play provider executor ctx start = record := by
  cases h with
  | undecodable hdecode =>
      apply play_of_run
      rw [evaluate, hdecode, Procedure.run_bind_of_error (Procedure.run_ofExcept _ _ _)]
  | senderless hdecode hsender =>
      apply play_of_run
      rw [evaluate, hdecode, hsender, Procedure.run_bind_of_ok (Procedure.run_ofExcept _ _ _)]
      exact Procedure.run_bind_of_error (Procedure.run_ofExcept _ _ _)
  | irrelevant hdecode hsender hlegs =>
      apply play_of_run
      rw [run_evaluate_of_sender hdecode hsender, hlegs, Procedure.run_pure]
  | @balanceless sender legs fault now hreach hread =>
      have hrun : (Token.balanceOf config.target sender).run (scripted provider executor ctx)
          ⟨start, [.logged (.decoded tx.hash function sender)]⟩ = _ :=
        run_balanceOf_scripted sender start _
      rw [hread] at hrun
      apply play_of_run
      rw [run_evaluate_of_reach hreach, fromBalance, Procedure.run_bind_of_error hrun]
      rfl
  | uncovered hreach hread hshort =>
      apply play_of_run
      rw [run_evaluate_of_balance hreach hread, if_pos hshort,
        Procedure.run_bind_of_ok (Procedure.run_emit _ _ _), Procedure.run_pure]
      rfl
  | scarcePair hreach hread hcovered hpaired hscarce hsymbol =>
      apply play_of_run
      rw [run_evaluate_of_covered hreach hread hcovered, hpaired, weigh,
        if_neg (BitVec.not_lt.mpr hscarce), Procedure.run_bind_of_ok (run_symbol_scripted _ _ _),
        hsymbol, run_belowThreshold, List.append_assoc]
      rfl
  | scarceNative hreach hread hcovered hpaired hscarce =>
      apply play_of_run
      rw [run_evaluate_of_covered hreach hread hcovered, hpaired, weigh, if_pos hscarce,
        run_belowThreshold]
  | underdeclared hreach hread hcovered hpaired hattached hdeclared =>
      apply play_of_run
      rw [run_evaluate_of_covered hreach hread hcovered, hpaired, weigh,
        if_neg (BitVec.not_le.mpr hattached), if_pos hdeclared,
        Procedure.run_bind_of_ok (Procedure.run_emit _ _ _), Procedure.run_pure]
      rfl
  | bought hreach hread hcovered hsuffices hexecutor =>
      apply play_of_run
      rw [run_evaluate_of_covered hreach hread hcovered, weigh_of_suffices hsuffices,
        run_dispatch_of_ok hexecutor]
  | refused hreach hread hcovered hsuffices hexecutor =>
      apply play_of_run
      rw [run_evaluate_of_covered hreach hread hcovered, weigh_of_suffices hsuffices,
        run_dispatch_of_error hexecutor]

private theorem exists_course_of_covered {sender : Address} {legs : Legs} {balance : Word} {now : Nat}
    (hreach : ReachesBalance config function tx sender legs)
    (hread : balanceRead config provider ctx start sender = (.ok balance, now))
    (hcovered : legs.minTarget ≤ balance) :
    ∃ record, Course config function tx provider executor ctx start record := by
  by_cases hsuffices : legs.paired.Suffices config tx
  · cases hexecutor : executor.result with
    | ok done => exact ⟨_, .bought hreach hread hcovered hsuffices hexecutor⟩
    | error fault => exact ⟨_, .refused hreach hread hcovered hsuffices hexecutor⟩
  · cases hpaired : legs.paired with
    | token token minAmount =>
        rw [hpaired] at hsuffices
        have hscarce : minAmount ≤ config.minLiquidity := BitVec.not_lt.mp hsuffices
        exact ⟨_, .scarcePair hreach hread hcovered hpaired hscarce rfl⟩
    | native declaredMin =>
        rw [hpaired] at hsuffices
        by_cases hscarce : tx.value ≤ config.minLiquidity
        · exact ⟨_, .scarceNative hreach hread hcovered hpaired hscarce⟩
        · have hattached : config.minLiquidity < tx.value := BitVec.not_le.mp hscarce
          have hdeclared : declaredMin ≤ config.minLiquidity :=
            BitVec.not_lt.mp fun hdeclared => hsuffices ⟨hattached, hdeclared⟩
          exact ⟨_, .underdeclared hreach hread hcovered hpaired hattached hdeclared⟩

private theorem exists_course (config : Config) (function : LiquidityFunction) (tx : Transaction)
    (provider : Provider) (executor : Reply Unit) (ctx : Context) (start : Nat) :
    ∃ record, Course config function tx provider executor ctx start record := by
  cases hdecode : Intent.decode function tx.data with
  | error fault => exact ⟨_, .undecodable hdecode⟩
  | ok intent =>
      cases hsender : tx.sender config.chainId with
      | error rejection => exact ⟨_, .senderless hdecode hsender⟩
      | ok sender =>
          cases hlegs : intent.legs config with
          | none => exact ⟨_, .irrelevant hdecode hsender hlegs⟩
          | some legs =>
              have hreach : ReachesBalance config function tx sender legs :=
                ⟨⟨intent, hdecode, hlegs⟩, hsender⟩
              rcases hread : balanceRead config provider ctx start sender with ⟨fault | balance, now⟩
              · exact ⟨_, .balanceless hreach hread⟩
              · by_cases hshort : balance < legs.minTarget
                · exact ⟨_, .uncovered hreach hread hshort⟩
                · exact exists_course_of_covered hreach hread (BitVec.not_lt.mp hshort)

end

/-- Every evaluation takes one of the courses. -/
theorem course_evaluate (config : Config) (function : LiquidityFunction) (tx : Transaction)
    (provider : Provider) (executor : Reply Unit) (ctx : Context) (start : Nat) :
    Course config function tx provider executor ctx start
      ((evaluate config function tx).play provider executor ctx start) := by
  obtain ⟨record, hcourse⟩ := exists_course config function tx provider executor ctx start
  rwa [play_of_course hcourse]

end LiquidityTrigger
