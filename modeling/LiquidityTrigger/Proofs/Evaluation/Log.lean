import LiquidityTrigger.Proofs.Evaluation.Reads
import LiquidityTrigger.Proofs.Session

/-!
# What the log says of an evaluation

The log is what an operator has to go by: whether an addition was recognised, whether and at what price
a purchase was tried and how that ended, and why none was. The lines are written out here as they are
read, with level, message and fields, and `log_accounts_for_evaluations` says that the lines of an
evaluation, with its purchases between them, are the ones that its result and its purchases call for,
and that a session shows what its evaluations left without loss, repetition or change of order.
-/

namespace LiquidityTrigger

/-! ### Lines -/

structure Line where
  level : String
  message : String
  fields : List (String × String)
  deriving DecidableEq, Repr

def Event.line (event : Event) : Line := ⟨event.level.name, event.message, event.fields⟩

/-- What is seen of an evaluation: a line of the log or a purchase. -/
inductive Mark where
  | line (line : Line)
  | purchase (purchase : Purchase)
  deriving DecidableEq, Repr

def marksIn (trace : List Act) : List Mark :=
  trace.filterMap fun
    | .logged event => some (.line event.line)
    | .purchased purchase => some (.purchase purchase)
    | _ => none

namespace Line

variable (tx : Transaction)

def recognised (function : LiquidityFunction) (sender : Address) : Line :=
  ⟨"DEBUG", "adição de liquidez decodificada",
    [("tx", tx.hash.hex), ("function", function.name), ("sender", sender.hex)]⟩

def dispatching : Line :=
  ⟨"INFO", "disparando snipe",
    [("tx", tx.hash.hex), ("gas_price", Decimal.text tx.gasPrice.toNat)]⟩

def failed (fault : Fault) : Line :=
  ⟨"WARN", "executor de snipe falhou", [("tx", tx.hash.hex), ("error", fault.message)]⟩

def reasons : Suppression → List Line
  | .unsupportedFunction => []
  | .notRelevant => []
  | .implausibleBalance declared balance =>
      [⟨"DEBUG", "saldo do remetente insuficiente",
        [("tx", tx.hash.hex), ("declared", Decimal.text declared.toNat),
          ("balance", Decimal.text balance.toNat)]⟩]
  | .belowThreshold diagnostic => [⟨"INFO", diagnostic.text, [("tx", tx.hash.hex)]⟩]
  | .declaredMinimumTooLow declared _ =>
      [⟨"DEBUG", "mínimo nativo declarado abaixo do esperado",
        [("tx", tx.hash.hex), ("declared", Decimal.text declared.toNat)]⟩]

end Line

section

variable (tx : Transaction)

def purchaseMarks (answer : Except Fault Unit) (purchase : Purchase) : List Mark :=
  [.line (Line.dispatching tx), .purchase purchase] ++
    match answer with
    | .ok () => []
    | .error fault => [.line (Line.failed tx fault)]

def resultMarks : Except Fault Outcome → List Mark
  | .ok (.suppressed reason) => (Line.reasons tx reason).map .line
  | .ok (.dispatched _) => []
  | .error _ => []

end

/-! ### The marks of an evaluation -/

section

variable (config : Config) (function : LiquidityFunction) (tx : Transaction) (provider : Provider)
  (executor : Reply Unit) (ctx : Context) (start : Nat) (sender : Address)

/-- The transaction is an addition, to whichever pair, from a known sender. -/
structure Recognises : Prop where
  addition : ∃ intent, Intent.decode function tx.data = .ok intent
  signer : tx.sender config.chainId = .ok sender

/-- The marks of an evaluation account for it: first that the addition was recognised, then its purchases
with what came of them, or the reason for none. -/
structure AccountedFor (record : Record Outcome) : Prop where
  marks : marksIn record.trace = .line (Line.recognised tx function sender) ::
    ((purchasesIn record.trace).flatMap (purchaseMarks tx executor.result) ++
      resultMarks tx record.result)
  suppressed : ∀ reason, record.result = .ok (.suppressed reason) → purchasesIn record.trace = []
  irrelevant : record.result = .ok (.suppressed .notRelevant) →
    marksIn record.trace = [.line (Line.recognised tx function sender)]
  unread : ∀ legs fault, ReachesBalance config function tx sender legs →
    (balanceRead config provider ctx start sender).1 = .error fault →
      record.result = .error fault ∧
        marksIn record.trace = [.line (Line.recognised tx function sender)]

end

section

variable {config : Config} {function : LiquidityFunction} {tx : Transaction} {provider : Provider}
  {executor : Reply Unit} {ctx : Context} {start : Nat} {sender : Address} {legs : Legs}
  {record : Record Outcome}

theorem ReachesBalance.recognises (hreach : ReachesBalance config function tx sender legs) :
    Recognises config function tx sender where
  addition := hreach.addition.imp fun _ h => h.1
  signer := hreach.signer

theorem Recognises.unique {sender' : Address} (h : Recognises config function tx sender)
    (h' : Recognises config function tx sender') : sender = sender' :=
  Except.ok.inj (h.signer.symm.trans h'.signer)

/-- Behind a recognised addition the marks are those of the purchases and of the result. -/
theorem marksIn_of_course (hrecognises : Recognises config function tx sender)
    (hcourse : Course config function tx provider executor ctx start record) :
    marksIn record.trace = .line (Line.recognised tx function sender) ::
      ((purchasesIn record.trace).flatMap (purchaseMarks tx executor.result) ++
        resultMarks tx record.result) := by
  have hsame {sender' : Address} {legs : Legs}
      (hreach : ReachesBalance config function tx sender' legs) : sender' = sender :=
    hreach.recognises.unique hrecognises
  -- A course fixes the trace, so both sides are the same few marks.
  cases hcourse with
  | undecodable hdecode =>
      obtain ⟨intent, hok⟩ := hrecognises.addition
      rw [hdecode] at hok
      cases hok
  | senderless hdecode hsender =>
      have hok := hrecognises.signer
      rw [hsender] at hok
      cases hok
  | irrelevant hdecode hsender hlegs =>
      obtain rfl := hrecognises.unique ⟨⟨_, hdecode⟩, hsender⟩
      rfl
  | balanceless hreach hread =>
      obtain rfl := hsame hreach
      rfl
  | uncovered hreach hread hshort =>
      obtain rfl := hsame hreach
      rfl
  | scarcePair hreach hread hcovered hpaired hscarce hsymbol =>
      obtain rfl := hsame hreach
      rfl
  | scarceNative hreach hread hcovered hpaired hscarce =>
      obtain rfl := hsame hreach
      rfl
  | underdeclared hreach hread hcovered hpaired hattached hdeclared =>
      obtain rfl := hsame hreach
      rfl
  | bought hreach hread hcovered hsuffices hexecutor =>
      obtain rfl := hsame hreach
      rw [hexecutor]
      rfl
  | refused hreach hread hcovered hsuffices hexecutor =>
      obtain rfl := hsame hreach
      rw [hexecutor]
      rfl

theorem purchasesIn_of_suppressed {reason : Suppression}
    (hcourse : Course config function tx provider executor ctx start record)
    (hresult : record.result = .ok (.suppressed reason)) : purchasesIn record.trace = [] := by
  cases hcourse with
  | bought => cases hresult
  | refused => cases hresult
  | _ => rfl

theorem accountedFor_of_course (hrecognises : Recognises config function tx sender)
    (hcourse : Course config function tx provider executor ctx start record) :
    AccountedFor config function tx provider executor ctx start sender record where
  marks := marksIn_of_course hrecognises hcourse
  suppressed reason hresult := purchasesIn_of_suppressed hcourse hresult
  irrelevant hresult := by
    rw [marksIn_of_course hrecognises hcourse, purchasesIn_of_suppressed hcourse hresult, hresult]
    rfl
  unread legs fault hreach hread := by
    have hresult := (result_eq_error_iff_of_reach hreach hcourse).mpr (.inl hread)
    have hnot : ¬ PurchaseWarranted config tx provider ctx start function := by
      rw [warranted_iff_of_reach hreach, hread]
      intro hwarranted
      obtain ⟨balance, hok, -⟩ := hwarranted
      cases hok
    have hnone : purchasesIn record.trace = [] :=
      (purchasesIn_of_course hcourse).elim (fun h => absurd h.2 hnot) And.left
    refine ⟨hresult, ?_⟩
    rw [marksIn_of_course hrecognises hcourse, hnone, hresult]
    rfl

theorem trace_eq_nil_of_course (hnot : ¬ ∃ sender, Recognises config function tx sender)
    (hcourse : Course config function tx provider executor ctx start record) : record.trace = [] := by
  cases hcourse with
  | undecodable hdecode => rfl
  | senderless hdecode hsender => rfl
  | irrelevant hdecode hsender hlegs => exact absurd ⟨_, ⟨_, hdecode⟩, hsender⟩ hnot
  | balanceless hreach | uncovered hreach | scarcePair hreach | scarceNative hreach
  | underdeclared hreach | bought hreach | refused hreach =>
      exact absurd ⟨_, hreach.recognises⟩ hnot

end

/-! ### The log of a session -/

/-- The evaluation is of this transaction, which its entry takes for a call of this function, and it
recognises an addition from this sender. -/
structure Evaluation.Recognises (e : Evaluation) (config : Config) (tx : Transaction)
    (function : LiquidityFunction) (sender : Address) : Prop where
  transaction : e.submission.transaction = .ok tx
  takes : e.entry.Takes tx.data function
  recognises : LiquidityTrigger.Recognises config function tx sender

namespace Session

/-- What is shown with an answer. -/
def Answer.shown : Answer → List Act
  | .ran _ shown => shown
  | .joined _ shown => shown
  | _ => []

/-- What the evaluations left that are answered for. -/
def Answer.left : Answer → List Act
  | .ran record _ => record.trace
  | .joined records _ => records.flatMap (·.trace)
  | _ => []

/-- A step shows what was left to be shown and what its evaluations leave, or keeps it. -/
theorem shown_step (s : Session) (step : Step) :
    (s.step step).1.shown ++ (s.step step).2.unshown = s.unshown ++ (s.step step).1.left := by
  cases step <;> simp [Session.step, Answer.shown, Answer.left]

theorem shown_run (s : Session) (steps : List Step) :
    (s.run steps).flatMap Answer.shown ++ (s.after steps).unshown =
      s.unshown ++ (s.run steps).flatMap Answer.left := by
  induction steps generalizing s with
  | nil => simp [run, after]
  | cons step rest ih =>
      have hrest := ih (s.step step).2
      have hstep := s.shown_step step
      change ((s.step step).1.shown ++ ((s.step step).2.run rest).flatMap Answer.shown) ++
          ((s.step step).2.after rest).unshown =
        s.unshown ++ ((s.step step).1.left ++ ((s.step step).2.run rest).flatMap Answer.left)
      rw [List.append_assoc, hrest, ← List.append_assoc, hstep, List.append_assoc]

variable {s : Session} {e : Evaluation} {tx : Transaction}

theorem play_of_transaction (h : e.submission.transaction = .ok tx) :
    s.play e = (e.entry.decide s.config tx).play s.provider s.executor (s.context e.context) s.now := by
  rw [play, Evaluation.procedure, h]
  rfl

theorem play_of_no_transaction {fault : Fault} (h : e.submission.transaction = .error fault) :
    s.play e = ⟨.error fault, s.now, []⟩ := by
  rw [play, Evaluation.procedure, h]
  rfl

theorem trace_play_of_not_recognises
    (hnot : ¬ ∃ tx function sender, e.Recognises s.config tx function sender) :
    (s.play e).trace = [] := by
  cases htransaction : e.submission.transaction with
  | error fault => rw [play_of_no_transaction htransaction]
  | ok tx =>
      rw [play_of_transaction htransaction]
      by_cases htakes : ∃ function, e.entry.Takes tx.data function
      · obtain ⟨function, hfunction⟩ := htakes
        refine trace_eq_nil_of_course ?_ (Entry.course_of_takes hfunction)
        rintro ⟨sender, hrecognises⟩
        exact hnot ⟨tx, function, sender, htransaction, hfunction, hrecognises⟩
      · rw [Entry.play_of_not_takes htakes]

end Session

/-- A session shows what its evaluations leave, each act once and in order, and its marks account for
every recognised addition. -/
theorem log_accounts_for_evaluations (s : Session) :
    (∀ steps, (s.run steps).flatMap Session.Answer.shown ++ (s.after steps).unshown =
      s.unshown ++ (s.run steps).flatMap Session.Answer.left) ∧
    ∀ history e rest,
      let here := s.after history
      let record := here.play e
      s.run (history ++ .run e :: rest) =
          s.run history ++ .ran record (here.unshown ++ record.trace) ::
            (here.step (.run e)).2.run rest ∧
        ((¬ ∃ tx function sender, e.Recognises s.config tx function sender) → record.trace = []) ∧
        ∀ tx function sender, e.Recognises s.config tx function sender →
          AccountedFor s.config function tx here.provider here.executor (here.context e.context)
            here.now sender record := by
  refine ⟨s.shown_run, fun history e rest => ⟨s.run_append history _, ?_⟩⟩
  have hconfig : (s.after history).config = s.config := s.config_after history
  rw [← hconfig]
  refine ⟨Session.trace_play_of_not_recognises, fun tx function sender hrecognises => ?_⟩
  rw [Session.play_of_transaction hrecognises.transaction]
  exact accountedFor_of_course hrecognises.recognises (Entry.course_of_takes hrecognises.takes)

def sampleSession : Session := .start sampleConfig sampleProvider ⟨.ok (), 7⟩

def sampleEvaluation : Evaluation := ⟨.add, .decoded sampleAddition, .fresh 60⟩

theorem sampleSession_accounts :
    (sampleSession.play ⟨.add, .wire [], .unbounded⟩).trace = [] ∧
    sampleEvaluation.Recognises sampleConfig sampleAddition .addLiquidity sampleSender ∧
    ∃ diagnostic : Diagnostic, marksIn (sampleSession.play sampleEvaluation).trace =
      [.line ⟨"DEBUG", "adição de liquidez decodificada",
          [("tx", sampleAddition.hash.hex), ("function", "AddLiquidity"),
            ("sender", sampleSender.hex)]⟩,
        .line ⟨"INFO", diagnostic.text, [("tx", sampleAddition.hash.hex)]⟩] := by
  obtain ⟨-, haccounts⟩ := log_accounts_for_evaluations sampleSession
  have hrecognises : sampleEvaluation.Recognises sampleConfig sampleAddition .addLiquidity
      sampleSender := ⟨rfl, rfl, sampleAddition_reaches.recognises⟩
  refine ⟨(haccounts [] ⟨.add, .wire [], .unbounded⟩ []).2.1 ?_, hrecognises, ?_⟩
  · rintro ⟨tx, function, sender, htransaction, -⟩
    cases htransaction
  · obtain ⟨⟨diagnostic, hresult⟩, -⟩ := sampleAddition_scarce
    have haccount := (haccounts [] sampleEvaluation []).2.2 _ _ _ hrecognises
    have hsuppressed : (sampleSession.play sampleEvaluation).result =
        .ok (.suppressed (.belowThreshold diagnostic)) := by
      rw [Session.play_of_transaction hrecognises.transaction]
      exact hresult
    refine ⟨diagnostic, haccount.marks.trans ?_⟩
    rw [haccount.suppressed _ hsuppressed]
    change _ :: ([] ++ resultMarks sampleAddition (sampleSession.play sampleEvaluation).result) = _
    rw [hsuppressed]
    rfl

end LiquidityTrigger
