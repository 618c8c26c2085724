import LiquidityTrigger.Node.Session
import LiquidityTrigger.Proofs.Transaction.Legacy
import LiquidityTrigger.Session
import LiquidityTrigger.Transaction.Announced

/-!
# A transaction by two ways

A legacy transaction reaches the trigger in its wire form or as an object that a node announces. Both give the
same transaction when the object has no kind. When its kind is zero that one field differs, which only the
recovery of the sender looks at, and the recovery takes a kind of zero for none. So the two cannot be told apart
by anything that is decided, read, bought or logged.
-/

namespace LiquidityTrigger

/-- The object under which a node announces nine values in their wire form, with a kind or without. -/
def Legacy.Fields.announced (f : Legacy.Fields) (kind : Option UInt64) : AnnouncedTransaction where
  hash := keccak256 (Legacy.encode f)
  nonce := f.nonce
  gasPrice := some f.gasPrice
  gas := f.gas
  recipient := f.recipient
  value := f.value
  input := f.data
  kind := kind
  v := f.v
  r := f.r
  s := f.s

/-- The same transaction under a kind of its own. -/
def Transaction.ofKind (tx : Transaction) (kind : Option UInt64) : Transaction :=
  { tx with kind := kind }

/-! ### A kind of zero -/

section

variable (tx : Transaction)

theorem signingHash_ofKind (kind chain : Option UInt64) :
    (tx.ofKind kind).signingHash chain = tx.signingHash chain := rfl

theorem sender_ofKind_zero (c : UInt64) :
    (tx.ofKind (some 0)).sender c = (tx.ofKind none).sender c := rfl

theorem sender_ofKind_of_ne {kind : UInt64} (hkind : kind ≠ 0) (c : UInt64) :
    (tx.ofKind (some kind)).sender c = .error (.unsupportedKind kind) := by
  have hkept : (tx.ofKind (some kind)).kind.filter (· ≠ 0) = some kind :=
    Option.filter_some_pos (by simpa using hkind)
  rw [Transaction.sender, hkept]

theorem evaluate_ofKind_zero (config : Config) (function : LiquidityFunction) :
    evaluate config function (tx.ofKind (some 0)) = evaluate config function (tx.ofKind none) := by
  rw [evaluate, evaluate, sender_ofKind_zero]
  rfl

theorem decide_ofKind_zero (entry : Entry) (config : Config) :
    entry.decide config (tx.ofKind (some 0)) = entry.decide config (tx.ofKind none) := by
  cases entry with
  | process =>
      have hdata : (tx.ofKind (some 0)).data = (tx.ofKind none).data := rfl
      change process config (tx.ofKind (some 0)) = process config (tx.ofKind none)
      rw [process, process, hdata]
      cases LiquidityFunction.detect (tx.ofKind none).data with
      | none => rfl
      | some function => exact evaluate_ofKind_zero tx config function
  | add => exact evaluate_ofKind_zero tx config .addLiquidity
  | addEth => exact evaluate_ofKind_zero tx config .addLiquidityETH

end

section

variable {f : Legacy.Fields} {kind : Option UInt64} (h : (Legacy.encode f).length < 2 ^ 64)
  (hkind : kind = none ∨ kind = some 0)

include h

theorem decode_encode_eq_announced : Legacy.decode (Legacy.encode f) = .ok (f.announced none).toTransaction :=
  Legacy.decode_encode h

include hkind

/-- Through a node that is asked for its network first, both ways are decided on by one procedure. -/
theorem connectAndProcess_announced (settings : Settings) :
    Node.Session.connectAndProcess settings (.ok (f.announced kind).toTransaction) =
      Node.Session.connectAndProcess settings (Submission.wire (Legacy.encode f)).transaction := by
  rw [Submission.transaction, decode_encode_eq_announced h]
  rcases hkind with rfl | rfl
  · rfl
  · refine congrArg (connect settings >>= ·) (funext fun config => ?_)
    exact congrArg (· >>= _) (decide_ofKind_zero (f.toTransaction _) .process config)

theorem play_announced (s : Session) (entry : Entry) (choice : ContextChoice) :
    s.play ⟨entry, .decoded (f.announced kind).toTransaction, choice⟩ =
      s.play ⟨entry, .wire (Legacy.encode f), choice⟩ := by
  have hprocedure : entry.decide s.config (f.announced kind).toTransaction =
      entry.decide s.config (f.announced none).toTransaction := by
    rcases hkind with rfl | rfl
    · rfl
    · exact decide_ofKind_zero (f.toTransaction _) entry s.config
  have hwire : (Evaluation.mk entry (.wire (Legacy.encode f)) choice).procedure s.config =
      entry.decide s.config (f.announced none).toTransaction := by
    rw [Evaluation.procedure, Submission.transaction, decode_encode_eq_announced h]
    rfl
  rw [Session.play, Session.play, hwire, ← hprocedure]
  rfl

end

/-- Announced without a kind, or with the kind zero, a transaction is the one that its wire form is decoded to,
as far as any evaluation shows. -/
theorem announced_agrees_with_wire (f : Legacy.Fields) (h : (Legacy.encode f).length < 2 ^ 64) :
    Legacy.decode (Legacy.encode f) = .ok (f.announced none).toTransaction ∧
    (∀ kind, (f.announced kind).toTransaction = { (f.announced none).toTransaction with kind := kind }) ∧
    (∀ chain, (f.announced (some 0)).toTransaction.signingHash chain =
      (f.announced none).toTransaction.signingHash chain) ∧
    (∀ c, (f.announced (some 0)).toTransaction.sender c = (f.announced none).toTransaction.sender c) ∧
    (∀ (entry : Entry) (config : Config),
      entry.decide config (f.announced (some 0)).toTransaction =
        entry.decide config (f.announced none).toTransaction) ∧
    (∀ kind, kind = none ∨ kind = some 0 →
      (∀ (s : Session) (entry : Entry) (choice : ContextChoice),
        s.play ⟨entry, .decoded (f.announced kind).toTransaction, choice⟩ =
          s.play ⟨entry, .wire (Legacy.encode f), choice⟩) ∧
      ∀ settings, Node.Session.connectAndProcess settings (.ok (f.announced kind).toTransaction) =
        Node.Session.connectAndProcess settings (Submission.wire (Legacy.encode f)).transaction) ∧
    ∀ kind, kind ≠ 0 → ∀ c,
      (f.announced (some kind)).toTransaction.sender c = .error (.unsupportedKind kind) :=
  ⟨decode_encode_eq_announced h, fun _ => rfl, signingHash_ofKind (f.toTransaction _) _,
    sender_ofKind_zero (f.toTransaction _), decide_ofKind_zero (f.toTransaction _),
    fun _ hkind => ⟨play_announced h hkind, connectAndProcess_announced h hkind⟩,
    fun _ hkind => sender_ofKind_of_ne (f.toTransaction _) hkind⟩

theorem sampleCreation_announced :
    (Legacy.encode Legacy.sampleCreation).length < 2 ^ 64 ∧
      Legacy.decode (Legacy.encode Legacy.sampleCreation) =
        .ok { (Legacy.sampleCreation.announced (some 0)).toTransaction with kind := none } ∧
      (Legacy.sampleCreation.announced (some 0)).toTransaction.sender 56 =
        (Legacy.sampleCreation.announced none).toTransaction.sender 56 ∧
      (Legacy.sampleCreation.announced (some 2)).toTransaction.sender 56 =
        .error (.unsupportedKind 2) := by
  have hlength : (Legacy.encode Legacy.sampleCreation).length < 2 ^ 64 := by decide +kernel
  obtain ⟨hdecode, -, -, hsender, -, -, hother⟩ :=
    announced_agrees_with_wire Legacy.sampleCreation hlength
  exact ⟨hlength, hdecode, hsender 56, hother 2 (by decide) 56⟩

end LiquidityTrigger
