import LiquidityTrigger.Proofs.Scripted
import LiquidityTrigger.Session
import Mathlib.Data.Nat.Basic
import Mathlib.Order.Basic

/-!
# An evaluation by itself

What an evaluation does in a session does not depend on what happened there before, but for the time
that its context has left. The same evaluation in a new session with the same configuration and the
same scripts does the same, as much later as the old session's clock shows.
-/

namespace LiquidityTrigger

namespace Session

/-- The session behind a history of steps. -/
def after (s : Session) (history : List Step) : Session :=
  history.foldl (fun s step => (s.step step).2) s

theorem run_append (s : Session) (history rest : List Step) :
    s.run (history ++ rest) = s.run history ++ (s.after history).run rest := by
  induction history generalizing s with
  | nil => rfl
  | cons step history ih => exact congrArg (List.cons _) (ih (s.step step).2)

theorem config_step (s : Session) (step : Step) : (s.step step).2.config = s.config := by
  cases step <;> rfl

theorem config_after (s : Session) (history : List Step) : (s.after history).config = s.config := by
  induction history generalizing s with
  | nil => rfl
  | cons step history ih => exact (ih (s.step step).2).trans (s.config_step step)

/-! ### The end of several runs -/

theorem finishOf_cons (now : Nat) (record : Record Outcome) (rest : List (Record Outcome)) :
    finishOf now (record :: rest) = finishOf (max now record.finish) rest := rfl

theorem finishOf_le_iff {now bound : Nat} {records : List (Record Outcome)} :
    finishOf now records ≤ bound ↔ now ≤ bound ∧ ∀ record ∈ records, record.finish ≤ bound := by
  induction records generalizing now with
  | nil => simp [finishOf]
  | cons record rest ih =>
      rw [finishOf_cons, ih, Nat.max_le, List.forall_mem_cons, and_assoc]

theorem finish_le_finishOf (now : Nat) {records : List (Record Outcome)} {record : Record Outcome}
    (h : record ∈ records) : record.finish ≤ finishOf now records :=
  (finishOf_le_iff.mp (Nat.le_refl _)).2 record h

theorem finishOf_perm (now : Nat) {records records' : List (Record Outcome)}
    (h : records.Perm records') : finishOf now records = finishOf now records' := by
  refine eq_of_forall_ge_iff fun bound => ?_
  simp only [finishOf_le_iff, h.mem_iff]

/-! ### The evaluation in a new session -/

/-- The context that a choice means, for a session that starts now: what is left of its time. -/
def timeLeft (s : Session) (choice : ContextChoice) : ContextChoice :=
  (s.context choice).deadline.elim .unbounded fun deadline => .fresh (deadline - s.now)

/-- The record of an evaluation that runs alone, in a new session with this configuration and these
scripts, under what is left of its time. -/
def alone (s : Session) (e : Evaluation) : Record Outcome :=
  (start s.config s.provider s.executor).play { e with context := s.timeLeft e.context }

theorem context_timeLeft (s : Session) (choice : ContextChoice) :
    (start s.config s.provider s.executor).context (s.timeLeft choice) =
      (s.context choice).remaining s.now := by
  rw [timeLeft, Context.remaining]
  cases (s.context choice).deadline with
  | none => rfl
  | some deadline => simp [context, start, Context.withTimeout]

theorem alone_decoded (s : Session) (entry : Entry) (tx : Transaction) (choice : ContextChoice) :
    s.alone ⟨entry, .decoded tx, choice⟩ =
      (entry.decide s.config tx).play s.provider s.executor
        ((s.context choice).remaining s.now) 0 := by
  rw [alone, play, context_timeLeft]
  rfl

/-- That record as this session has it: under the evaluation's own deadline, and on this clock. -/
def aloneFromNow (s : Session) (e : Evaluation) : Record Outcome :=
  { (s.alone e).under (s.context e.context).deadline with finish := s.now + (s.alone e).finish }

theorem play_eq_aloneFromNow (s : Session) (e : Evaluation) : s.play e = s.aloneFromNow e := by
  rw [aloneFromNow, alone, play, play, context_timeLeft, Procedure.play_remaining]
  rfl

theorem run_join (s : Session) (evaluations : List Evaluation) :
    s.run [.join evaluations] = [.joined (evaluations.map s.aloneFromNow)
      (s.unshown ++ evaluations.flatMap fun e => (s.aloneFromNow e).trace)] := by
  have hplay : s.play = s.aloneFromNow := funext s.play_eq_aloneFromNow
  simp only [run, step, hplay, List.flatMap_map]

theorem finishOf_play (s : Session) (evaluations : List Evaluation) :
    finishOf s.now (evaluations.map s.play) = s.now + finishOf 0 (evaluations.map s.alone) := by
  -- Behind the first member the maximum starts from that member's end, so the start is kept general.
  suffices h : ∀ now, finishOf (s.now + now) (evaluations.map s.play) =
      s.now + finishOf now (evaluations.map s.alone) from h 0
  induction evaluations with
  | nil => exact fun now => rfl
  | cons e rest ih =>
      intro now
      have hfinish : (s.play e).finish = s.now + (s.alone e).finish := by
        rw [play_eq_aloneFromNow, aloneFromNow]
      rw [List.map_cons, List.map_cons, finishOf_cons, finishOf_cons, hfinish, Nat.add_max_add_left,
        ih]

end Session

end LiquidityTrigger
