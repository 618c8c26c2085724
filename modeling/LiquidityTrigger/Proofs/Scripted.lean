import LiquidityTrigger.Proofs.Bytes
import LiquidityTrigger.Proofs.Context
import LiquidityTrigger.Proofs.Liquidity.Payload
import LiquidityTrigger.Proofs.Procedure

/-!
# Answers, traces and scripted runs

Which of its usual answers a provider gives to the two calls that an evaluation makes. The views of a trace
are read off act by act, and off two traces in a row one after the other. A scripted run depends on its
start only by the time that is left: what was traced before is carried along, and on a clock that
started earlier the same happens later.
-/

namespace LiquidityTrigger

section

variable (front back : List Act)

@[simp] theorem callsIn_append : callsIn (front ++ back) = callsIn front ++ callsIn back :=
  List.filterMap_append

@[simp] theorem purchasesIn_append :
    purchasesIn (front ++ back) = purchasesIn front ++ purchasesIn back := List.filterMap_append

@[simp] theorem callsIn_nil : callsIn [] = [] := rfl

@[simp] theorem callsIn_called (call : Call) : callsIn (.called call :: back) = call :: callsIn back :=
  rfl

@[simp] theorem callsIn_purchased (purchase : Purchase) :
    callsIn (.purchased purchase :: back) = callsIn back := rfl

@[simp] theorem callsIn_logged (event : Event) : callsIn (.logged event :: back) = callsIn back := rfl

@[simp] theorem purchasesIn_nil : purchasesIn [] = [] := rfl

@[simp] theorem purchasesIn_called (call : Call) :
    purchasesIn (.called call :: back) = purchasesIn back := rfl

@[simp] theorem purchasesIn_purchased (purchase : Purchase) :
    purchasesIn (.purchased purchase :: back) = purchase :: purchasesIn back := rfl

@[simp] theorem purchasesIn_logged (event : Event) :
    purchasesIn (.logged event :: back) = purchasesIn back := rfl

variable {front back} in
theorem callsIn_perm (h : front.Perm back) : (callsIn front).Perm (callsIn back) := h.filterMap _

variable {front back} in
theorem purchasesIn_perm (h : front.Perm back) : (purchasesIn front).Perm (purchasesIn back) :=
  h.filterMap _

variable {α : Type} (members : List α) (traceOf : α → List Act)

theorem callsIn_flatMap :
    callsIn (members.flatMap traceOf) = members.flatMap fun member => callsIn (traceOf member) :=
  List.filterMap_flatMap

theorem purchasesIn_flatMap :
    purchasesIn (members.flatMap traceOf) =
      members.flatMap fun member => purchasesIn (traceOf member) := List.filterMap_flatMap

end

theorem Procedure.run_of_play {α : Type} {p : Procedure α} {provider : Provider}
    {executor : Reply Unit} {ctx : Context} {start : Nat} {result : Except Fault α}
    (h : (p.play provider executor ctx start).result = result) :
    p.run (scripted provider executor ctx) ⟨start, []⟩ =
      (result, (p.run (scripted provider executor ctx) ⟨start, []⟩).2) :=
  Prod.ext h rfl

/-! ### Deadlines in a trace -/

/-- An act as an evaluation with the given deadline does it. -/
def Act.under (deadline : Option Nat) : Act → Act
  | .purchased purchase => .purchased ⟨purchase.gasPrice, deadline⟩
  | act => act

/-- A record as an evaluation with the given deadline leaves it. -/
def Record.under {α : Type} (deadline : Option Nat) (record : Record α) : Record α :=
  { record with trace := record.trace.map (Act.under deadline) }

section

variable (deadline : Option Nat) (trace : List Act)

@[simp] theorem callsIn_map_under : callsIn (trace.map (Act.under deadline)) = callsIn trace := by
  rw [callsIn, callsIn, List.filterMap_map]
  refine congrArg (List.filterMap · trace) (funext fun act => ?_)
  cases act <;> rfl

@[simp] theorem eventsIn_map_under : eventsIn (trace.map (Act.under deadline)) = eventsIn trace := by
  rw [eventsIn, eventsIn, List.filterMap_map]
  refine congrArg (List.filterMap · trace) (funext fun act => ?_)
  cases act <;> rfl

@[simp] theorem purchasesIn_map_under :
    purchasesIn (trace.map (Act.under deadline)) =
      (purchasesIn trace).map fun purchase => ⟨purchase.gasPrice, deadline⟩ := by
  rw [purchasesIn, purchasesIn, List.filterMap_map, List.map_filterMap]
  refine congrArg (List.filterMap · trace) (funext fun act => ?_)
  cases act <;> rfl

end

theorem map_under_eq_self {deadline : Option Nat} {trace : List Act}
    (h : ∀ purchase ∈ purchasesIn trace, purchase.deadline = deadline) :
    trace.map (Act.under deadline) = trace := by
  induction trace with
  | nil => rfl
  | cons act rest ih =>
      cases act with
      | purchased purchase =>
          have hfirst : purchase.deadline = deadline := h purchase (by simp)
          have hrest := ih fun other hother => h other (by simp [hother])
          rw [List.map_cons, hrest, Act.under, ← hfirst]
      | askedNetworkId => exact congrArg (List.cons _) (ih h)
      | called call => exact congrArg (List.cons _) (ih h)
      | logged event => exact congrArg (List.cons _) (ih h)

/-! ### Answers -/

theorem Provider.answer_of_not_own {p : Provider} {call : Call} (hown : p.own call = none) :
    p.answer call = p.usual call := by
  rw [answer, hown, Option.getD_none]

theorem Provider.usual_balanceOfCall (p : Provider) (token account : Address) :
    p.usual (Token.balanceOfCall token account) = (p.balances.lookup account).getD p.balance := by
  have hdata := Token.data_balanceOfCall token account
  have hselector : Token.balanceOfSelector.length = 4 := by rw [Token.balanceOfSelector_eq]; rfl
  have htake : (Token.balanceOfCall token account).data.take 4 = Token.balanceOfSelector := by
    rw [hdata, List.take_left' hselector]
  have hdrop : (Token.balanceOfCall token account).data.drop 16 = account.toWord.toBytes.drop 12 := by
    rw [hdata, show 16 = Token.balanceOfSelector.length + 12 by rw [hselector],
      List.drop_length_add_append]
  rw [Provider.usual, if_pos ⟨Token.length_balanceOfCall token account, htake⟩, hdrop,
    Address.ofBytes_drop_toWord]

theorem Provider.usual_symbolCall (p : Provider) (token : Address) :
    p.usual (Token.symbolCall token) = p.symbol := by
  have hbalance : ¬ (Token.symbolSelector.length = 36 ∧
      Token.symbolSelector.take 4 = Token.balanceOfSelector) := by
    rw [Token.symbolSelector_eq]
    rintro ⟨hlength, -⟩
    cases hlength
  have hdata : (Token.symbolCall token).data = Token.symbolSelector := by simp only [Token.symbolCall]
  rw [Provider.usual, hdata, if_neg hbalance, if_pos rfl]

/-! ### Runs -/

section

variable (provider : Provider) (executor : Reply Unit) (ctx : Context)

theorem scripted_behind (front : List Act) :
    Services.Related (fun w behind => behind = ⟨w.now, front ++ w.trace⟩)
      (scripted provider executor ctx) (scripted provider executor ctx) where
  networkId w _ h := by
    subst h
    simp [scripted, World.record]
  read operation call w _ h := by
    subst h
    simp [scripted, World.record]
  buy gasPrice w _ h := by
    subst h
    simp [scripted, World.record]
  log event w _ h := by
    subst h
    simp [scripted, World.record]

/-- What was traced before a run is only carried along. -/
theorem Procedure.run_behind {α : Type} (p : Procedure α) (front : List Act) (w : World) :
    p.run (scripted provider executor ctx) ⟨w.now, front ++ w.trace⟩ =
      ((p.run (scripted provider executor ctx) w).1,
        ⟨(p.run (scripted provider executor ctx) w).2.now,
          front ++ (p.run (scripted provider executor ctx) w).2.trace⟩) := by
  obtain ⟨hresult, hworld⟩ := p.run_related (scripted_behind provider executor ctx front)
    (s := w) (t := ⟨w.now, front ++ w.trace⟩) rfl
  exact Prod.ext hresult.symm hworld

theorem Procedure.run_step_behind {α : Type} {p rest : Procedure α} {now : Nat} {w : World}
    (h : p.step (scripted provider executor ctx) ⟨now, []⟩ = some (rest, w)) (front : List Act) :
    p.run (scripted provider executor ctx) ⟨now, front⟩ =
      rest.run (scripted provider executor ctx) ⟨w.now, front ++ w.trace⟩ := by
  have hfirst := p.run_behind provider executor ctx front ⟨now, []⟩
  rw [List.append_nil, Procedure.run_of_step _ h] at hfirst
  rw [hfirst, Procedure.run_behind]

theorem Procedure.step_scripted {α : Type} {p rest : Procedure α} {now : Nat} {w : World}
    (h : p.step (scripted provider executor ctx) ⟨now, []⟩ = some (rest, w)) :
    now ≤ w.now ∧ ∃ act, w.trace = [act] := by
  cases p with
  | done a => cases h
  | fail fault => cases h
  | networkId next =>
      cases h
      exact ⟨Nat.le_refl now, _, rfl⟩
  | read operation call next =>
      cases h
      exact ⟨ctx.le_wait_end operation (provider.answer call) now, _, rfl⟩
  | buy gasPrice next =>
      cases h
      exact ⟨Nat.le_add_right now executor.delay, _, rfl⟩
  | log event next =>
      cases h
      exact ⟨Nat.le_refl now, _, rfl⟩

theorem Procedure.le_run {α : Type} (p : Procedure α) (w : World) :
    w.now ≤ (p.run (scripted provider executor ctx) w).2.now := by
  induction p generalizing w with
  | done a => exact Nat.le_refl w.now
  | fail fault => exact Nat.le_refl w.now
  | networkId next ih => exact ih _ (w.record .askedNetworkId)
  | read operation call next ih =>
      have hwait := ctx.le_wait_end operation (provider.answer call) w.now
      exact Nat.le_trans hwait (ih _ ((scripted provider executor ctx).read operation call w).2)
  | buy gasPrice next ih =>
      have hbuy := Nat.le_add_right w.now executor.delay
      exact Nat.le_trans hbuy (ih _ ((scripted provider executor ctx).buy gasPrice w).2)
  | log event next ih => exact ih (w.record (.logged event))

theorem scripted_remaining (start : Nat) :
    Services.Related
      (fun alone w => w = ⟨start + alone.now, alone.trace.map (Act.under ctx.deadline)⟩)
      (scripted provider executor (ctx.remaining start)) (scripted provider executor ctx) where
  networkId w _ h := by
    subst h
    simp [scripted, World.record, Act.under]
  read operation call w _ h := by
    subst h
    simp [scripted, World.record, Act.under, Context.wait_remaining]
  buy gasPrice w _ h := by
    subst h
    simp [scripted, World.record, Act.under, Nat.add_assoc]
  log event w _ h := by
    subst h
    simp [scripted, World.record, Act.under]

/-- A run from some time on is the run from zero with what is left of the time; only purchases show the
deadline. -/
theorem Procedure.play_remaining {α : Type} (p : Procedure α) (start : Nat) :
    p.play provider executor ctx start =
      let alone := p.play provider executor (ctx.remaining start) 0
      { alone.under ctx.deadline with finish := start + alone.finish } := by
  obtain ⟨hresult, hworld⟩ := p.run_related (scripted_remaining provider executor ctx start)
    (s := ⟨0, []⟩) (t := ⟨start, []⟩) rfl
  simp only [Procedure.play, Record.under, hresult, hworld]

end

end LiquidityTrigger
