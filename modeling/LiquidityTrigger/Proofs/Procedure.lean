import LiquidityTrigger.Scripted

/-!
# Laws of runs

A run of a procedure follows its tree, so a run of one procedure and then another is the first run
and then, unless it failed, the second. Two runs of one procedure go the same way as long as the services
answer alike. The rest of the theory reaches `Procedure.run` only through these laws.
-/

namespace LiquidityTrigger

namespace Procedure

variable {α β σ : Type} (services : Services σ)

@[simp] theorem run_pure (a : α) (s : σ) : (pure a : Procedure α).run services s = (.ok a, s) := rfl

@[simp] theorem run_fail (fault : Fault) (s : σ) :
    (fail fault : Procedure α).run services s = (.error fault, s) := rfl

theorem bind_assoc {γ : Type} (p : Procedure α) (f : α → Procedure β) (g : β → Procedure γ) :
    p >>= f >>= g = p >>= fun a => f a >>= g := by
  change (p.bind f).bind g = p.bind fun a => (f a).bind g
  induction p with
  | done a => rfl
  | fail fault => rfl
  | networkId next ih => exact congrArg networkId (funext ih)
  | read operation call next ih => exact congrArg (read operation call) (funext ih)
  | buy gasPrice next ih => exact congrArg (buy gasPrice) (funext ih)
  | log event next ih => exact congrArg (log event) ih

/-- A failed first part ends the whole; its state is kept. -/
theorem run_bind (p : Procedure α) (f : α → Procedure β) (s : σ) :
    (p >>= f).run services s =
      match p.run services s with
      | (.ok a, s') => (f a).run services s'
      | (.error fault, s') => (.error fault, s') := by
  change (p.bind f).run services s = _
  induction p generalizing s with
  | done a => rfl
  | fail fault => rfl
  | networkId next ih => exact ih _ _
  | read operation call next ih => exact ih _ _
  | buy gasPrice next ih => exact ih _ _
  | log event next ih => exact ih _

variable {services}

theorem run_bind_of_ok {p : Procedure α} {f : α → Procedure β} {s s' : σ} {a : α}
    (hrun : p.run services s = (.ok a, s')) :
    (p >>= f).run services s = (f a).run services s' := by
  rw [run_bind, hrun]

theorem run_bind_of_error {p : Procedure α} {f : α → Procedure β} {s s' : σ} {fault : Fault}
    (hrun : p.run services s = (.error fault, s')) :
    (p >>= f).run services s = (.error fault, s') := by
  rw [run_bind, hrun]

variable (services)

@[simp] theorem run_ofExcept (result : Except Fault α) (s : σ) :
    (ofExcept result).run services s = (result, s) := by
  cases result <;> rfl

@[simp] theorem run_emit (event : Event) (s : σ) :
    (emit event).run services s = (.ok (), services.log event s) := rfl

@[simp] theorem run_tryRead (operation : String) (call : Call) (s : σ) :
    (tryRead operation call).run services s =
      (.ok (services.read operation call s).1, (services.read operation call s).2) := rfl

@[simp] theorem run_tryBuy (gasPrice : Word) (s : σ) :
    (tryBuy gasPrice).run services s =
      (.ok (services.buy gasPrice s).1, (services.buy gasPrice s).2) := rfl

theorem run_askNetworkId_bind (f : UInt64 → Procedure β) (s : σ) :
    (askNetworkId >>= f).run services s =
      (ofExcept (services.networkId s).1 >>= f).run services (services.networkId s).2 := rfl

/-! ### One request after another -/

theorem run_of_step {p rest : Procedure α} {s s' : σ} (h : p.step services s = some (rest, s')) :
    p.run services s = rest.run services s' := by
  cases p with
  | done a => cases h
  | fail fault => cases h
  | networkId next =>
      cases h
      rfl
  | read operation call next =>
      cases h
      rfl
  | buy gasPrice next =>
      cases h
      rfl
  | log event next =>
      cases h
      rfl

theorem exists_step_of_result {p : Procedure α} (h : p.result? = none) (s : σ) :
    ∃ rest s', p.step services s = some (rest, s') := by
  cases p with
  | done a => cases h
  | fail fault => cases h
  | networkId next => exact ⟨_, _, rfl⟩
  | read operation call next => exact ⟨_, _, rfl⟩
  | buy gasPrice next => exact ⟨_, _, rfl⟩
  | log event next => exact ⟨_, _, rfl⟩

theorem result?_of_step {p rest : Procedure α} {s s' : σ}
    (h : p.step services s = some (rest, s')) : p.result? = none := by
  cases p with
  | done a => cases h
  | fail fault => cases h
  | networkId next => rfl
  | read operation call next => rfl
  | buy gasPrice next => rfl
  | log event next => rfl

theorem run_of_result {p : Procedure α} {result : Except Fault α} (h : p.result? = some result)
    (s : σ) : p.run services s = (result, s) := by
  cases p with
  | done a =>
      cases h
      rfl
  | fail fault =>
      cases h
      rfl
  | networkId next => cases h
  | read operation call next => cases h
  | buy gasPrice next => cases h
  | log event next => cases h

end Procedure

/-! ### Services that answer alike -/

/-- Two services answer alike on related states and leave related states behind. -/
structure Services.Related {σ τ : Type} (R : σ → τ → Prop) (a : Services σ) (b : Services τ) :
    Prop where
  networkId : ∀ s t, R s t →
    (a.networkId s).1 = (b.networkId t).1 ∧ R (a.networkId s).2 (b.networkId t).2
  read : ∀ operation call s t, R s t →
    (a.read operation call s).1 = (b.read operation call t).1 ∧
      R (a.read operation call s).2 (b.read operation call t).2
  buy : ∀ gasPrice s t, R s t →
    (a.buy gasPrice s).1 = (b.buy gasPrice t).1 ∧ R (a.buy gasPrice s).2 (b.buy gasPrice t).2
  log : ∀ event s t, R s t → R (a.log event s) (b.log event t)

/-- Against such services a procedure comes to the same result, in related states. -/
theorem Procedure.run_related {α σ τ : Type} {R : σ → τ → Prop} {a : Services σ} {b : Services τ}
    (h : Services.Related R a b) (p : Procedure α) {s : σ} {t : τ} (hst : R s t) :
    (p.run a s).1 = (p.run b t).1 ∧ R (p.run a s).2 (p.run b t).2 := by
  induction p generalizing s t with
  | done value => exact ⟨rfl, hst⟩
  | fail fault => exact ⟨rfl, hst⟩
  | networkId next ih =>
      obtain ⟨hanswer, hrelated⟩ := h.networkId s t hst
      simp only [Procedure.run, hanswer]
      exact ih _ hrelated
  | read operation call next ih =>
      obtain ⟨hanswer, hrelated⟩ := h.read operation call s t hst
      simp only [Procedure.run, hanswer]
      exact ih _ hrelated
  | buy gasPrice next ih =>
      obtain ⟨hanswer, hrelated⟩ := h.buy gasPrice s t hst
      simp only [Procedure.run, hanswer]
      exact ih _ hrelated
  | log event next ih => exact ih (h.log event s t hst)

/-! ### What a procedure gives -/

/-- Whatever is answered, a procedure fails or gives something with the property. -/
inductive Procedure.Yields {α : Type} (P : α → Prop) : Procedure α → Prop
  | done {a : α} (h : P a) : Yields P (.done a)
  | fail (fault : Fault) : Yields P (.fail fault)
  | networkId {next : Except Fault UInt64 → Procedure α} (h : ∀ answer, Yields P (next answer)) :
      Yields P (.networkId next)
  | read {next : Except Fault Bytes → Procedure α} (operation : String) (call : Call)
      (h : ∀ answer, Yields P (next answer)) : Yields P (.read operation call next)
  | buy {next : Except Fault Unit → Procedure α} (gasPrice : Word)
      (h : ∀ answer, Yields P (next answer)) : Yields P (.buy gasPrice next)
  | log {next : Procedure α} (event : Event) (h : Yields P next) : Yields P (.log event next)

namespace Procedure.Yields

variable {α β σ : Type} {P : α → Prop} {Q : β → Prop} {p : Procedure α} {f : α → Procedure β}

theorem bind (hfirst : p.Yields P) (hrest : ∀ a, P a → (f a).Yields Q) : (p >>= f).Yields Q := by
  change (p.bind f).Yields Q
  induction hfirst with
  | done h => exact hrest _ h
  | fail fault => exact .fail fault
  | networkId _ ih => exact .networkId ih
  | read operation call _ ih => exact .read operation call ih
  | buy gasPrice _ ih => exact .buy gasPrice ih
  | log event _ ih => exact .log event ih

theorem anything (p : Procedure α) : p.Yields fun _ => True := by
  induction p with
  | done a => exact .done trivial
  | fail fault => exact .fail fault
  | networkId next ih => exact .networkId ih
  | read operation call next ih => exact .read operation call ih
  | buy gasPrice next ih => exact .buy gasPrice ih
  | log event next ih => exact .log event ih

theorem behind (p : Procedure α) (hrest : ∀ a, (f a).Yields Q) : (p >>= f).Yields Q :=
  (anything p).bind fun a _ => hrest a

theorem ofExcept {result : Except Fault α} (h : ∀ a, result = .ok a → P a) :
    (Procedure.ofExcept result).Yields P := by
  cases result with
  | ok a => exact .done (h a rfl)
  | error fault => exact .fail fault

theorem of_run (h : p.Yields P) {services : Services σ} {s s' : σ} {a : α}
    (hrun : p.run services s = (.ok a, s')) : P a := by
  induction h generalizing s with
  | done h =>
      cases hrun
      exact h
  | fail fault => cases hrun
  | networkId _ ih => exact ih _ hrun
  | read operation call _ ih => exact ih _ hrun
  | buy gasPrice _ ih => exact ih _ hrun
  | log event _ ih => exact ih hrun

end Procedure.Yields

end LiquidityTrigger
