import LiquidityTrigger.Proofs.Scripted

/-!
# Procedures that log other events

A procedure that logs a rewritten event wherever another one logs an event makes the same requests and
comes to the same result. So services that make no difference between the two events leave no difference
at all, and against scripted services only the events in the trace differ.
-/

namespace LiquidityTrigger

def Act.mapEvent (f : Event → Event) : Act → Act
  | .logged event => .logged (f event)
  | act => act

def Record.mapEvents {α : Type} (f : Event → Event) (record : Record α) : Record α :=
  { record with trace := record.trace.map (Act.mapEvent f) }

section

variable (f : Event → Event) (trace : List Act)

@[simp] theorem callsIn_map_mapEvent : callsIn (trace.map (Act.mapEvent f)) = callsIn trace := by
  rw [callsIn, callsIn, List.filterMap_map]
  refine congrArg (List.filterMap · trace) (funext fun act => ?_)
  cases act <;> rfl

@[simp] theorem purchasesIn_map_mapEvent :
    purchasesIn (trace.map (Act.mapEvent f)) = purchasesIn trace := by
  rw [purchasesIn, purchasesIn, List.filterMap_map]
  refine congrArg (List.filterMap · trace) (funext fun act => ?_)
  cases act <;> rfl

@[simp] theorem eventsIn_map_mapEvent :
    eventsIn (trace.map (Act.mapEvent f)) = (eventsIn trace).map f := by
  rw [eventsIn, eventsIn, List.filterMap_map, List.map_filterMap]
  refine congrArg (List.filterMap · trace) (funext fun act => ?_)
  cases act <;> rfl

end

namespace Procedure

variable {α β σ : Type} (f : Event → Event)

def mapEvents : Procedure α → Procedure α
  | done a => done a
  | fail fault => fail fault
  | networkId next => networkId fun answer => (next answer).mapEvents
  | read operation call next => read operation call fun answer => (next answer).mapEvents
  | buy gasPrice next => buy gasPrice fun answer => (next answer).mapEvents
  | log event next => log (f event) next.mapEvents

@[simp] theorem mapEvents_pure (a : α) : (pure a : Procedure α).mapEvents f = pure a := rfl

@[simp] theorem mapEvents_fail (fault : Fault) :
    (fail fault : Procedure α).mapEvents f = fail fault := rfl

@[simp] theorem mapEvents_ofExcept (result : Except Fault α) :
    (ofExcept result).mapEvents f = ofExcept result := by
  cases result <;> rfl

@[simp] theorem mapEvents_emit (event : Event) : (emit event).mapEvents f = emit (f event) := rfl

@[simp] theorem mapEvents_tryRead (operation : String) (call : Call) :
    (tryRead operation call).mapEvents f = tryRead operation call := rfl

@[simp] theorem mapEvents_tryBuy (gasPrice : Word) :
    (tryBuy gasPrice).mapEvents f = tryBuy gasPrice := rfl

@[simp] theorem mapEvents_bind (p : Procedure α) (next : α → Procedure β) :
    (p >>= next).mapEvents f = p.mapEvents f >>= fun a => (next a).mapEvents f := by
  change (p.bind next).mapEvents f = (p.mapEvents f).bind fun a => (next a).mapEvents f
  induction p with
  | done a => rfl
  | fail fault => rfl
  | networkId next ih => exact congrArg networkId (funext ih)
  | read operation call next ih => exact congrArg (read operation call) (funext ih)
  | buy gasPrice next ih => exact congrArg (buy gasPrice) (funext ih)
  | log event next ih => exact congrArg (log (f event)) ih

/-! ### Runs -/

theorem run_mapEvents (services : Services σ) (p : Procedure α) (s : σ) :
    (p.mapEvents f).run services s =
      p.run { services with log := fun event => services.log (f event) } s := by
  induction p generalizing s with
  | done a => rfl
  | fail fault => rfl
  | networkId next ih => exact ih _ _
  | read operation call next ih => exact ih _ _
  | buy gasPrice next ih => exact ih _ _
  | log event next ih => exact ih _

/-- Services that take a rewritten event for the event itself see no difference. -/
theorem run_mapEvents_of_blind {services : Services σ}
    (hblind : ∀ event, services.log (f event) = services.log event) (p : Procedure α) (s : σ) :
    (p.mapEvents f).run services s = p.run services s := by
  rw [run_mapEvents, funext hblind]

theorem scripted_mapEvent (provider : Provider) (executor : Reply Unit) (ctx : Context) :
    Services.Related (fun w rewritten => rewritten = ⟨w.now, w.trace.map (Act.mapEvent f)⟩)
      (scripted provider executor ctx)
      { scripted provider executor ctx with
        log := fun event => (scripted provider executor ctx).log (f event) } where
  networkId w _ h := by
    subst h
    simp [scripted, World.record, Act.mapEvent]
  read operation call w _ h := by
    subst h
    simp [scripted, World.record, Act.mapEvent]
  buy gasPrice w _ h := by
    subst h
    simp [scripted, World.record, Act.mapEvent]
  log event w _ h := by
    subst h
    simp [scripted, World.record, Act.mapEvent]

theorem play_mapEvents (p : Procedure α) (provider : Provider) (executor : Reply Unit)
    (ctx : Context) (start : Nat) :
    (p.mapEvents f).play provider executor ctx start =
      (p.play provider executor ctx start).mapEvents f := by
  obtain ⟨hresult, hworld⟩ := p.run_related (scripted_mapEvent f provider executor ctx)
    (s := ⟨start, []⟩) (t := ⟨start, []⟩) rfl
  simp only [play, Record.mapEvents, run_mapEvents, ← hresult, hworld]

end Procedure

end LiquidityTrigger
