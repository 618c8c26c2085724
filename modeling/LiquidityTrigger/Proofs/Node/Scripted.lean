import LiquidityTrigger.Proofs.Node.Refinement
import LiquidityTrigger.Proofs.Settings

/-!
# A decision over a node as a scripted one

A decision reads a balance and then a symbol, or less. So the provider that answers a balance by what is
heard of the node's next answer about a contract, and a symbol by what is heard of the one behind it, answers
by the call alone, and the decision over the node is the scripted one. What is known of the courses of
scripted decisions then holds over nodes, under any identifiers.
-/

namespace LiquidityTrigger.Node

/-- The provider of a node's next answers, to what is sent behind so many requests. It is not asked for the
network. -/
def Rotation.provider (r : Rotation) (script : Script) (sent : Nat) : Provider where
  balance := r.hearsCall sent (script.reply callMethod 0)
  symbol := r.hearsCall (sent + 1) (script.reply callMethod 1)
  balances := []
  networkId := .error unexpectedCall

namespace Mirrors

variable {r : Rotation} {script : Script} {asked : Nat} {front : List Request} {s : Session}
  {w : LiquidityTrigger.World} {provider : Provider} (executor : Reply Unit) (ctx : Context)

/-- The provider answers the calls of these kinds by the node's next answers in turn. -/
def Answers (r : Rotation) (script : Script) (sent : Nat) (provider : Provider) (read : Nat)
    (kinds : List (Call → Prop)) : Prop :=
  ∀ place kind call, kinds[place]? = some kind → kind call →
    provider.answer call = r.hearsCall (sent + (read + place)) (script.reply callMethod (read + place))

/-- A run that reads along these kinds goes the same way against such a provider. -/
theorem run_along {α : Type} {p : Procedure α} {kinds : List (Call → Prop)} (halong : p.ReadsAlong kinds)
    (h : Mirrors r script asked front s w)
    (hanswers : Answers r script asked provider (callsIn w.trace).length kinds) :
    (p.run (Session.servicesWith executor ctx) s).1 = (p.run (scripted provider executor ctx) w).1 ∧
      Mirrors r script asked front (p.run (Session.servicesWith executor ctx) s).2
        (p.run (scripted provider executor ctx) w).2 := by
  induction halong generalizing s w with
  | done a => exact ⟨rfl, h⟩
  | fail fault => exact ⟨rfl, h⟩
  | @read kind kinds next operation call hkind _ ih =>
      have hhears := hanswers 0 kind call rfl hkind
      rw [Nat.add_zero] at hhears
      obtain ⟨hanswer, hafter⟩ := h.read executor ctx operation call
      rw [← hhears] at hanswer hafter
      have hscripted : (scripted provider executor ctx).read operation call w =
          ((ctx.wait operation (provider.answer call) w.now).1,
            ⟨(ctx.wait operation (provider.answer call) w.now).2, w.trace ++ [.called call]⟩) := rfl
      have hrest : Answers r script asked provider (callsIn (w.trace ++ [.called call])).length kinds := by
        intro place other otherCall hother hcall
        have hlength : (callsIn (w.trace ++ [.called call])).length + place =
            (callsIn w.trace).length + (place + 1) := by
          rw [callsIn_append, callsIn_called, callsIn_nil, List.length_append, List.length_singleton]
          omega
        rw [hlength]
        exact hanswers (place + 1) other otherCall hother hcall
      simp only [Procedure.run, hanswer, hscripted]
      exact ih _ hafter hrest
  | @buy kinds next gasPrice _ ih =>
      have hrest : Answers r script asked provider
          (callsIn (w.trace ++ [.purchased ⟨gasPrice, ctx.deadline⟩])).length kinds := by
        rw [callsIn_append, callsIn_purchased, callsIn_nil, List.append_nil]
        exact hanswers
      exact ih executor.result (h.buy executor ctx gasPrice) hrest
  | @log kinds next event _ ih =>
      have hrest : Answers r script asked provider (callsIn (w.trace ++ [.logged event])).length kinds := by
        rw [callsIn_append, callsIn_logged, callsIn_nil, List.append_nil]
        exact hanswers
      exact ih (h.log executor ctx event) hrest

end Mirrors

/-! ### Decisions -/

section

variable {r : Rotation} {sent : Nat} {s : Session} {answer : Answer}

theorem Rotation.answers_provider (r : Rotation) (script : Script) (sent : Nat) :
    Mirrors.Answers r script sent (r.provider script sent) 0 [Call.AsksBalance, Call.AsksSymbol] := by
  intro place kind call hkind hcall
  rw [Nat.zero_add]
  match place with
  | 0 =>
      cases hkind
      obtain ⟨token, account, rfl⟩ := hcall
      exact (Provider.answer_of_not_own rfl).trans (Provider.usual_balanceOfCall _ token account)
  | 1 =>
      cases hkind
      obtain ⟨token, rfl⟩ := hcall
      exact (Provider.answer_of_not_own rfl).trans (Provider.usual_symbolCall _ token)
  | place + 2 => cases hkind

/-- A decision over a node goes as the scripted one, and sends one request for each of its reads. -/
theorem process_scripted (hat : r.At sent s) (hpurchases : s.purchases = []) (config : Config)
    (tx : Transaction) (executor : Reply Unit) (ctx : Context) :
    let onNode := (process config tx).run (Session.servicesWith executor ctx) s
    let record := (process config tx).play (r.provider s.world.script sent) executor ctx s.world.now
    onNode.1 = record.result ∧ onNode.2.world.now = record.finish ∧
      onNode.2.purchases = purchasesIn record.trace ∧
      ∃ reads, onNode.2.world.received = s.world.received ++ reads ∧
        List.Forall₂ Request.Asks reads (callsIn record.trace) := by
  intro onNode record
  have hstart : Mirrors r s.world.script sent s.world.received s ⟨s.world.now, []⟩ :=
    .start hat hpurchases (fun _ => rfl) rfl rfl
  obtain ⟨hresult, hend⟩ := hstart.run_along executor ctx (process_readsAlong config tx)
    (r.answers_provider s.world.script sent)
  exact ⟨hresult, hend.now, hend.purchases, hend.received⟩

/-! ### Steps -/

/-- The session without the requests that were received before. -/
def Session.fresh (s : Session) : Session := { s with world := { s.world with received := [] } }

def Session.after (s : Session) (history : List Session.Step) : Session :=
  history.foldl (fun s step => (s.fresh.step step).2) s

/-- What the answer to one more step shows. -/
def Session.entry (s : Session) (step : Session.Step) : Entry :=
  let taken := s.fresh.step step
  ⟨taken.1.map some, taken.2.world.received, taken.2.world.now⟩

/-- A run shows what each of its steps shows behind the ones before it. -/
theorem Session.run_shows (s : Session) (history : List Session.Step) (step : Session.Step)
    (rest : List Session.Step) :
    s.run (history ++ step :: rest) =
      s.run history ++ (s.after history).entry step :: ((s.after history).after [step]).run rest := by
  induction history generalizing s with
  | nil => rfl
  | cons first history ih => exact congrArg (List.cons _) (ih (s.fresh.step first).2)

theorem Rotation.At.fresh (hat : r.At sent s) : r.At sent s.fresh :=
  ⟨hat.size_pos, hat.patient, hat.connection, hat.network, hat.keeps⟩

theorem Rotation.At.exists_after (hat : r.At sent s) (history : List Session.Step) :
    ∃ later, r.At later (s.after history) := by
  induction history generalizing sent s with
  | nil => exact ⟨sent, hat⟩
  | cons step history ih =>
      obtain ⟨count, hsends, -⟩ := Rotation.step_sends hat.fresh step
      exact ih hsends.reached

def Entry.methods (entry : Entry) : List String := entry.received.map (·.method)

/-! ### Steps that decide -/

theorem Session.step_process (s : Session) (choice : LiquidityTrigger.Settings) (tx : Transaction)
    (limit : Option Nat) :
    s.step (.process choice (.ok tx) limit) =
      match (connect choice).run (services (s.contextOf limit)) ⟨s.connection, s.world, []⟩ with
      | (.error fault, s') => (.error fault, s')
      | (.ok config, s') =>
          let decided := (process config tx).run (services (s.contextOf limit)) s'
          (decided.1.map fun outcome => .processed ⟨outcome, config.chainId, decided.2.purchases⟩,
            decided.2) := by
  have hwhole : connectAndProcess choice (.ok tx) = (connect choice >>= fun config =>
      process config tx >>= fun outcome => pure (outcome, config.chainId)) := rfl
  rw [step, hwhole, Procedure.run_bind]
  rcases (connect choice).run (services (s.contextOf limit)) ⟨s.connection, s.world, []⟩ with
    ⟨fault | config, s'⟩
  · rfl
  · dsimp only
    rw [Procedure.run_bind]
    rcases (process config tx).run (services (s.contextOf limit)) s' with ⟨fault | outcome, s''⟩
    · rfl
    · rfl

/-- What a session is once settings have made a configuration: no time has passed. -/
structure Connected (r : Rotation) (sent : Nat) (choice : LiquidityTrigger.Settings) (s s' : Session)
    (config : Config) : Prop where
  makes : ∃ id, choice.Makes (some id) config
  reached : r.At (sent + choice.networkQuestions) s'
  now : s'.world.now = s.world.now
  purchases : s'.purchases = s.purchases
  reply : ∀ place, s'.world.script.reply callMethod place = s.world.script.reply callMethod place

theorem settled_services (ctx : Context) (s : Session) (checked : Except SettingsFault Config) :
    settled (Session.services ctx) s checked = (checked.mapError SettingsFault.toFault, s) := by
  cases checked with
  | error fault => rfl
  | ok config => rfl

theorem Rotation.delay_of_hearsNetwork_ok {id : UInt64} (h : (r.hearsNetwork sent answer).result = .ok id) :
    (r.hearsNetwork sent answer).delay = 0 := by
  obtain ⟨text, htext, -⟩ := bind_eq_ok.mp h
  exact Client.delay_of_hears_ok htext

/-- A run that connects asks for the network if the settings name no chain. -/
structure Connects (r : Rotation) (sent : Nat) (choice : LiquidityTrigger.Settings) (s : Session)
    (run : Except Fault Config × Session) : Prop where
  methods : run.2.world.received.map (·.method) =
    s.world.received.map (·.method) ++ List.replicate choice.networkQuestions networkMethod
  connected : ∀ config, run.1 = .ok config → Connected r sent choice s run.2 config

section

variable {choice : LiquidityTrigger.Settings} (hat : r.At sent s) (ctx : Context)

theorem exists_makes_of_settled {id : UInt64} {config : Config}
    (h : (choice.validate (some id)).mapError SettingsFault.toFault = .ok config) :
    ∃ id, choice.Makes (some id) config :=
  ⟨id, Settings.validate_eq_ok_iff.mp (mapError_eq_ok_iff.mp h)⟩

include hat

theorem connects_of_chain {id : UInt64} (hchain : choice.chainId = some id) :
    Connects r sent choice s ((connect choice).run (Session.services ctx) s) := by
  have hquestions : choice.networkQuestions = 0 := by
    rw [LiquidityTrigger.Settings.networkQuestions, hchain]
    rfl
  rw [run_connect_of_chain _ _ hchain, settled_services]
  constructor
  · rw [hquestions]
    exact (List.append_nil _).symm
  · intro config hconfig
    refine ⟨exists_makes_of_settled hconfig, ?_, rfl, rfl, fun _ => rfl⟩
    rw [hquestions]
    exact hat

theorem connects_of_question (hchain : choice.chainId = none) :
    Connects r sent choice s ((connect choice).run (Session.services ctx) s) := by
  have hquestions : choice.networkQuestions = 1 := by
    rw [LiquidityTrigger.Settings.networkQuestions, hchain]
    rfl
  let reply := r.hearsNetwork sent (s.world.script.reply networkMethod 0)
  let asked := (r.behind sent networkMethod (.array []) s).atTime (s.world.now + reply.delay)
  have hask : (Session.services ctx).networkId s = (reply.result, asked) := Rotation.networkId_eq hat
  have hmethods : asked.world.received.map (·.method) =
      s.world.received.map (·.method) ++ List.replicate choice.networkQuestions networkMethod := by
    rw [hquestions]
    exact List.map_append
  rw [run_connect_of_none (Session.services ctx) s hchain, hask]
  cases hresult : reply.result with
  | error fault => exact ⟨hmethods, fun config h => by cases h⟩
  | ok id =>
      dsimp only
      rw [settled_services]
      refine ⟨hmethods, fun config hconfig => ?_⟩
      -- An identifier is heard at once, so no time has passed.
      have hdelay : reply.delay = 0 := Rotation.delay_of_hearsNetwork_ok hresult
      refine ⟨exists_makes_of_settled hconfig, ?_, ?_, rfl, ?_⟩
      · rw [hquestions]
        exact (hat.behind _ _).atTime _
      · exact congrArg (s.world.now + ·) hdelay
      · exact fun place => Script.reply_snd_take_of_ne _ (by decide) place

theorem connect_over_node (choice : LiquidityTrigger.Settings) :
    Connects r sent choice s ((connect choice).run (Session.services ctx) s) := by
  cases hchain : choice.chainId with
  | some id => exact connects_of_chain hat ctx hchain
  | none => exact connects_of_question hat ctx hchain

end

theorem Rotation.provider_congr {script script' : Script}
    (h : ∀ place, script'.reply callMethod place = script.reply callMethod place) :
    r.provider script' sent = r.provider script sent := by
  rw [provider, provider, h, h]

theorem map_method_of_asks {reads : List Request} {calls : List Call}
    (h : List.Forall₂ Request.Asks reads calls) :
    reads.map (·.method) = List.replicate calls.length callMethod := by
  induction h with
  | nil => rfl
  | cons hasks _ ih => rw [List.map_cons, ih, hasks.method, List.length_cons, List.replicate_succ]

theorem map_some_map {ε α β : Type} (result : Except ε α) (f : α → β) :
    (result.map f).map some = result.map fun a => some (f a) := by
  cases result <;> rfl

/-- A step shows what was scripted, and one request for each read. -/
structure Entry.Shows (entry : Entry) (questions : Nat) (config : Config) (record : Record Outcome) :
    Prop where
  result : entry.result = record.result.map fun outcome =>
    some (.processed ⟨outcome, config.chainId, purchasesIn record.trace⟩)
  now : entry.now = record.finish
  methods : entry.methods = List.replicate questions networkMethod ++
    List.replicate (callsIn record.trace).length callMethod

theorem callMethod_not_mem_questions (questions : Nat) :
    callMethod ∉ List.replicate questions networkMethod := fun hmem =>
  absurd (List.eq_of_mem_replicate hmem) (by decide)

theorem Entry.Shows.count_callMethod {entry : Entry} {questions : Nat} {config : Config}
    {record : Record Outcome} (h : entry.Shows questions config record) :
    entry.methods.count callMethod = (callsIn record.trace).length := by
  rw [h.methods, List.count_append, List.count_eq_zero.mpr (callMethod_not_mem_questions questions),
    Nat.zero_add, List.count_replicate_self]

theorem shows_of_connect (hat : r.At sent s) {choice : LiquidityTrigger.Settings} {limit : Option Nat}
    {config : Config} {s' : Session}
    (hrun : (connect choice).run (Session.services (s.fresh.contextOf limit))
      ⟨s.fresh.connection, s.fresh.world, []⟩ = (.ok config, s')) (tx : Transaction) :
    (s.entry (.process choice (.ok tx) limit)).Shows choice.networkQuestions config
      ((process config tx).play (r.provider s.world.script (sent + choice.networkQuestions))
        ⟨.ok (), 0⟩ (s.contextOf limit) s.world.now) := by
  have hconnects := connect_over_node (hat.fresh.purchased []) (s.fresh.contextOf limit) choice
  rw [hrun] at hconnects
  have hmethods : s'.world.received.map (·.method) =
      List.replicate choice.networkQuestions networkMethod := hconnects.methods
  obtain ⟨-, hreached, hnow, hpurchases, hreply⟩ := hconnects.connected config rfl
  have hdecided := process_scripted hreached hpurchases config tx ⟨.ok (), 0⟩ (s.fresh.contextOf limit)
  rw [Session.servicesWith_succeeding, Rotation.provider_congr hreply, hnow] at hdecided
  obtain ⟨hresult, hfinish, hbought, reads, hreceived, hasks⟩ := hdecided
  have hstep := s.fresh.step_process choice tx limit
  rw [hrun] at hstep
  constructor
  · simp only [Session.entry, hstep, hresult, hbought]
    exact map_some_map _ _
  · simp only [Session.entry, hstep]
    exact hfinish
  · simp only [Session.entry, hstep, Entry.methods, hreceived, List.map_append, hmethods,
      map_method_of_asks hasks]
    rfl

/-- A step that decides on a transaction shows a scripted decision, unless it ends with the question for the
network. -/
theorem entry_process (hat : r.At sent s) (choice : LiquidityTrigger.Settings) (tx : Transaction)
    (limit : Option Nat) :
    let entry := s.entry (.process choice (.ok tx) limit)
    entry.methods = List.replicate choice.networkQuestions networkMethod ∨
      ∃ config, (∃ id, choice.Makes (some id) config) ∧
        entry.Shows choice.networkQuestions config
          ((process config tx).play (r.provider s.world.script (sent + choice.networkQuestions))
            ⟨.ok (), 0⟩ (s.contextOf limit) s.world.now) := by
  intro entry
  have hconnects := connect_over_node (hat.fresh.purchased []) (s.fresh.contextOf limit) choice
  rcases hrun : (connect choice).run (Session.services (s.fresh.contextOf limit))
    ⟨s.fresh.connection, s.fresh.world, []⟩ with ⟨fault | config, s'⟩
  · left
    rw [hrun] at hconnects
    have hstep := s.fresh.step_process choice tx limit
    rw [hrun] at hstep
    simp only [entry, Session.entry, hstep, Entry.methods]
    exact hconnects.methods
  · rw [hrun] at hconnects
    exact .inr ⟨config, (hconnects.connected config rfl).makes, shows_of_connect hat hrun tx⟩

theorem exists_course_of_call (hat : r.At sent s) (choice : LiquidityTrigger.Settings)
    (tx : Except Fault Transaction) (limit : Option Nat)
    (hcall : callMethod ∈ (s.entry (.process choice tx limit)).methods) :
    ∃ decoded config function record, tx = .ok decoded ∧ (∃ id, choice.Makes (some id) config) ∧
      LiquidityFunction.detect decoded.data = some function ∧
      Course config function decoded (r.provider s.world.script (sent + choice.networkQuestions))
        ⟨.ok (), 0⟩ (s.contextOf limit) s.world.now record ∧
      (s.entry (.process choice tx limit)).Shows choice.networkQuestions config record := by
  have hother := callMethod_not_mem_questions choice.networkQuestions
  cases tx with
  | error fault => cases hcall
  | ok decoded =>
      obtain hnone | ⟨config, hmakes, hshows⟩ := entry_process hat choice decoded limit
      · rw [hnone] at hcall
        exact absurd hcall hother
      · cases hdetect : LiquidityFunction.detect decoded.data with
        | none =>
            -- A call of no function is decided without a read.
            have hprocess : process config decoded = pure (.suppressed .unsupportedFunction) := by
              rw [process, hdetect]
            rw [hshows.methods, hprocess] at hcall
            exact absurd ((List.mem_append.mp hcall).resolve_right List.not_mem_nil) hother
        | some function =>
            have hprocess : process config decoded = evaluate config function decoded := by
              rw [process, hdetect]
            rw [hprocess] at hshows
            exact ⟨decoded, config, function, _, rfl, hmakes, hdetect, course_evaluate _ _ _ _ _ _ _,
              hshows⟩

end

end LiquidityTrigger.Node
