import LiquidityTrigger.Proofs.Evaluation.Reads
import LiquidityTrigger.Proofs.Node.Scripted

/-!
# Two limits on one wait

A read over a node waits within the client's patience and within the evaluation's time. Of a silent node the
nearer of the two is heard, and the client's on a tie (`wait_silent`). The same fault ends a decision if it
stands in for a balance (`result_of_balanceless`), and is shown in a diagnostic if it stands in for a symbol
(`scarce_of_two_calls`). A decision over a node is a scripted one, so this is all that silence can do to it.
-/

namespace LiquidityTrigger

/-! ### Scripted decisions -/

section

variable {config : Config} {function : LiquidityFunction} {tx : Transaction} {provider : Provider}
  {executor : Reply Unit} {ctx : Context} {start : Nat} {record : Record Outcome}

theorem result_of_balanceless {fault : Fault} {later : Nat}
    (hbalance : ∀ sender, balanceRead config provider ctx start sender = (.error fault, later))
    (hcourse : Course config function tx provider executor ctx start record)
    (hcalls : callsIn record.trace ≠ []) :
    record.result = .error fault ∧ record.finish = later ∧ (callsIn record.trace).length = 1 := by
  have hnot {sender : Address} {balance : Word} {now : Nat}
      (hread : balanceRead config provider ctx start sender = (.ok balance, now)) : False := by
    rw [hbalance] at hread
    cases hread
  cases hcourse with
  | undecodable hdecode => exact absurd rfl hcalls
  | senderless hdecode hsender => exact absurd rfl hcalls
  | irrelevant hdecode hsender hlegs => exact absurd rfl hcalls
  | balanceless hreach hread =>
      rw [hbalance] at hread
      cases hread
      exact ⟨rfl, rfl, rfl⟩
  | uncovered hreach hread hshort => exact (hnot hread).elim
  | scarcePair hreach hread hcovered hpaired hscarce hsymbol => exact (hnot hread).elim
  | scarceNative hreach hread hcovered hpaired hscarce => exact (hnot hread).elim
  | underdeclared hreach hread hcovered hpaired hattached hdeclared => exact (hnot hread).elim
  | bought hreach hread hcovered hsuffices hexecutor => exact (hnot hread).elim
  | refused hreach hread hcovered hsuffices hexecutor => exact (hnot hread).elim

/-- A decision reads twice only to show how little stands against the target, in tokens. -/
theorem scarce_of_two_calls (hcourse : Course config function tx provider executor ctx start record)
    (hcalls : 1 < (callsIn record.trace).length) :
    ∃ sender legs balance now token minAmount,
      ReachesBalance config function tx sender legs ∧
      balanceRead config provider ctx start sender = (.ok balance, now) ∧
      legs.paired = .token token minAmount ∧
      record.result = .ok (.suppressed (.belowThreshold
        ⟨minAmount, config.minLiquidity, some (symbolRead provider ctx now token).1⟩)) ∧
      record.finish = (symbolRead provider ctx now token).2 ∧ purchasesIn record.trace = [] := by
  cases hcourse with
  | scarcePair hreach hread hcovered hpaired hscarce hsymbol =>
      refine ⟨_, _, _, _, _, _, hreach, hread, hpaired, ?_, ?_, rfl⟩
      · rw [hsymbol]
      · rw [hsymbol]
  | undecodable hdecode => simp at hcalls
  | senderless hdecode hsender => simp at hcalls
  | irrelevant hdecode hsender hlegs => simp at hcalls
  | balanceless hreach hread => simp [openingTrace] at hcalls
  | uncovered hreach hread hshort => simp [openingTrace] at hcalls
  | scarceNative hreach hread hcovered hpaired hscarce => simp [openingTrace] at hcalls
  | underdeclared hreach hread hcovered hpaired hattached hdeclared => simp [openingTrace] at hcalls
  | bought hreach hread hcovered hsuffices hexecutor => simp [openingTrace] at hcalls
  | refused hreach hread hcovered hsuffices hexecutor => simp [openingTrace] at hcalls

end

namespace Node

/-! ### The nearer limit -/

/-- An answer of which nothing is heard, under any identifier. -/
def Answer.Silent (t : Transport) (answer : Answer) : Prop := ∀ id, t.read id answer = none

theorem Answer.silent_silence (t : Transport) : Answer.silence.Silent t := by
  intro id
  cases t <;> rfl

/-- The fault of a read of a silent node, within a client's patience and perhaps a limit of the operation. -/
def limitFault (operation : String) (patience : Nat) : Option Nat → Fault
  | none => timeoutFault callMethod patience
  | some limit =>
      if patience ≤ limit then timeoutFault callMethod patience else Context.timeoutFault operation

def limitWait (patience : Nat) : Option Nat → Nat
  | none => patience
  | some limit => min patience limit

section

variable {r : Rotation} {sent : Nat} {s : Session} {answer : Answer}

theorem Rotation.hearsCall_silent (h : answer.Silent r.transport) (sent : Nat) :
    r.hearsCall sent answer = ⟨.error (timeoutFault callMethod r.timeout), r.timeout⟩ := by
  have hread : (r.client sent (r.turn sent)).transport.read (r.client sent (r.turn sent)).nextId
      answer = none := h _
  rw [hearsCall, hears, Client.hears, hread]
  rfl

theorem wait_silent (hpatient : r.timeout ≠ 0) (h : answer.Silent r.transport) (sent : Nat)
    (operation : String) (s : Session) (limit : Option Nat) :
    (s.contextOf limit).wait operation (r.hearsCall sent answer) s.world.now =
      (.error (limitFault operation r.timeout limit), s.world.now + limitWait r.timeout limit) := by
  rw [Rotation.hearsCall_silent h, Context.wait, if_neg hpatient]
  cases limit with
  | none => rfl
  | some limit =>
      simp only [Session.contextOf, Option.elim_some, Context.withTimeout, limitFault, limitWait]
      by_cases hnearer : r.timeout ≤ limit
      · rw [if_pos (Nat.add_le_add_left hnearer _), if_pos hnearer, Nat.min_eq_left hnearer]
      · have hlate : ¬ s.world.now + r.timeout ≤ s.world.now + limit := by omega
        rw [if_neg hlate, if_neg hnearer, Nat.max_eq_left (Nat.le_add_right _ _),
          Nat.min_eq_right (Nat.le_of_not_le hnearer)]

theorem Session.step_balanceOf (s : Session) (token account : Address) (limit : Option Nat) :
    s.step (.balanceOf token account limit) =
      let read := s.read (s.contextOf limit) "balanceOf" (Token.balanceOfCall token account)
      ((Token.balanceOfAnswer read.1).map .amount, read.2) := by
  rw [step, Token.balanceOf, Procedure.run_bind_of_ok (Procedure.run_tryRead _ _ _ _),
    Procedure.run_ofExcept]
  rfl

theorem balanceOf_silent (hat : r.At sent s)
    (hsilent : (s.world.script.reply callMethod 0).Silent r.transport) (token account : Address)
    (limit : Option Nat) :
    let entry := s.entry (.balanceOf token account limit)
    entry.result = .error (limitFault "balanceOf" r.timeout limit) ∧
      entry.now = s.world.now + limitWait r.timeout limit ∧ entry.methods = [callMethod] := by
  have hread : s.fresh.read (s.contextOf limit) "balanceOf" (Token.balanceOfCall token account) =
      (.error (limitFault "balanceOf" r.timeout limit),
        (r.behind sent callMethod (callParams (Token.balanceOfCall token account)) s.fresh).atTime
          (s.world.now + limitWait r.timeout limit)) := by
    have hwaited := Rotation.read_eq hat.fresh (s.contextOf limit) "balanceOf"
      (Token.balanceOfCall token account)
    have hwait : (s.contextOf limit).wait "balanceOf"
        (r.hearsCall sent (s.fresh.world.script.reply callMethod 0)) s.fresh.world.now = _ :=
      wait_silent hat.patient hsilent sent "balanceOf" s limit
    simp only [hwait] at hwaited
    exact hwaited
  have hstep : s.fresh.step (.balanceOf token account limit) = _ :=
    s.fresh.step_balanceOf token account limit
  have hcontext : s.fresh.contextOf limit = s.contextOf limit := rfl
  simp only [hcontext, hread] at hstep
  simp only [Session.entry, Entry.methods, hstep]
  exact ⟨rfl, rfl, rfl⟩

theorem balanceRead_provider (config : Config) (script : Script) (ctx : Context) (start : Nat)
    (sender : Address) :
    balanceRead config (r.provider script sent) ctx start sender =
      let waited := ctx.wait "balanceOf" (r.hearsCall sent (script.reply callMethod 0)) start
      (Token.balanceOfAnswer waited.1, waited.2) := by
  rw [balanceRead, readOf, Provider.answer_of_not_own (p := r.provider script sent) rfl,
    Provider.usual_balanceOfCall]
  rfl

theorem symbolRead_provider (script : Script) (ctx : Context) (start : Nat) (token : Address) :
    symbolRead (r.provider script sent) ctx start token =
      let waited := ctx.wait "symbol" (r.hearsCall (sent + 1) (script.reply callMethod 1)) start
      (Token.symbolOfAnswer waited.1, waited.2) := by
  rw [symbolRead, readOf, Provider.answer_of_not_own (p := r.provider script sent) rfl,
    Provider.usual_symbolCall]
  rfl

/-- A balance is heard at once or not at all. -/
theorem now_of_balanceRead {config : Config} {script : Script} {ctx : Context} {start now : Nat}
    {sender : Address} {balance : Word}
    (h : balanceRead config (r.provider script sent) ctx start sender = (.ok balance, now)) :
    now = start := by
  rw [balanceRead_provider] at h
  obtain ⟨hbalance, hnow⟩ := Prod.mk.inj h
  obtain ⟨out, hout, -⟩ := Token.balanceOfAnswer_eq_ok_iff.mp hbalance
  obtain ⟨hresult, htime⟩ := Context.wait_eq_ok_iff.mp hout
  rw [Context.wait_of_inTime htime] at hnow
  rw [← hnow]
  exact congrArg (start + ·) (Client.delay_of_hears_ok hresult)

theorem process_balance_silent (hat : r.At sent s)
    (hsilent : (s.world.script.reply callMethod 0).Silent r.transport)
    (choice : LiquidityTrigger.Settings) (tx : Except Fault Transaction) (limit : Option Nat)
    (hcall : callMethod ∈ (s.entry (.process choice tx limit)).methods) :
    let entry := s.entry (.process choice tx limit)
    entry.result = .error (limitFault "balanceOf" r.timeout limit) ∧
      entry.now = s.world.now + limitWait r.timeout limit ∧
      entry.methods = List.replicate choice.networkQuestions networkMethod ++ [callMethod] := by
  intro entry
  obtain ⟨decoded, config, function, record, -, -, -, hcourse, hshows⟩ :=
    exists_course_of_call hat choice tx limit hcall
  have hread (sender : Address) :
      balanceRead config (r.provider s.world.script (sent + choice.networkQuestions))
        (s.contextOf limit) s.world.now sender =
          (.error (limitFault "balanceOf" r.timeout limit),
            s.world.now + limitWait r.timeout limit) := by
    rw [balanceRead_provider, wait_silent hat.patient hsilent]
    rfl
  have hcalls : callsIn record.trace ≠ [] := by
    have hcount := List.count_pos_iff.mpr hcall
    rw [hshows.count_callMethod] at hcount
    exact List.ne_nil_of_length_pos hcount
  obtain ⟨hresult, hfinish, hlength⟩ := result_of_balanceless hread hcourse hcalls
  refine ⟨?_, hshows.now.trans hfinish, ?_⟩
  · rw [hshows.result, hresult]
    rfl
  · rw [hshows.methods, hlength]
    rfl

theorem process_symbol_silent (hat : r.At sent s)
    (hsilent : (s.world.script.reply callMethod 1).Silent r.transport)
    (choice : LiquidityTrigger.Settings) (tx : Except Fault Transaction) (limit : Option Nat)
    (hcalls : 1 < (s.entry (.process choice tx limit)).methods.count callMethod) :
    let entry := s.entry (.process choice tx limit)
    ∃ decoded config function sender legs token minAmount,
      tx = .ok decoded ∧ (∃ id, choice.Makes (some id) config) ∧
      LiquidityFunction.detect decoded.data = some function ∧
      ReachesBalance config function decoded sender legs ∧ legs.paired = .token token minAmount ∧
      entry.result = .ok (some (.processed
        ⟨.suppressed (.belowThreshold ⟨minAmount, config.minLiquidity,
          some (limitFault "symbol" r.timeout limit).message⟩), config.chainId, []⟩)) ∧
      entry.now = s.world.now + limitWait r.timeout limit := by
  intro entry
  have hcall := List.count_pos_iff.mp (Nat.lt_trans Nat.zero_lt_one hcalls)
  obtain ⟨decoded, config, function, record, htx, hmakes, hdetect, hcourse, hshows⟩ :=
    exists_course_of_call hat choice tx limit hcall
  rw [hshows.count_callMethod] at hcalls
  obtain ⟨sender, legs, balance, now, token, minAmount, hreach, hread, hpaired, hresult, hfinish,
    hpurchases⟩ := scarce_of_two_calls hcourse hcalls
  obtain rfl := now_of_balanceRead hread
  rw [symbolRead_provider, wait_silent hat.patient hsilent] at hresult hfinish
  refine ⟨decoded, config, function, sender, legs, token, minAmount, htx, hmakes, hdetect, hreach,
    hpaired, ?_, hshows.now.trans hfinish⟩
  rw [hshows.result, hresult, hpurchases]
  rfl

end

/-- A wait for a silent node ends behind the client's patience or behind the limit, whichever is shorter; for a
symbol the text of that fault stands in the diagnostic. -/
theorem nearer_limit_ends_wait (opening : Opening) (settings : Settings) (w w' : World)
    (hserving : w.Serving) (connection : Connection)
    (hmade : opening.make settings w = (.ok connection, w')) (history : List Session.Step)
    (limit : Option Nat) :
    let s := (Session.mk connection w' []).after history
    let t := opening.transport settings.endpoint
    let reply := s.world.script.reply callMethod
    let fault := fun operation => limitFault operation settings.timeout limit
    let later := s.world.now + limitWait settings.timeout limit
    (∀ token account, (reply 0).Silent t →
      let entry := s.entry (.balanceOf token account limit)
      entry.result = .error (fault "balanceOf") ∧ entry.now = later ∧ entry.methods = [callMethod]) ∧
    ∀ choice tx,
      let entry := s.entry (.process choice tx limit)
      (callMethod ∈ entry.methods → (reply 0).Silent t →
        entry.result = .error (fault "balanceOf") ∧ entry.now = later ∧
        entry.methods = List.replicate choice.networkQuestions networkMethod ++ [callMethod]) ∧
      (1 < entry.methods.count callMethod → (reply 1).Silent t →
        ∃ decoded config function sender legs token minAmount,
          tx = .ok decoded ∧ (∃ id, choice.Makes (some id) config) ∧
          LiquidityFunction.detect decoded.data = some function ∧
          ReachesBalance config function decoded sender legs ∧ legs.paired = .token token minAmount ∧
          entry.result = .ok (some (.processed
            ⟨.suppressed (.belowThreshold ⟨minAmount, config.minLiquidity,
              some (fault "symbol").message⟩), config.chainId, []⟩)) ∧
          entry.now = later) := by
  intro s t reply fault later
  obtain ⟨r, hstart, htimeout, htransport⟩ := exists_at_of_make hserving hmade []
  obtain ⟨sent, hat⟩ := hstart.exists_after history
  simp only [t, fault, later, ← htimeout, ← htransport]
  refine ⟨fun token account hsilent => balanceOf_silent hat hsilent token account limit,
    fun choice tx => ⟨fun hcall hsilent => ?_, fun hcalls hsilent => ?_⟩⟩
  · exact process_balance_silent hat hsilent choice tx limit hcall
  · exact process_symbol_silent hat hsilent choice tx limit hcalls

def sampleHush : World :=
  ⟨0, .reachable,
    [(networkMethod, [.result (.text "56")]),
      (callMethod, [.result (.text (Bytes.hex samplePair.amountAMin.toBytes)), .silence])], []⟩

theorem sampleHush_serving : sampleHush.Serving :=
  ⟨rfl, by simp [sampleHush, Script.KeepsConnection]⟩

theorem sampleHush_calls :
    let made := makeSingle samplePool .http sampleHush
    let s : Session := ⟨⟨[samplePool.madeClient .http 0], 0, false⟩, made.2, []⟩
    (s.entry (.process sampleChoice (.ok sampleAddition) (some 60))).methods.count callMethod = 2 := by
  intro made s
  have hmade : makeSingle samplePool .http sampleHush = (.ok s.connection, made.2) :=
    Prod.ext (by decide +kernel) rfl
  have hat := at_of_makeSingle sampleHush_serving hmade []
  have hconfig : ((connect sampleChoice).run (Session.services (s.fresh.contextOf (some 60)))
      ⟨s.fresh.connection, s.fresh.world, []⟩).1 = .ok sampleConfig := by
    decide +kernel
  have hshows := shows_of_connect hat (Prod.ext hconfig rfl) sampleAddition
  have htakes : Entry.process.Takes sampleAddition.data .addLiquidity := by
    rw [Entry.Takes, LiquidityFunction.selector_addLiquidity]
    decide +kernel
  have hdecide : Entry.process.decide sampleConfig sampleAddition =
      evaluate sampleConfig .addLiquidity sampleAddition := Entry.decide_of_takes htakes
  rw [Entry.decide] at hdecide
  have hread : balanceRead sampleConfig
      ((samplePool.rotation .http 1 false).provider made.2.script (0 + sampleChoice.networkQuestions))
      (s.contextOf (some 60)) s.world.now sampleSender = (.ok samplePair.amountAMin, 0) := by
    rw [balanceRead_provider]
    decide +kernel
  rw [hshows.count_callMethod, hdecide,
    play_of_course (.scarcePair sampleAddition_reaches hread (by decide) rfl (by decide) rfl)]
  rfl

theorem sampleHush_limits :
    let made := makeSingle samplePool .http sampleHush
    let connection : Connection := ⟨[samplePool.madeClient .http 0], 0, false⟩
    let read : Session.Step := .call (Token.symbolCall sampleConfig.target)
    let question : Session.Step := .balanceOf sampleConfig.target sampleConfig.paired none
    let balance := ((Session.mk connection made.2 []).after [read]).entry question
    let decision := ((Session.mk connection made.2 []).after []).entry
      (.process sampleChoice (.ok sampleAddition) (some 60))
    sampleHush.Serving ∧ made = (.ok connection, made.2) ∧
    ((Session.mk connection made.2 []).run [read, question]).getLast? = some balance ∧
    1 < decision.methods.count callMethod ∧
    balance.result = .error (timeoutFault callMethod 5000) ∧ balance.now = 5000 ∧
    decision.now = 60 ∧ ∃ diagnostic chainId,
      decision.result = .ok (some (.processed ⟨.suppressed (.belowThreshold diagnostic), chainId, []⟩)) ∧
      diagnostic.symbol = some (Context.timeoutFault "symbol").message := by
  intro made connection read question balance decision
  have hmade : made = (.ok connection, made.2) := Prod.ext (by decide +kernel) rfl
  have hlast : ((Session.mk connection made.2 []).run [read, question]).getLast? = some balance := by
    rw [show [read, question] = [read] ++ question :: [] from rfl, Session.run_shows]
    exact List.getLast?_concat
  have hcalls : 1 < decision.methods.count callMethod :=
    Nat.lt_of_lt_of_eq Nat.one_lt_two sampleHush_calls.symm
  obtain ⟨hbalance, -⟩ := nearer_limit_ends_wait (.single .http) samplePool sampleHush made.2
    sampleHush_serving connection hmade [read] none
  obtain ⟨-, hdecision⟩ := nearer_limit_ends_wait (.single .http) samplePool sampleHush made.2
    sampleHush_serving connection hmade [] (some 60)
  obtain ⟨hresult, hnow, -⟩ := hbalance sampleConfig.target sampleConfig.paired
    (Answer.silent_silence .http)
  obtain ⟨-, config, -, -, -, -, minAmount, -, -, -, -, -, hdiagnosed, hlater⟩ :=
    (hdecision sampleChoice (.ok sampleAddition)).2 hcalls (Answer.silent_silence .http)
  exact ⟨sampleHush_serving, hmade, hlast, hcalls, hresult, hnow, hlater, _, _, hdiagnosed, rfl⟩

end Node

end LiquidityTrigger
