import LiquidityTrigger.Proofs.Evaluation.Agreement
import LiquidityTrigger.Proofs.Evaluation.Extent
import LiquidityTrigger.Proofs.Node.Connection
import LiquidityTrigger.Proofs.Node.Memory
import LiquidityTrigger.Proofs.Scripted

/-!
# The node behind an evaluation

An evaluation over a client of a node and the same evaluation over the provider in memory that holds the
node's answers go the same way. `Mirrors` relates the session to the world of the run in memory: the node
has received one request for every read there, what it has left to answer are the provider's further
answers, and the purchases and the clock are the same. Each request of the evaluation preserves this, and so
a run does.
-/

namespace LiquidityTrigger.Node

open Procedure

/-! ### What a read says -/

/-- A request that reads a contract in the pending state, in hexadecimal text that denotes the call. -/
structure Request.Asks (request : Request) (call : Call) : Prop where
  method : request.method = callMethod
  params : ∃ data target,
    request.params = .array [.object [("data", .text data), ("to", .text target)], .text "pending"] ∧
      Hex.toBytes? (Hex.stripMarker data.toList) = some call.data ∧
      Address.ofText? target = some call.target

theorem Rotation.request_asks (r : Rotation) (sent : Nat) (call : Call) :
    (r.request sent callMethod (callParams call)).Asks call where
  method := rfl
  params := by
    refine ⟨call.data.hex, call.target.hex, rfl, ?_, Address.ofText?_hex call.target⟩
    rw [Bytes.stripMarker_hex, Hex.toBytes?_ofBytes]

/-! ### One evaluation -/

/-- A session has come as far as a run in memory, behind requests that were there before. -/
structure Mirrors (r : Rotation) (script : Script) (asked : Nat) (front : List Request) (s : Session)
    (w : LiquidityTrigger.World) : Prop where
  reached : r.At (asked + (callsIn w.trace).length) s
  now : s.world.now = w.now
  replies : ∀ place, s.world.script.reply callMethod place =
    script.reply callMethod ((callsIn w.trace).length + place)
  purchases : s.purchases = purchasesIn w.trace
  received : ∃ reads, s.world.received = front ++ reads ∧
    List.Forall₂ Request.Asks reads (callsIn w.trace)

namespace Mirrors

variable {r : Rotation} {script : Script} {asked : Nat} {front : List Request} {s : Session}
  {w : LiquidityTrigger.World} (executor : Reply Unit) (ctx : Context)

theorem of_no_read (h : Mirrors r script asked front s w) {act : Act} {now : Nat} {s' : Session}
    (hcalls : callsIn (w.trace ++ [act]) = callsIn w.trace)
    (hreached : r.At (asked + (callsIn w.trace).length) s') (hnow : s'.world.now = now)
    (hscript : s'.world.script = s.world.script) (hreceived : s'.world.received = s.world.received)
    (hpurchases : s'.purchases = purchasesIn (w.trace ++ [act])) :
    Mirrors r script asked front s' ⟨now, w.trace ++ [act]⟩ where
  reached := by
    rw [hcalls]
    exact hreached
  now := hnow
  replies := by
    rw [hcalls, hscript]
    exact h.replies
  purchases := hpurchases
  received := by
    rw [hcalls, hreceived]
    exact h.received

theorem log (h : Mirrors r script asked front s w) (event : Event) :
    Mirrors r script asked front ((Session.servicesWith executor ctx).log event s)
      ⟨w.now, w.trace ++ [.logged event]⟩ := by
  have hpurchases : s.purchases = purchasesIn (w.trace ++ [.logged event]) := by simp [h.purchases]
  exact h.of_no_read (by simp) h.reached h.now rfl rfl hpurchases

theorem buy (h : Mirrors r script asked front s w) (gasPrice : Word) :
    Mirrors r script asked front ((Session.servicesWith executor ctx).buy gasPrice s).2
      ⟨w.now + executor.delay, w.trace ++ [.purchased ⟨gasPrice, ctx.deadline⟩]⟩ := by
  have hpurchases : s.purchases ++ [⟨gasPrice, ctx.deadline⟩] =
      purchasesIn (w.trace ++ [.purchased ⟨gasPrice, ctx.deadline⟩]) := by simp [h.purchases]
  have hnow : s.world.now + executor.delay = w.now + executor.delay := by rw [h.now]
  have hreached := (h.reached.atTime (s.world.now + executor.delay)).purchased
    (s.purchases ++ [⟨gasPrice, ctx.deadline⟩])
  exact h.of_no_read (by simp) hreached hnow rfl rfl hpurchases

/-- A read is one more request of the session. It waits for what the client whose turn it is hears. -/
theorem read (h : Mirrors r script asked front s w) (operation : String) (call : Call) :
    let answer := r.hearsCall (asked + (callsIn w.trace).length)
      (script.reply callMethod (callsIn w.trace).length)
    let waited := ctx.wait operation answer w.now
    ((Session.servicesWith executor ctx).read operation call s).1 = waited.1 ∧
      Mirrors r script asked front ((Session.servicesWith executor ctx).read operation call s).2
        ⟨waited.2, w.trace ++ [.called call]⟩ := by
  intro answer waited
  have hread : (Session.servicesWith executor ctx).read operation call s = _ :=
    Rotation.read_eq h.reached ctx operation call
  have hcalls : callsIn (w.trace ++ [.called call]) = callsIn w.trace ++ [call] := by simp
  rw [hread, h.replies 0, Nat.add_zero, h.now]
  refine ⟨rfl, ?_⟩
  constructor
  case reached =>
    rw [hcalls, List.length_append, List.length_singleton, ← Nat.add_assoc]
    exact (h.reached.behind _ _).atTime _
  case now => rfl
  case replies =>
    intro place
    rw [hcalls, List.length_append, List.length_singleton, Nat.add_assoc, Nat.add_comm 1,
      ← h.replies]
    exact Script.reply_snd_take _ _ place
  case purchases =>
    rw [purchasesIn_append, purchasesIn_called, purchasesIn_nil, List.append_nil]
    exact h.purchases
  case received =>
    obtain ⟨reads, hreceived, hasks⟩ := h.received
    refine ⟨reads ++ [r.request (asked + (callsIn w.trace).length) callMethod (callParams call)], ?_, ?_⟩
    · rw [← List.append_assoc, ← hreceived]
      rfl
    · rw [hcalls]
      exact List.rel_append hasks (.cons (r.request_asks _ call) .nil)

theorem run {α : Type} {p : Procedure α} (hleaves : p.LeavesNetwork) (hkeeps : script.KeepsConnection)
    (h : Mirrors r script asked front s w) :
    let m := Memory.ofAnswers r.sender script asked
    (p.run (Session.servicesWith executor ctx) s).1 = (p.run (m.services executor ctx) w).1 ∧
      Mirrors r script asked front (p.run (Session.servicesWith executor ctx) s).2
        (p.run (m.services executor ctx) w).2 := by
  intro m
  induction hleaves generalizing s w with
  | done a => exact ⟨rfl, h⟩
  | fail fault => exact ⟨rfl, h⟩
  | read operation call _ ih =>
      have hmemory : m.call (callsIn w.trace).length call =
          r.hearsCall (asked + (callsIn w.trace).length)
            (script.reply callMethod (callsIn w.trace).length) :=
        Memory.call_ofAnswers h.reached.patient hkeeps asked _ call
      obtain ⟨hanswer, hafter⟩ := h.read executor ctx operation call
      rw [← hmemory] at hanswer hafter
      simp only [Procedure.run, hanswer]
      exact ih _ hafter
  | buy gasPrice _ ih => exact ih executor.result (h.buy executor ctx gasPrice)
  | log event _ ih => exact ih (h.log executor ctx event)

end Mirrors

/-! ### The question for the network -/

theorem connectAndProcess_learnsChain (choice : LiquidityTrigger.Settings) (tx : Transaction) :
    (Session.connectAndProcess choice (.ok tx)).LearnsChain choice := by
  refine ⟨fun chainId => configure choice chainId >>= fun config =>
    process config tx >>= fun outcome => pure (outcome, config.chainId), ?_, fun chainId => ?_⟩
  · rw [← Procedure.bind_assoc, ← connect_eq]
    rfl
  · exact (configure_leavesNetwork choice chainId).bind fun config =>
      (process_readsAlong config tx).leavesNetwork.bind fun _ => .done _

section

variable {r : Rotation} {s : Session} (executor : Reply Unit) (ctx : Context)

theorem Mirrors.start {script : Script} {asked : Nat} (hat : r.At asked s) (hpurchases : s.purchases = [])
    (hscript : ∀ place, s.world.script.reply callMethod place = script.reply callMethod place)
    {trace : List Act} (hcalls : callsIn trace = []) (hnone : purchasesIn trace = []) :
    Mirrors r script asked s.world.received s ⟨s.world.now, trace⟩ where
  reached := by
    rw [hcalls]
    exact hat
  now := rfl
  replies := by
    intro place
    rw [hcalls, List.length_nil, Nat.zero_add]
    exact hscript place
  purchases := by rw [hpurchases, hnone]
  received := ⟨[], (List.append_nil _).symm, by rw [hcalls]; exact .nil⟩

theorem Mirrors.networkId (hat : r.At 0 s) (hpurchases : s.purchases = []) :
    let m := Memory.ofAnswers r.sender s.world.script 1
    ((Session.servicesWith executor ctx).networkId s).1 =
        ((m.services executor ctx).networkId ⟨s.world.now, []⟩).1 ∧
      Mirrors r s.world.script 1 (s.world.received ++ [r.request 0 networkMethod (.array [])])
        ((Session.servicesWith executor ctx).networkId s).2
        ((m.services executor ctx).networkId ⟨s.world.now, []⟩).2 := by
  intro m
  let reply := r.hearsNetwork 0 (s.world.script.reply networkMethod 0)
  let asked := (r.behind 0 networkMethod (.array []) s).atTime (s.world.now + reply.delay)
  have hnode : (Session.servicesWith executor ctx).networkId s = (reply.result, asked) :=
    Rotation.networkId_eq hat
  have hmemory : (m.services executor ctx).networkId ⟨s.world.now, []⟩ =
      (reply.result, ⟨asked.world.now, [.askedNetworkId]⟩) := by
    have hreply : m.networkId = reply := Memory.networkId_ofAnswers hat.patient hat.keeps 1
    simp only [Memory.services, hreply]
    rfl
  have hscript (place : Nat) : asked.world.script.reply callMethod place =
      s.world.script.reply callMethod place := Script.reply_snd_take_of_ne _ (by decide) place
  rw [hnode, hmemory]
  exact ⟨rfl, .start ((hat.behind _ _).atTime _) hpurchases hscript rfl rfl⟩

/-- What learns the chain first goes the same way over the node and in memory. -/
theorem mirrors_of_learnsChain {α : Type} {p : Procedure α} {choice : LiquidityTrigger.Settings}
    (hat : r.At 0 s) (hpurchases : s.purchases = []) (hlearns : p.LearnsChain choice) :
    let m := Memory.ofAnswers r.sender s.world.script choice.networkQuestions
    let network := List.replicate choice.networkQuestions (r.request 0 networkMethod (.array []))
    let onNode := p.run (Session.servicesWith executor ctx) s
    let inMemory := p.run (m.services executor ctx) ⟨s.world.now, []⟩
    onNode.1 = inMemory.1 ∧
      Mirrors r s.world.script choice.networkQuestions (s.world.received ++ network) onNode.2
        inMemory.2 := by
  obtain ⟨rest, rfl, hrest⟩ := hlearns
  rw [chainOf, Settings.networkQuestions]
  cases choice.chainId with
  | some chainId =>
      intro m network onNode inMemory
      have hstart : Mirrors r s.world.script 0 s.world.received s ⟨s.world.now, []⟩ :=
        .start hat hpurchases (fun _ => rfl) rfl rfl
      rw [show network = [] from rfl, List.append_nil]
      exact hstart.run executor ctx (hrest chainId) hat.keeps
  | none =>
      intro m network onNode inMemory
      obtain ⟨hanswer, hasked⟩ := Mirrors.networkId executor ctx hat hpurchases
      simp only [onNode, inMemory, run_askNetworkId_bind]
      rw [hanswer]
      exact hasked.run executor ctx (.bind (.ofExcept _) hrest) hat.keeps

end

theorem sender_rotation_single (settings : Settings) (way : Way) :
    (settings.rotation way 1 false).sender = (settings.madeClient way 0).after := by
  funext sent
  have hturn (earlier : Nat) : (settings.rotation way 1 false).turn earlier = 0 := Nat.mod_one _
  have hshare : (settings.rotation way 1 false).share sent 0 = sent := by
    rw [Rotation.share, Nat.count_of_forall fun _ _ => hturn _]
  rw [Rotation.sender, hturn, Rotation.client, hshare]
  rfl

/-- An evaluation over a node goes the way of the same evaluation over a provider that holds the node's next
answers. -/
theorem evaluation_mirrored (settings : Settings) (way : Way) (w w' : World) (hserving : w.Serving)
    (connection : Connection) (hmade : makeSingle settings way w = (.ok connection, w'))
    (choice : LiquidityTrigger.Settings) (tx : Transaction) (executor : Reply Unit) (ctx : Context) :
    let client := settings.madeClient way 0
    let asked := choice.networkQuestions
    let memory := Memory.ofAnswers client.after w'.script asked
    let session : Session := ⟨connection, w', []⟩
    let evaluation := Session.connectAndProcess choice (.ok tx)
    let onNode := evaluation.run (Session.servicesWith executor ctx) session
    let inMemory := evaluation.run (memory.services executor ctx) ⟨w'.now, []⟩
    onNode.1 = inMemory.1 ∧
    ((connect choice).run (Session.servicesWith executor ctx) session).1 =
      ((connect choice).run (memory.services executor ctx) ⟨w'.now, []⟩).1 ∧
    onNode.2.purchases = purchasesIn inMemory.2.trace ∧
    onNode.2.world.now = inMemory.2.now ∧
    (∃ reads, onNode.2.world.received =
        w'.received ++ List.replicate asked ⟨0, client.nextId, networkMethod, .array []⟩ ++ reads ∧
      List.Forall₂ Request.Asks reads (callsIn inMemory.2.trace)) ∧
    ∀ place call bytes, w'.script.reply callMethod place = .result (.text (Bytes.hex bytes)) →
      memory.call place call = ⟨.ok bytes, 0⟩ := by
  intro client asked memory session evaluation onNode inMemory
  have hat : (settings.rotation way 1 false).At 0 session := at_of_makeSingle hserving hmade []
  have hmemory : memory =
      Memory.ofAnswers (settings.rotation way 1 false).sender session.world.script asked := by
    rw [sender_rotation_single]
  have hrequest : (settings.rotation way 1 false).request 0 networkMethod (.array []) =
      ⟨0, client.nextId, networkMethod, .array []⟩ := by
    rw [Rotation.request, Rotation.stamp, Rotation.client_zero]
    rfl
  have hwhole := mirrors_of_learnsChain executor ctx hat rfl (connectAndProcess_learnsChain choice tx)
  have hconnect := mirrors_of_learnsChain executor ctx hat rfl (connect_learnsChain choice)
  rw [← hmemory, hrequest] at hwhole
  rw [← hmemory] at hconnect
  refine ⟨hwhole.1, hconnect.1, hwhole.2.purchases, hwhole.2.now, hwhole.2.received, ?_⟩
  intro place call bytes hanswer
  simp only [memory, Memory.ofAnswers, hanswer, Answer.bytes?_hex]

def sampleChoice : LiquidityTrigger.Settings :=
  ⟨sampleConfig.target.hex, sampleConfig.paired.hex, "10000000000000000000", none⟩

def sampleLedger : World :=
  ⟨0, .reachable,
    [(networkMethod, [.result (.text "56")]),
      (callMethod, [.result (.text (Bytes.hex samplePair.amountAMin.toBytes)), .error .null])], []⟩

theorem sampleLedger_serving : sampleLedger.Serving :=
  ⟨rfl, by simp [sampleLedger, Script.KeepsConnection]⟩

theorem sampleAddition_mirrored :
    let client := samplePool.madeClient .http 0
    let made := makeSingle samplePool .http sampleLedger
    let memory := Memory.ofAnswers client.after made.2.script sampleChoice.networkQuestions
    let evaluation := Session.connectAndProcess sampleChoice (.ok sampleAddition)
    let onNode := evaluation.run (Session.services (.withDeadline 60))
      ⟨⟨[client], 0, false⟩, made.2, []⟩
    let inMemory := evaluation.run (memory.services ⟨.ok (), 0⟩ (.withDeadline 60)) ⟨made.2.now, []⟩
    sampleLedger.Serving ∧ made.1 = .ok ⟨[client], 0, false⟩ ∧
    onNode.1 = inMemory.1 ∧ onNode.2.purchases = purchasesIn inMemory.2.trace ∧
    ∀ call, memory.call 0 call = ⟨.ok samplePair.amountAMin.toBytes, 0⟩ := by
  have hmade : (makeSingle samplePool .http sampleLedger).1 =
      .ok ⟨[samplePool.madeClient .http 0], 0, false⟩ := by decide +kernel
  obtain ⟨hresult, _, hpurchases, _, _, hbytes⟩ := evaluation_mirrored samplePool .http sampleLedger
    (makeSingle samplePool .http sampleLedger).2 sampleLedger_serving _ (Prod.ext hmade rfl) sampleChoice
    sampleAddition ⟨.ok (), 0⟩ (.withDeadline 60)
  rw [Session.servicesWith_succeeding] at hresult hpurchases
  exact ⟨sampleLedger_serving, hmade, hresult, hpurchases, fun call => hbytes 0 call _ rfl⟩

end LiquidityTrigger.Node
