import LiquidityTrigger.Proofs.Node.Request
import LiquidityTrigger.Proofs.Procedure
import Mathlib.Data.Int.CardIntervalMod

/-!
# Clients in turn

Clients that are used in turn are determined by how many requests they have sent together: the turn is that
number in 64 bits, and each client's identifiers have moved on once for every request that fell to it.
`Rotation.At` states this as an invariant of a session; `send` says that one request keeps it, whatever the
node answers, `run_sends` that a run of any procedure does, and `steps_send` that any sequence of steps does.
So the place of a request in the whole sequence alone says which client sends it and under which identifier
(`stamp_of_lt`, as long as the turns have not started again).
-/

namespace LiquidityTrigger.Node

open Json (Value)

def Request.stamp (request : Request) : Nat × UInt64 := (request.client, request.id)

/-- The steps that are one question to the node. -/
def Session.Step.AsksOnce : Session.Step → Prop
  | .call _ => True
  | .networkId => True
  | .size => False
  | .balanceOf _ _ _ => True
  | .symbol _ => True
  | .process _ _ _ => False

/-- What stays the same of clients that are used in turn. -/
structure Rotation where
  transport : Transport
  timeout : Nat
  /-- The number of clients. -/
  size : Nat
  pooled : Bool

namespace Rotation

/-- The place of the client that sends the next request. The turns are counted in 64 bits. -/
def turn (r : Rotation) (sent : Nat) : Nat := sent % 2 ^ 64 % r.size

/-- How many of the requests so far fell to the client at a place. -/
def share (r : Rotation) (sent place : Nat) : Nat := sent.count fun earlier => r.turn earlier = place

/-- The client at a place once so many requests have been sent, after the one that each has sent when it was
made. -/
def client (r : Rotation) (sent place : Nat) : Client :=
  ⟨place, r.transport, r.timeout, r.transport.firstId + 1 + UInt64.ofNat (r.share sent place), true⟩

def connection (r : Rotation) (sent : Nat) : Connection :=
  ⟨(List.range r.size).map (r.client sent), UInt64.ofNat sent, r.pooled⟩

def stamp (r : Rotation) (sent : Nat) : Nat × UInt64 :=
  (r.turn sent, (r.client sent (r.turn sent)).nextId)

/-- A session in which so many requests have been sent, to a node that keeps the connections. -/
structure At (r : Rotation) (sent : Nat) (s : Session) : Prop where
  size_pos : 0 < r.size
  patient : r.timeout ≠ 0
  connection : s.connection = r.connection sent
  network : s.world.network = .reachable
  keeps : s.world.script.KeepsConnection

variable {r : Rotation} {sent : Nat} {s : Session}

theorem client_live (hpatient : r.timeout ≠ 0) (sent place : Nat) : (r.client sent place).Live :=
  ⟨rfl, hpatient⟩

theorem turn_lt (hsize : 0 < r.size) (sent : Nat) : r.turn sent < r.size := Nat.mod_lt _ hsize

theorem turn_of_lt (hsent : sent < 2 ^ 64) : r.turn sent = sent % r.size := by
  rw [turn, Nat.mod_eq_of_lt hsent]

theorem turn_connection (r : Rotation) (sent : Nat) :
    (r.connection sent).turn.toNat % (r.connection sent).clients.length = r.turn sent := by
  simp only [connection, List.length_map, List.length_range, UInt64.toNat_ofNat', turn]

/-- Until the turns start again, the client whose turn it is has sent one request in each round. -/
theorem share_turn (hsize : 0 < r.size) (hsent : sent < 2 ^ 64) : r.share sent (r.turn sent) = sent / r.size := by
  have hmod (earlier : Nat) (hearlier : earlier < sent) :
      r.turn earlier = r.turn sent ↔ earlier ≡ sent [MOD r.size] := by
    rw [turn_of_lt (Nat.lt_trans hearlier hsent), turn_of_lt hsent]
    rfl
  have hcount : r.share sent (r.turn sent) = sent.count (· ≡ sent [MOD r.size]) := by
    rw [share, Nat.count_eq_card_filter_range, Nat.count_eq_card_filter_range]
    exact congrArg Finset.card (Finset.filter_congr fun earlier hearlier =>
      hmod earlier (Finset.mem_range.mp hearlier))
  rw [hcount, Nat.count_modEq_card sent hsize, if_neg (Nat.lt_irrefl _), Nat.add_zero]

theorem stamp_of_lt (hsize : 0 < r.size) (hsent : sent < 2 ^ 64) :
    r.stamp sent = (sent % r.size, r.transport.firstId + 1 + UInt64.ofNat (sent / r.size)) := by
  rw [stamp, client, share_turn hsize hsent, turn_of_lt hsent]

/-- Behind a request the client whose turn it was has moved on, and no other one. -/
theorem client_succ (r : Rotation) (sent place : Nat) :
    r.client (sent + 1) place =
      if r.turn sent = place then (r.client sent place).next else r.client sent place := by
  by_cases hturn : r.turn sent = place
  · have hshare : r.share (sent + 1) place = r.share sent place + 1 := by
      rw [share, Nat.count_succ, if_pos hturn, share]
    simp only [client, Client.next, hshare, if_pos hturn, UInt64.ofNat_add, UInt64.add_assoc]
    rfl
  · have hshare : r.share (sent + 1) place = r.share sent place := by
      rw [share, Nat.count_succ, if_neg hturn, share, Nat.add_zero]
    rw [client, client, hshare, if_neg hturn]

theorem connection_succ (r : Rotation) (sent : Nat) :
    r.connection (sent + 1) =
      { r.connection sent with
        clients := (r.connection sent).clients.set (r.turn sent) (r.client sent (r.turn sent)).next
        turn := (r.connection sent).turn + 1 } := by
  have hclients : (r.connection (sent + 1)).clients =
      (r.connection sent).clients.set (r.turn sent) (r.client sent (r.turn sent)).next := by
    refine List.ext_getElem (by simp [connection]) fun place hplace _ => ?_
    rw [List.getElem_set]
    simp only [connection, List.getElem_map, List.getElem_range, client_succ]
    by_cases hturn : r.turn sent = place
    · simp only [hturn, if_true]
    · simp only [hturn, if_false]
  have hturn : (r.connection (sent + 1)).turn = (r.connection sent).turn + 1 := UInt64.ofNat_add sent 1
  rw [← hclients, ← hturn]
  rfl

/-! ### One request -/

def request (r : Rotation) (sent : Nat) (method : String) (params : Value) : Request :=
  ⟨(r.stamp sent).1, (r.stamp sent).2, method, params⟩

def hears {α : Type} (r : Rotation) (sent : Nat) (method : String)
    (decode : Value → Except ResponseFault α) (answer : Answer) : Reply α :=
  (r.client sent (r.turn sent)).hears method decode answer

def behind (r : Rotation) (sent : Nat) (method : String) (params : Value) (s : Session) : Session :=
  { s with
    connection := r.connection (sent + 1)
    world :=
      { s.world with
        script := (s.world.script.take method).2
        received := s.world.received ++ [r.request sent method params] } }

theorem At.behind (h : r.At sent s) (method : String) (params : Value) :
    r.At (sent + 1) (r.behind sent method params s) :=
  ⟨h.size_pos, h.patient, rfl, h.network, h.keeps.take.2⟩

theorem At.atTime (h : r.At sent s) (now : Nat) : r.At sent (s.atTime now) :=
  ⟨h.size_pos, h.patient, h.connection, h.network, h.keeps⟩

theorem At.purchased (h : r.At sent s) (purchases : List Purchase) :
    r.At sent { s with purchases := purchases } :=
  ⟨h.size_pos, h.patient, h.connection, h.network, h.keeps⟩

/-- One request is sent by the client whose turn it is, whatever comes of it. -/
theorem send {α : Type} (h : r.At sent s) (method : String) (params : Value)
    (decode : Value → Except ResponseFault α) :
    s.withClient (fun c w => c.request method params decode w) =
      (r.hears sent method decode (s.world.script.reply method 0), r.behind sent method params s) := by
  have hplace : r.turn sent < r.size := turn_lt h.size_pos sent
  have hclient : (r.connection sent).clients[r.turn sent]? = some (r.client sent (r.turn sent)) := by
    simp [connection, hplace]
  rw [Session.withClient, h.connection]
  simp only [turn_connection, hclient]
  rw [Client.request_of_live (client_live h.patient _ _) h.network h.keeps.take.1]
  simp only [behind, connection_succ, hears, request]
  rfl

def hearsNetwork (r : Rotation) (sent : Nat) (answer : Answer) : Reply UInt64 :=
  let reply := r.hears sent networkMethod textResult answer
  ⟨reply.result.bind networkIdOf, reply.delay⟩

def hearsCall (r : Rotation) (sent : Nat) (answer : Answer) : Reply Bytes :=
  r.hears sent callMethod bytesResult answer

theorem networkId_eq (h : r.At sent s) :
    let reply := r.hearsNetwork sent (s.world.script.reply networkMethod 0)
    s.networkId = (reply.result,
      (r.behind sent networkMethod (.array []) s).atTime (s.world.now + reply.delay)) := by
  have hsend : s.withClient Client.networkText = _ := send h networkMethod (.array []) textResult
  rw [Session.networkId, hsend]
  rfl

theorem call_eq (h : r.At sent s) (call : Call) :
    let reply := r.hearsCall sent (s.world.script.reply callMethod 0)
    s.call call = (reply.result,
      (r.behind sent callMethod (callParams call) s).atTime (s.world.now + reply.delay)) := by
  have hsend : s.withClient (fun client w => client.call call w) = _ :=
    send h callMethod (callParams call) bytesResult
  rw [Session.call, hsend]
  rfl

theorem read_eq (h : r.At sent s) (ctx : Context) (operation : String) (call : Call) :
    let waited := ctx.wait operation (r.hearsCall sent (s.world.script.reply callMethod 0)) s.world.now
    s.read ctx operation call =
      (waited.1, (r.behind sent callMethod (callParams call) s).atTime waited.2) := by
  have hsend : s.withClient (fun client w => client.call call w) = _ :=
    send h callMethod (callParams call) bytesResult
  rw [Session.read, hsend]
  rfl

/-! ### Many requests -/

/-- From one session to a later one so many requests are sent, each under the stamp of its place. -/
structure Sends (r : Rotation) (sent count : Nat) (s s' : Session) : Prop where
  reached : r.At (sent + count) s'
  stamps : s'.world.received.map Request.stamp =
    s.world.received.map Request.stamp ++ (List.range' sent count).map r.stamp

theorem Sends.refl (h : r.At sent s) : r.Sends sent 0 s s := ⟨h, by simp⟩

theorem Sends.trans {count more : Nat} {s' s'' : Session} (hfirst : r.Sends sent count s s')
    (hnext : r.Sends (sent + count) more s' s'') : r.Sends sent (count + more) s s'' where
  reached := by
    rw [← Nat.add_assoc]
    exact hnext.reached
  stamps := by
    rw [hnext.stamps, hfirst.stamps, List.append_assoc, ← List.map_append, List.range'_append_1]

theorem sends_behind (h : r.At sent s) (method : String) (params : Value) (now : Nat) :
    r.Sends sent 1 s ((r.behind sent method params s).atTime now) :=
  ⟨(h.behind method params).atTime now, by
    simp [behind, Session.atTime, request, Request.stamp]⟩

theorem sends_networkId (h : r.At sent s) : r.Sends sent 1 s s.networkId.2 := by
  rw [networkId_eq h]
  exact sends_behind h _ _ _

theorem sends_call (h : r.At sent s) (call : Call) : r.Sends sent 1 s (s.call call).2 := by
  rw [call_eq h]
  exact sends_behind h _ _ _

theorem sends_read (h : r.At sent s) (ctx : Context) (operation : String) (call : Call) :
    r.Sends sent 1 s (s.read ctx operation call).2 := by
  rw [read_eq h]
  exact sends_behind h _ _ _

/-- A run of a procedure sends its requests in turn, however many there are and whatever comes of them. -/
theorem run_sends {α : Type} (ctx : Context) (p : Procedure α) (h : r.At sent s) :
    ∃ count, r.Sends sent count s (p.run (Session.services ctx) s).2 := by
  induction p generalizing sent s with
  | done a => exact ⟨0, .refl h⟩
  | fail fault => exact ⟨0, .refl h⟩
  | networkId next ih =>
      have hfirst := sends_networkId h
      obtain ⟨more, hrest⟩ := ih s.networkId.1 hfirst.reached
      exact ⟨1 + more, hfirst.trans hrest⟩
  | read operation call next ih =>
      have hfirst := sends_read h ctx operation call
      obtain ⟨more, hrest⟩ := ih (s.read ctx operation call).1 hfirst.reached
      exact ⟨1 + more, hfirst.trans hrest⟩
  | buy gasPrice next ih =>
      obtain ⟨count, hreached, hstamps⟩ :=
        ih (.ok ()) (h.purchased (s.purchases ++ [⟨gasPrice, ctx.deadline⟩]))
      exact ⟨count, hreached, hstamps⟩
  | log event next ih => exact ih h

/-! ### Steps of a session -/

private theorem sends_balanceOf (h : r.At sent s) (ctx : Context) (token account : Address) :
    r.Sends sent 1 s ((Token.balanceOf token account).run (Session.services ctx) s).2 := by
  rw [Token.balanceOf, Procedure.run_bind_of_ok (Procedure.run_tryRead _ _ _ _),
    Procedure.run_ofExcept]
  exact sends_read h ctx _ _

private theorem sends_symbol (h : r.At sent s) (ctx : Context) (token : Address) :
    r.Sends sent 1 s ((Token.symbol token).run (Session.services ctx) s).2 := by
  rw [Token.symbol, Procedure.run_bind_of_ok (Procedure.run_tryRead _ _ _ _), Procedure.run_pure]
  exact sends_read h ctx _ _

theorem step_sends (h : r.At sent s) (step : Session.Step) :
    ∃ count, r.Sends sent count s (s.step step).2 ∧ (step.AsksOnce → count = 1) := by
  cases step with
  | call call => exact ⟨1, sends_call h call, fun _ => rfl⟩
  | networkId => exact ⟨1, sends_networkId h, fun _ => rfl⟩
  | size => exact ⟨0, .refl h, False.elim⟩
  | balanceOf token account timeout =>
      exact ⟨1, sends_balanceOf h (s.contextOf timeout) token account, fun _ => rfl⟩
  | symbol token => exact ⟨1, sends_symbol h .background token, fun _ => rfl⟩
  | process settings tx timeout =>
      obtain ⟨count, hreached, hstamps⟩ :=
        run_sends (s.contextOf timeout) (Session.connectAndProcess settings tx) (h.purchased [])
      exact ⟨count, ⟨hreached, hstamps⟩, False.elim⟩

/-- The requests of a sequence of steps are sent in turn, with one for each step that asks once. -/
theorem steps_send (h : r.At sent s) (steps : List Session.Step) :
    (∃ count, ((s.run steps).flatMap (·.received)).map Request.stamp =
      (List.range' sent count).map r.stamp) ∧
    ∀ pair ∈ steps.zip (s.run steps), pair.1.AsksOnce → pair.2.received.length = 1 := by
  induction steps generalizing sent s with
  | nil => exact ⟨⟨0, rfl⟩, by simp⟩
  | cons step rest ih =>
      -- Each step starts with an empty list of requests, which the invariant does not look at.
      have hfresh : r.At sent { s with world := { s.world with received := [] } } :=
        ⟨h.size_pos, h.patient, h.connection, h.network, h.keeps⟩
      obtain ⟨count, hfirst, honce⟩ := step_sends hfresh step
      obtain ⟨⟨more, hrest⟩, hothers⟩ := ih hfirst.reached
      have hstamps := hfirst.stamps
      rw [List.map_nil, List.nil_append] at hstamps
      constructor
      · refine ⟨count + more, ?_⟩
        rw [Session.run, List.flatMap_cons, List.map_append, hstamps, hrest, ← List.map_append,
          List.range'_append_1]
      · intro pair hpair
        rw [Session.run, List.zip_cons_cons] at hpair
        rcases List.mem_cons.mp hpair with rfl | hpair
        · intro hasks
          have hlength := congrArg List.length hstamps
          rw [List.length_map, List.length_map, List.length_range', honce hasks] at hlength
          exact hlength
        · exact hothers pair hpair

theorem stamp_getElem_run (h : r.At sent s) (steps : List Session.Step) {place : Nat}
    (hplace : place < ((s.run steps).flatMap Entry.received).length) :
    ((s.run steps).flatMap Entry.received)[place].stamp = r.stamp (sent + place) := by
  obtain ⟨⟨count, hstamps⟩, -⟩ := steps_send h steps
  have hlength := congrArg List.length hstamps
  rw [List.length_map, List.length_map, List.length_range'] at hlength
  have hstamp : (((s.run steps).flatMap Entry.received).map Request.stamp)[place]? =
      some (r.stamp (sent + place)) := by
    rw [hstamps, List.getElem?_map, List.getElem?_range' (hlength ▸ hplace), Nat.one_mul]
    rfl
  rw [List.getElem?_map, List.getElem?_eq_getElem hplace] at hstamp
  exact Option.some.inj hstamp

end Rotation

end LiquidityTrigger.Node
