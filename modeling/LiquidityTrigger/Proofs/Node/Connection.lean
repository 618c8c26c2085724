import LiquidityTrigger.Proofs.Node.Rotation

/-!
# Making a connection

A client is made only if the node answers its question for the network, so whoever has been made is
connected and waits for answers, and has used up one identifier. A pool makes its clients one after
another and starts with the turn of the first, and a single client is a pool of one in all but its name.
From there every sequence of steps sends its requests in turn (`requests_rotate`).
-/

namespace LiquidityTrigger.Node

open Json (Value)

/-- A world in which the node is reached and keeps its connections. -/
structure World.Serving (w : World) : Prop where
  network : w.network = .reachable
  keeps : w.script.KeepsConnection

/-- The clients of a connection over an endpoint, used in turn. -/
def Settings.rotation (settings : Settings) (way : Way) (size : Nat) (pooled : Bool) : Rotation :=
  ⟨way.transport settings.endpoint, settings.timeout, size, pooled⟩

/-- The client at a place as it has been made. -/
def Settings.madeClient (settings : Settings) (way : Way) (place : Nat) : Client :=
  ⟨place, way.transport settings.endpoint, settings.timeout,
    (way.transport settings.endpoint).firstId + 1, true⟩

section

variable {settings : Settings} {way : Way} {index : Nat} {w w' : World} {client : Client}

/-- A client that cannot send, does not wait or does not reach a node hears nothing but a fault. -/
theorem Client.networkText_of_not_reached {c : Client} (h : ¬ (c.Live ∧ w.network = .reachable)) :
    ∃ fault, (c.networkText w).1.result = .error fault := by
  rw [networkText, request]
  by_cases hsent : (!c.connected || w.network ≠ .reachable) = true
  · rw [if_pos hsent]
    exact ⟨_, rfl⟩
  · rw [if_neg hsent]
    have hreached : c.connected = true ∧ w.network = .reachable := by simpa using hsent
    have hpatient : c.timeout = 0 :=
      Classical.byContradiction fun hpatient => h ⟨⟨hreached.1, hpatient⟩, hreached.2⟩
    rw [if_pos hpatient]
    exact ⟨_, rfl⟩

theorem make_of_open {connected : Bool}
    (hopen : (way.transport settings.endpoint).openTo settings.endpoint w.network = .ok connected) :
    let opened : Client := { settings.madeClient way index with
      nextId := (way.transport settings.endpoint).firstId, connected := connected }
    Client.make settings way index w =
      ((opened.networkText w).1.result.map fun _ => (opened.networkText w).2.1,
        { (opened.networkText w).2.2 with
          now := (opened.networkText w).2.2.now + (opened.networkText w).1.delay }) := by
  rw [Client.make, hopen]
  rfl

/-- A client that was made waits, and has asked the node that it reached for the network once. -/
structure Settings.Made (settings : Settings) (w w' : World) : Prop where
  patient : settings.timeout ≠ 0
  network : w.network = .reachable
  later : w'.network = .reachable
  serving : w.Serving → w'.Serving

theorem Client.of_make (h : Client.make settings way index w = (.ok client, w')) :
    client = settings.madeClient way index ∧ settings.Made w w' := by
  cases hopen : (way.transport settings.endpoint).openTo settings.endpoint w.network with
  | error fault =>
      rw [Client.make, hopen] at h
      cases h
  | ok connected =>
      rw [make_of_open hopen] at h
      generalize hopened : ({ settings.madeClient way index with
        nextId := (way.transport settings.endpoint).firstId, connected := connected } : Client) =
          opened at h
      -- The question for the network is answered to a live client only, so no other one is made.
      by_cases hreached : opened.Live ∧ w.network = .reachable
      · obtain ⟨hlive, hnetwork⟩ := hreached
        have hask : opened.networkText w = _ := request_of_reached hlive hnetwork
        rw [hask] at h
        obtain ⟨hclient, rfl⟩ := Prod.mk.inj h
        cases hresult : (opened.hears networkMethod textResult (w.script.reply networkMethod 0)).result with
        | error fault =>
            rw [hresult] at hclient
            cases hclient
        | ok name =>
            rw [hresult, keeps_of_hears_ok hresult] at hclient
            subst hopened
            obtain ⟨rfl, hpatient⟩ := hlive
            cases hclient
            exact ⟨rfl, hpatient, hnetwork, hnetwork, fun hserving => ⟨hnetwork, hserving.keeps.take.2⟩⟩
      · obtain ⟨fault, hfault⟩ := networkText_of_not_reached hreached
        rw [hfault] at h
        cases h

theorem of_makeClients {missing : Nat} {clients made : List Client}
    (hclients : clients = (List.range clients.length).map (settings.madeClient .byEndpoint))
    (h : makeClients settings missing clients w = (.ok made, w')) :
    made = (List.range (clients.length + missing)).map (settings.madeClient .byEndpoint) ∧
      (0 < missing → settings.Made w w') := by
  induction missing generalizing clients w with
  | zero =>
      cases h
      exact ⟨hclients, fun h => absurd h (Nat.lt_irrefl 0)⟩
  | succ missing ih =>
      rw [makeClients] at h
      rcases hmake : Client.make settings .byEndpoint clients.length w with ⟨fault | client, later⟩
      · rw [hmake] at h
        cases h
      · rw [hmake] at h
        obtain ⟨rfl, hfirst⟩ := Client.of_make hmake
        have hgrown : clients ++ [settings.madeClient .byEndpoint clients.length] =
            (List.range (clients ++ [settings.madeClient .byEndpoint clients.length]).length).map
              (settings.madeClient .byEndpoint) := by
          rw [List.length_append, List.length_singleton, List.range_succ, List.map_append, ← hclients,
            List.map_singleton]
        obtain ⟨hmade, hothers⟩ := ih hgrown h
        refine ⟨?_, fun _ => ?_⟩
        · rw [hmade, List.length_append, List.length_singleton, Nat.add_right_comm, Nat.add_assoc]
        · cases missing with
          | zero =>
              cases h
              exact hfirst
          | succ missing =>
              have hrest := hothers (Nat.succ_pos missing)
              exact ⟨hfirst.patient, hfirst.network, hrest.later, hrest.serving ∘ hfirst.serving⟩

theorem Rotation.client_zero (settings : Settings) (way : Way) (size : Nat) (pooled : Bool) :
    (settings.rotation way size pooled).client 0 = settings.madeClient way := by
  funext place
  rw [client, share, Nat.count_zero]
  exact congrArg (Client.mk place _ _ · true) (UInt64.add_zero _)

theorem of_makePool {connection : Connection} (h : makePool settings w = (.ok connection, w')) :
    connection = ⟨(List.range (max settings.poolSize 1)).map (settings.madeClient .byEndpoint), 0, true⟩ ∧
      settings.Made w w' := by
  have hsize : 0 < max settings.poolSize 1 := Nat.le_max_right _ 1
  rw [makePool] at h
  rcases hmake : makeClients settings (max settings.poolSize 1) [] w with ⟨fault | clients, later⟩
  · rw [hmake] at h
    cases h
  · rw [hmake] at h
    cases h
    obtain ⟨rfl, hmade⟩ := of_makeClients rfl hmake
    refine ⟨?_, hmade hsize⟩
    rw [List.length_nil, Nat.zero_add]

theorem of_makeSingle {connection : Connection} (h : makeSingle settings way w = (.ok connection, w')) :
    connection = ⟨[settings.madeClient way 0], 0, false⟩ ∧ settings.Made w w' := by
  rw [makeSingle] at h
  rcases hmake : Client.make settings way 0 w with ⟨fault | client, later⟩
  · rw [hmake] at h
    cases h
  · rw [hmake] at h
    cases h
    obtain ⟨rfl, hmade⟩ := Client.of_make hmake
    exact ⟨rfl, hmade⟩

theorem at_of_makePool {connection : Connection} (hserving : w.Serving)
    (h : makePool settings w = (.ok connection, w')) (purchases : List Purchase) :
    (settings.rotation .byEndpoint (max settings.poolSize 1) true).At 0 ⟨connection, w', purchases⟩ := by
  obtain ⟨rfl, hmade⟩ := of_makePool h
  obtain ⟨hnetwork, hkeeps⟩ := hmade.serving hserving
  refine ⟨Nat.le_max_right _ 1, hmade.patient, ?_, hnetwork, hkeeps⟩
  rw [Rotation.connection, Rotation.client_zero]
  rfl

theorem at_of_makeSingle {connection : Connection} (hserving : w.Serving)
    (h : makeSingle settings way w = (.ok connection, w')) (purchases : List Purchase) :
    (settings.rotation way 1 false).At 0 ⟨connection, w', purchases⟩ := by
  obtain ⟨rfl, hmade⟩ := of_makeSingle h
  obtain ⟨hnetwork, hkeeps⟩ := hmade.serving hserving
  refine ⟨Nat.one_pos, hmade.patient, ?_, hnetwork, hkeeps⟩
  rw [Rotation.connection, Rotation.client_zero]
  rfl

def Opening.transport (opening : Opening) (endpoint : String) : Transport :=
  match opening with
  | .pool => Way.byEndpoint.transport endpoint
  | .single way => way.transport endpoint

theorem exists_at_of_make {opening : Opening} {connection : Connection} (hserving : w.Serving)
    (h : opening.make settings w = (.ok connection, w')) (purchases : List Purchase) :
    ∃ r : Rotation, r.At 0 ⟨connection, w', purchases⟩ ∧ r.timeout = settings.timeout ∧
      r.transport = opening.transport settings.endpoint := by
  cases opening with
  | pool => exact ⟨_, at_of_makePool hserving h purchases, rfl, rfl⟩
  | single way => exact ⟨_, at_of_makeSingle hserving h purchases, rfl, rfl⟩

end

private theorem range'_map_mod_perm (start size : Nat) :
    ((List.range' start size).map (· % size)).Perm (List.range size) := by
  have hmod := Nat.multiset_Ico_map_mod start size
  rw [← Multiset.coe_range, Multiset.Ico, Nat.Ico_eq_range', Multiset.map_coe,
    Nat.add_sub_cancel_left] at hmod
  exact Multiset.coe_eq_coe.mp hmod

/-- The clients of a pool take turns, whatever the node answers and wherever a request comes from. The turns
are counted in 64 bits, so they start again with the first client behind `2 ^ 64` requests. -/
theorem requests_rotate (settings : Settings) (w w' : World) (hserving : w.Serving)
    (connection : Connection) (hmade : makePool settings w = (.ok connection, w'))
    (steps : List Session.Step) :
    let size := max settings.poolSize 1
    let first := (Way.byEndpoint.transport settings.endpoint).firstId
    let entries := (Session.mk connection w' []).run steps
    let requests := entries.flatMap (·.received)
    (∀ place (hplace : place < requests.length),
      requests[place].client = place % 2 ^ 64 % size ∧
      (place < 2 ^ 64 → requests[place].client = place % size ∧
        requests[place].id = first + 1 + UInt64.ofNat (place / size))) ∧
    (∀ pair ∈ steps.zip entries, pair.1.AsksOnce → pair.2.received.length = 1) ∧
    ∀ place, place + size ≤ requests.length → place + size ≤ 2 ^ 64 →
      (((requests.drop place).take size).map (·.client)).Perm (List.range size) := by
  intro size first entries requests
  have hsize : 0 < size := Nat.le_max_right _ 1
  have hat := at_of_makePool hserving hmade []
  have hstamp (place : Nat) (hplace : place < requests.length) :
      requests[place].stamp = (settings.rotation .byEndpoint size true).stamp place :=
    (Rotation.stamp_getElem_run hat steps hplace).trans (congrArg _ (Nat.zero_add place))
  refine ⟨fun place hplace => ⟨congrArg Prod.fst (hstamp place hplace), fun hbefore => ?_⟩,
    (Rotation.steps_send hat steps).2, fun place hplace hbefore => ?_⟩
  · have hlaw := (hstamp place hplace).trans (Rotation.stamp_of_lt hsize hbefore)
    exact ⟨congrArg Prod.fst hlaw, congrArg Prod.snd hlaw⟩
  · have hrow : ((requests.drop place).take size).map (·.client) =
        (List.range' place size).map (· % size) := by
      refine List.ext_getElem (by simp; omega) fun k hk hk' => ?_
      rw [List.length_map, List.length_range'] at hk'
      have hclient := congrArg Prod.fst ((hstamp (place + k) (by omega)).trans
        (Rotation.stamp_of_lt hsize (by omega)))
      simp only [List.getElem_map, List.getElem_take, List.getElem_drop, List.getElem_range', Nat.one_mul]
      exact hclient
    rw [hrow]
    exact range'_map_mod_perm place size

def samplePool : Settings := ⟨"http://localhost:8545", 5000, 2⟩

def sampleNode : World :=
  ⟨0, .reachable, [(networkMethod, [.result (.text "56")]), (callMethod, [.silence])], []⟩

theorem sampleNode_serving : sampleNode.Serving :=
  ⟨rfl, by simp [sampleNode, Script.KeepsConnection]⟩

theorem samplePool_rotates :
    let connection : Connection :=
      ⟨[samplePool.madeClient .byEndpoint 0, samplePool.madeClient .byEndpoint 1], 0, true⟩
    let steps : List Session.Step := [.networkId, .symbol ⟨1⟩, .networkId]
    let requests := ((Session.mk connection (makePool samplePool sampleNode).2 []).run steps).flatMap
      (·.received)
    sampleNode.Serving ∧
    makePool samplePool sampleNode = (.ok connection, (makePool samplePool sampleNode).2) ∧
    requests.length = 3 ∧
    ∀ place (hplace : place < requests.length),
      requests[place].client = place % 2 ∧ requests[place].id = 1 + UInt64.ofNat (place / 2) := by
  intro connection steps requests
  have hmade : makePool samplePool sampleNode =
      (.ok connection, (makePool samplePool sampleNode).2) := rfl
  have hlength : requests.length = 3 := by decide +kernel
  obtain ⟨hlaw, -⟩ := requests_rotate samplePool sampleNode _ sampleNode_serving connection hmade steps
  exact ⟨sampleNode_serving, hmade, hlength, fun place hplace => (hlaw place hplace).2 (by omega)⟩

end LiquidityTrigger.Node
