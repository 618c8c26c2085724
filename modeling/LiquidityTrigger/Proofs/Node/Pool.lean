import LiquidityTrigger.Proofs.Node.Connection
import LiquidityTrigger.Proofs.Node.NetworkName

/-!
# A pool is made whole or not at all

The clients of a pool are made one after another, and each takes the node's next answer about its network.
`Settings.Asks` says what a row of such questions leaves behind, whatever the answers are. A client is made
exactly if its answer names the network (`make_of_names`, `make_of_fault`), so a pool is made exactly if
as many answers in a row do; the first one that does not ends it with what a single client says of the
same answer, and no further question is asked.
-/

namespace LiquidityTrigger.Node

/-! ### One question -/

namespace Settings

def transport (settings : Settings) : Transport := Way.byEndpoint.transport settings.endpoint

/-- A node is reached at an endpoint whose text is an address that the transport sends to. -/
structure Reaches (settings : Settings) (w : World) : Prop where
  network : w.network = .reachable
  opens : settings.transport.openTo settings.endpoint .reachable = .ok true

def question (settings : Settings) (place : Nat) : Request :=
  ⟨place, settings.transport.firstId, networkMethod, .array []⟩

/-- An answer that lets a client be made. -/
def Named (settings : Settings) (answer : Answer) : Prop :=
  ∃ name, answer.Names settings.transport settings.transport.firstId name

def asking (settings : Settings) (place : Nat) : Client :=
  { settings.madeClient .byEndpoint place with nextId := settings.transport.firstId }

def hears (settings : Settings) (answer : Answer) : Reply String :=
  (settings.asking 0).hears networkMethod textResult answer

variable {settings : Settings} {w w' : World} {answer : Answer}

theorem hears_eq_ok_iff {name : String} :
    (settings.hears answer).result = .ok name ↔
      answer.Names settings.transport settings.transport.firstId name :=
  Client.hears_text_iff

theorem exists_fault_of_not_named (h : ¬ settings.Named answer) :
    ∃ fault, (settings.hears answer).result = .error fault := by
  cases hresult : (settings.hears answer).result with
  | ok name => exact absurd ⟨name, hears_eq_ok_iff.mp hresult⟩ h
  | error fault => exact ⟨fault, rfl⟩

theorem delay_of_named (h : settings.Named answer) : (settings.hears answer).delay = 0 := by
  obtain ⟨name, hname⟩ := h
  exact Client.delay_of_hears_ok (hears_eq_ok_iff.mpr hname)

theorem Named.keeps (h : settings.Named answer) : settings.transport.endsWith answer = false := by
  obtain ⟨name, hname⟩ := h
  exact Client.keeps_of_hears_ok (hears_eq_ok_iff.mpr hname)

end Settings

/-- From one world to a later one the clients from a place on have asked, so many of them, and waited for so
long in all. -/
structure Settings.Asks (settings : Settings) (first count waited : Nat) (w w' : World) : Prop where
  network : w'.network = w.network
  reply : ∀ place, w'.script.reply networkMethod place = w.script.reply networkMethod (count + place)
  received : w'.received = w.received ++ (List.range' first count).map settings.question
  now : w'.now = w.now + waited

namespace Settings

variable {settings : Settings} {w w' w'' : World} {first count waited : Nat}

theorem Asks.refl (settings : Settings) (first : Nat) (w : World) : settings.Asks first 0 0 w w :=
  ⟨rfl, fun place => by rw [Nat.zero_add], by simp, rfl⟩

theorem Asks.cons {longer : Nat} (hfirst : settings.Asks first 1 waited w w')
    (hrest : settings.Asks (first + 1) count longer w' w'') :
    settings.Asks first (count + 1) (waited + longer) w w'' where
  network := hrest.network.trans hfirst.network
  reply := by
    intro place
    rw [hrest.reply, hfirst.reply, Nat.add_right_comm count 1 place, Nat.add_comm 1]
  received := by
    rw [hrest.received, hfirst.received, List.append_assoc, ← List.map_append, List.range'_succ]
    rfl
  now := by
    rw [hrest.now, hfirst.now, Nat.add_assoc]

theorem Asks.reaches (h : settings.Asks first count waited w w') (hreaches : settings.Reaches w) :
    settings.Reaches w' := ⟨h.network.trans hreaches.network, hreaches.opens⟩

/-! ### One client -/

/-- The world behind the question of the client at a place. -/
def asked (settings : Settings) (place : Nat) (w : World) : World :=
  { w with
    script := (w.script.take networkMethod).2
    received := w.received ++ [settings.question place]
    now := w.now + (settings.hears (w.script.reply networkMethod 0)).delay }

theorem asks_asked (settings : Settings) (place : Nat) (w : World) :
    settings.Asks place 1 (settings.hears (w.script.reply networkMethod 0)).delay w
      (settings.asked place w) where
  network := rfl
  reply := fun later => by
    rw [Nat.add_comm]
    exact Script.reply_snd_take w.script networkMethod later
  received := rfl
  now := rfl

theorem make_eq (hreaches : settings.Reaches w) (hpatient : 0 < settings.timeout) (place : Nat) :
    Client.make settings .byEndpoint place w =
      ((settings.hears (w.script.reply networkMethod 0)).result.map fun _ =>
        { settings.madeClient .byEndpoint place with
          connected := !settings.transport.endsWith (w.script.reply networkMethod 0) },
        settings.asked place w) := by
  have hopen : (Way.byEndpoint.transport settings.endpoint).openTo settings.endpoint w.network = .ok true := by
    rw [hreaches.network]
    exact hreaches.opens
  have hlive : (settings.asking place).Live := ⟨rfl, Nat.ne_of_gt hpatient⟩
  have hask : (settings.asking place).networkText w =
      (settings.hears (w.script.reply networkMethod 0),
        { settings.madeClient .byEndpoint place with
          connected := !settings.transport.endsWith (w.script.reply networkMethod 0) },
        { w with
          script := (w.script.take networkMethod).2
          received := w.received ++ [settings.question place] }) :=
    Client.request_of_reached hlive hreaches.network
  refine (make_of_open hopen).trans ?_
  change ((((settings.asking place).networkText w).1.result.map fun _ =>
    ((settings.asking place).networkText w).2.1), { ((settings.asking place).networkText w).2.2 with
      now := ((settings.asking place).networkText w).2.2.now +
        ((settings.asking place).networkText w).1.delay }) = _
  rw [hask]
  rfl

theorem make_of_named (hreaches : settings.Reaches w) (hpatient : 0 < settings.timeout) (place : Nat)
    (h : settings.Named (w.script.reply networkMethod 0)) :
    Client.make settings .byEndpoint place w =
      (.ok (settings.madeClient .byEndpoint place), settings.asked place w) := by
  obtain ⟨name, hname⟩ := h
  rw [make_eq hreaches hpatient, hears_eq_ok_iff.mpr hname, Named.keeps ⟨name, hname⟩]
  rfl

theorem make_of_fault (hreaches : settings.Reaches w) (hpatient : 0 < settings.timeout) (place : Nat)
    {fault : Fault} (h : (settings.hears (w.script.reply networkMethod 0)).result = .error fault) :
    Client.make settings .byEndpoint place w = (.error fault, settings.asked place w) := by
  rw [make_eq hreaches hpatient, h]
  rfl

/-! ### A row of clients -/

theorem makeClients_of_named (hreaches : settings.Reaches w) (hpatient : 0 < settings.timeout)
    {missing : Nat} (clients : List Client)
    (h : ∀ place < missing, settings.Named (w.script.reply networkMethod place)) :
    ∃ w', makeClients settings missing clients w =
        (.ok (clients ++ (List.range' clients.length missing).map (settings.madeClient .byEndpoint)), w') ∧
      settings.Asks clients.length missing 0 w w' := by
  induction missing generalizing clients w with
  | zero => exact ⟨w, by simp [makeClients], .refl settings _ w⟩
  | succ missing ih =>
      have hfirst := h 0 (Nat.succ_pos missing)
      have hasked := asks_asked settings clients.length w
      rw [delay_of_named hfirst] at hasked
      obtain ⟨w', hmade, hrest⟩ := ih (hasked.reaches hreaches)
        (clients ++ [settings.madeClient .byEndpoint clients.length]) fun place hplace => by
          rw [hasked.reply, Nat.add_comm]
          exact h (place + 1) (Nat.succ_lt_succ hplace)
      rw [List.length_append, List.length_singleton] at hmade hrest
      refine ⟨w', ?_, hasked.cons hrest⟩
      rw [makeClients, make_of_named hreaches hpatient _ hfirst]
      dsimp only
      rw [hmade, List.append_assoc, List.range'_succ]
      rfl

/-- The first answer that does not name the network is the last one that is asked for. -/
theorem makeClients_of_fault (hreaches : settings.Reaches w) (hpatient : 0 < settings.timeout)
    {missing place : Nat} (clients : List Client) (hplace : place < missing)
    (h : ∀ earlier < place, settings.Named (w.script.reply networkMethod earlier)) {fault : Fault}
    (hfault : (settings.hears (w.script.reply networkMethod place)).result = .error fault) :
    ∃ w', makeClients settings missing clients w = (.error fault, w') ∧
      settings.Asks clients.length (place + 1)
        (settings.hears (w.script.reply networkMethod place)).delay w w' := by
  induction place generalizing missing clients w with
  | zero =>
      obtain ⟨missing, rfl⟩ := Nat.exists_eq_add_one_of_ne_zero (Nat.ne_zero_of_lt hplace)
      refine ⟨settings.asked clients.length w, ?_, asks_asked settings clients.length w⟩
      rw [makeClients, make_of_fault hreaches hpatient _ hfault]
  | succ place ih =>
      obtain ⟨missing, rfl⟩ := Nat.exists_eq_add_one_of_ne_zero (Nat.ne_zero_of_lt hplace)
      have hfirst := h 0 (Nat.succ_pos place)
      have hasked := asks_asked settings clients.length w
      rw [delay_of_named hfirst] at hasked
      have hreply (later : Nat) : (settings.asked clients.length w).script.reply networkMethod later =
          w.script.reply networkMethod (later + 1) := by
        rw [hasked.reply, Nat.add_comm]
      rw [← hreply] at hfault ⊢
      obtain ⟨w', hmade, hrest⟩ := ih (hasked.reaches hreaches)
        (clients ++ [settings.madeClient .byEndpoint clients.length]) (Nat.lt_of_succ_lt_succ hplace)
        (fun earlier hearlier => by
          rw [hreply]
          exact h (earlier + 1) (Nat.succ_lt_succ hearlier)) hfault
      rw [List.length_append, List.length_singleton] at hrest
      have hasks := hasked.cons hrest
      rw [Nat.zero_add] at hasks
      refine ⟨w', ?_, hasks⟩
      rw [makeClients, make_of_named hreaches hpatient _ hfirst]
      exact hmade

/-! ### A pool -/

theorem makePool_of_named (hreaches : settings.Reaches w) (hpatient : 0 < settings.timeout)
    (h : ∀ place < max settings.poolSize 1, settings.Named (w.script.reply networkMethod place)) :
    ∃ w', makePool settings w =
        (.ok ⟨(List.range (max settings.poolSize 1)).map (settings.madeClient .byEndpoint), 0, true⟩, w') ∧
      settings.Asks 0 (max settings.poolSize 1) 0 w w' := by
  obtain ⟨w', hmade, hasks⟩ := makeClients_of_named hreaches hpatient [] h
  refine ⟨w', ?_, hasks⟩
  rw [makePool, hmade, List.nil_append, List.length_nil, ← List.range_eq_range']
  rfl

theorem makePool_of_fault (hreaches : settings.Reaches w) (hpatient : 0 < settings.timeout)
    {place : Nat} (hplace : place < max settings.poolSize 1)
    (h : ∀ earlier < place, settings.Named (w.script.reply networkMethod earlier)) {fault : Fault}
    (hfault : (settings.hears (w.script.reply networkMethod place)).result = .error fault) :
    ∃ w', makePool settings w = (.error fault, w') ∧
      settings.Asks 0 (place + 1) (settings.hears (w.script.reply networkMethod place)).delay w w' := by
  obtain ⟨w', hmade, hasks⟩ := makeClients_of_fault hreaches hpatient [] hplace h hfault
  refine ⟨w', ?_, hasks⟩
  rw [makePool, hmade]
  rfl

theorem named_of_makePool (hreaches : settings.Reaches w) (hpatient : 0 < settings.timeout)
    {connection : Connection} (h : (makePool settings w).1 = .ok connection) (place : Nat)
    (hplace : place < max settings.poolSize 1) : settings.Named (w.script.reply networkMethod place) := by
  -- By strong induction: the answers before the place do, so it would be the first that does not.
  induction place using Nat.strong_induction_on with
  | _ place ih =>
      by_contra hnot
      obtain ⟨fault, hfault⟩ := exists_fault_of_not_named hnot
      obtain ⟨w', hmade, -⟩ := makePool_of_fault hreaches hpatient hplace
        (fun earlier hearlier => ih earlier hearlier (Nat.lt_trans hearlier hplace)) hfault
      rw [hmade] at h
      cases h

theorem makeSingle_of_fault (hreaches : settings.Reaches w) (hpatient : 0 < settings.timeout)
    {fault : Fault} (hfault : (settings.hears (w.script.reply networkMethod 0)).result = .error fault) :
    makeSingle settings .byEndpoint w = (.error fault, settings.asked 0 w) := by
  rw [makeSingle, make_of_fault hreaches hpatient 0 hfault]
  rfl

end Settings

def World.answering (w : World) (answer : Answer) : World :=
  { w with script := [(networkMethod, [answer])] }

/-- A pool is made exactly when as many answers name the network, and the first one that does not ends the
making. -/
theorem pool_is_made_whole_or_not (settings : Settings) (w : World) (hreaches : settings.Reaches w)
    (hpatient : 0 < settings.timeout) :
    let size := max settings.poolSize 1
    let reply := w.script.reply networkMethod
    let made := makePool settings w
    ((∃ connection, made.1 = .ok connection) ↔ ∀ place < size, settings.Named (reply place)) ∧
    (∀ connection, made.1 = .ok connection →
      connection.size = some size ∧
      made.2.received = w.received ++ (List.range size).map settings.question ∧
      made.2.now = w.now) ∧
    ∀ place < size, (∀ earlier < place, settings.Named (reply earlier)) →
      ¬ settings.Named (reply place) →
      let single := makeSingle settings .byEndpoint (w.answering (reply place))
      ∃ fault, single.1 = .error fault ∧ made.1 = .error fault ∧ made.2.now = single.2.now ∧
        made.2.received = w.received ++ (List.range (place + 1)).map settings.question ∧
        ∀ later, made.2.script.reply networkMethod later = reply (place + 1 + later) := by
  intro size reply made
  refine ⟨⟨?_, ?_⟩, ?_, ?_⟩
  · rintro ⟨connection, hmade⟩
    exact Settings.named_of_makePool hreaches hpatient hmade
  · intro h
    obtain ⟨w', hmade, -⟩ := Settings.makePool_of_named hreaches hpatient h
    exact ⟨_, congrArg Prod.fst hmade⟩
  · intro connection hconnection
    obtain ⟨w', hmade, hasks⟩ := Settings.makePool_of_named hreaches hpatient
      (Settings.named_of_makePool hreaches hpatient hconnection)
    rw [show made = _ from hmade] at hconnection ⊢
    cases hconnection
    refine ⟨?_, ?_, hasks.now⟩
    · rw [Connection.size, if_pos rfl, List.length_map, List.length_range]
    · rw [hasks.received, List.range_eq_range']
  · intro place hplace hearlier hnot single
    obtain ⟨fault, hfault⟩ := Settings.exists_fault_of_not_named hnot
    obtain ⟨w', hmade, hasks⟩ := Settings.makePool_of_fault hreaches hpatient hplace hearlier hfault
    have hsingle : single = (.error fault, settings.asked 0 (w.answering (reply place))) :=
      Settings.makeSingle_of_fault (w := w.answering (reply place))
        ⟨hreaches.network, hreaches.opens⟩ hpatient hfault
    rw [show made = _ from hmade, hsingle]
    refine ⟨fault, rfl, rfl, hasks.now, ?_, hasks.reply⟩
    rw [hasks.received, List.range_eq_range']

def sampleLapse : World :=
  ⟨0, .reachable, [(networkMethod, [.result (.text "bsc"), .silence])], []⟩

theorem samplePool_refused :
    let made := makePool samplePool sampleLapse
    let fault := timeoutFault networkMethod 5000
    samplePool.Reaches sampleLapse ∧ 0 < samplePool.timeout ∧
    samplePool.Named (.result (.text "bsc")) ∧ ¬ samplePool.Named .silence ∧
    made.1 = .error fault ∧ made.2.now = 5000 ∧
    made.2.received = [samplePool.question 0, samplePool.question 1] := by
  intro made fault
  have hreaches : samplePool.Reaches sampleLapse := ⟨rfl, rfl⟩
  have hpatient : 0 < samplePool.timeout := by decide
  have hnamed : samplePool.Named (.result (.text "bsc")) := ⟨"bsc", rfl⟩
  have hsilent : ¬ samplePool.Named .silence := fun ⟨_, h⟩ => h
  obtain ⟨given, hsingle, hmade, hnow, hreceived, -⟩ :=
    (pool_is_made_whole_or_not samplePool sampleLapse hreaches hpatient).2.2 1 (by decide)
      (fun earlier hearlier => Nat.lt_one_iff.mp hearlier ▸ hnamed) hsilent
  cases hsingle
  exact ⟨hreaches, hpatient, hnamed, hsilent, hmade, hnow, hreceived⟩

end LiquidityTrigger.Node
