import LiquidityTrigger.Proofs.Node.Pool
import LiquidityTrigger.Proofs.Settings
import LiquidityTrigger.Proofs.Text.Amount

/-!
# The number of a network

`Numbers` says which texts number a network: digits, behind a plus sign or not, with white space around. The
number of the network is read from these texts, as long as it is below `2 ^ 64`, and from nothing else. The bound
is looked at behind every digit, and since a numeral that goes on never denotes less this comes to looking at the
whole. `Session.Ready` says that the client whose turn it is reaches the node; then the number that the session
gives, and the chain that settings without one are made for, are those of the text that the node answers.
-/

namespace LiquidityTrigger.Node

open Json (Value)

/-! ### Which texts number a network -/

/-- At least one ASCII digit, behind a plus sign or not, with white space around numbers the network by what the
digits make by their places. -/
inductive Numbers : List Char → Nat → Prop
  | intro {before sign digits behind : List Char} (hbefore : Blank.Run before)
      (hsign : sign = [] ∨ sign = ['+']) (hsome : digits ≠ [])
      (hdigits : ∀ c ∈ digits, Decimal.isDigit c = true) (hbehind : Blank.Run behind) :
      Numbers (before ++ (sign ++ digits) ++ behind) (Nat.ofDigits 10 (digits.reverse.map Decimal.digitValue))

theorem exists_sign (cs : List Char) : ∃ sign, (sign = [] ∨ sign = ['+']) ∧ cs = sign ++ dropPlus cs := by
  rw [dropPlus.eq_def]
  split
  · exact ⟨['+'], .inr rfl, rfl⟩
  · exact ⟨[], .inl rfl, rfl⟩

theorem dropPlus_digits {sign digits : List Char} (hsign : sign = [] ∨ sign = ['+']) (hsome : digits ≠ [])
    (hdigits : ∀ c ∈ digits, Decimal.isDigit c = true) : dropPlus (sign ++ digits) = digits := by
  obtain ⟨d, ds, rfl⟩ := List.exists_cons_of_ne_nil hsome
  rcases hsign with rfl | rfl
  · have hd : d ≠ '+' := Json.ne_of_isDigit (hdigits d List.mem_cons_self) rfl
    rw [List.nil_append, dropPlus.eq_def]
    split
    · exact absurd (List.cons.inj ‹_›).1 hd
    · rfl
  · rfl

theorem bare_signed {sign digits : List Char} (hsign : sign = [] ∨ sign = ['+'])
    (hdigits : ∀ c ∈ digits, Decimal.isDigit c = true) : Blank.Bare (sign ++ digits) := by
  refine Blank.bare_of_forall fun c hc => ?_
  rcases List.mem_append.mp hc with hc | hc
  · rcases hsign with rfl | rfl
    · cases hc
    · rw [List.mem_singleton.mp hc]
      rfl
  · exact Decimal.isBlank_of_isDigit (hdigits c hc)

theorem read_eq_ok_iff {n : Nat} (hn : n < 2 ^ 64) {cs : List Char} {id : UInt64} :
    parseNetworkId.read n cs = .ok id ↔
      (∀ c ∈ cs, Decimal.isDigit c = true) ∧
        cs.foldl (fun n c => n * 10 + Decimal.digitValue c) n = id.toNat := by
  induction cs generalizing n with
  | nil =>
      rw [parseNetworkId.read, List.foldl_nil, Except.ok.injEq]
      refine ⟨?_, ?_⟩
      · rintro rfl
        exact ⟨List.forall_mem_nil _, (UInt64.toNat_ofNat_of_lt' hn).symm⟩
      · rintro ⟨-, rfl⟩
        exact UInt64.ofNat_toNat
  | cons c cs ih =>
      rw [parseNetworkId.read, List.foldl_cons, List.forall_mem_cons]
      by_cases hc : Decimal.isDigit c = true
      · simp only [hc, Bool.not_true, Bool.false_eq_true, if_false, true_and]
        by_cases hlarge : 2 ^ 64 ≤ n * 10 + Decimal.digitValue c
        · -- what is too large stays too large
          have hmore := Decimal.le_foldl_digits (n * 10 + Decimal.digitValue c) cs
          rw [if_pos hlarge]
          refine iff_of_false (fun h => by cases h) fun h => ?_
          have hid := id.toNat_lt
          omega
        · rw [if_neg hlarge]
          exact ih (Nat.lt_of_not_le hlarge)
      · simp [hc]

theorem parseNetworkId_eq_ok_iff {text : String} {id : UInt64} :
    parseNetworkId text = .ok id ↔ Numbers text.toList id.toNat := by
  rw [parseNetworkId]
  constructor
  · intro h
    split at h
    · cases h
    · rename_i hnonempty
      obtain ⟨hdigits, hvalue⟩ := (read_eq_ok_iff (by decide)).mp h
      obtain ⟨before, behind, hbefore, hbehind, haround⟩ := Blank.exists_around_trim text.toList
      obtain ⟨sign, hsign, hsplit⟩ := exists_sign (Blank.trim text.toList)
      have hsome : dropPlus (Blank.trim text.toList) ≠ [] := by
        intro hnone
        rw [dropPlus.eq_def] at hnone
        split at hnone
        · cases hnone
        · exact hnonempty (List.isEmpty_iff.mpr hnone)
      have hnumbers := Numbers.intro hbefore hsign hsome hdigits hbehind
      rwa [← hsplit, ← haround, ← Decimal.value_eq_ofDigits, Decimal.value, hvalue] at hnumbers
  · generalize hn : id.toNat = n
    generalize htext : text.toList = cs
    intro h
    cases h with
    | @intro before sign digits behind hbefore hsign hsome hdigits hbehind =>
        have hbare := bare_signed hsign hdigits
        have hnonempty : ¬ (sign ++ digits).isEmpty = true := by simp [hsome]
        rw [Blank.trim_around hbefore hbare hbehind, if_neg hnonempty, dropPlus_digits hsign hsome hdigits]
        refine (read_eq_ok_iff (by decide)).mpr ⟨hdigits, ?_⟩
        rw [hn, ← Decimal.value_eq_ofDigits, Decimal.value]

theorem numbers_text (n : Nat) : Numbers (Decimal.text n).toList n := by
  have hnone : Blank.Run [] := List.forall_mem_nil _
  have hnumbers := Numbers.intro hnone (.inl rfl) (Decimal.digits_ne_nil n)
    (fun c => Decimal.isDigit_of_mem_digits) hnone
  rw [← Decimal.value_eq_ofDigits, Decimal.value_digits, List.nil_append, List.nil_append,
    List.append_nil] at hnumbers
  rwa [Decimal.text, String.toList_ofList]

def textFault (text : String) (fault : IdFault) : Fault :=
  .node ("net_version inválido '" ++ text ++ "': " ++ fault.text)

theorem networkIdOf_eq_ok_iff {text : String} {id : UInt64} :
    networkIdOf text = .ok id ↔ Numbers text.toList id.toNat := by
  rw [networkIdOf, mapError_eq_ok_iff, parseNetworkId_eq_ok_iff]

theorem networkIdOf_of_not_numbers {text : String} (h : ∀ n < 2 ^ 64, ¬ Numbers text.toList n) :
    ∃ fault, networkIdOf text = .error (textFault text fault) := by
  rw [networkIdOf]
  cases hread : parseNetworkId text with
  | ok id => exact absurd (parseNetworkId_eq_ok_iff.mp hread) (h id.toNat id.toNat_lt)
  | error fault => exact ⟨fault, rfl⟩

/-! ### What a client hears -/

section

variable {c : Client} {answer : Answer}

theorem Client.hears_of_nameless {given : Except ResponseFault Value}
    (hread : c.transport.read c.nextId answer = some given)
    (hnameless : ∀ name, ¬ answer.Names c.transport c.nextId name) :
    ∃ detail, (c.hears networkMethod textResult answer).result = .error (.node detail) := by
  rw [hears, hread]
  cases given with
  | error fault => exact ⟨_, rfl⟩
  | ok v =>
      cases v with
      | text name => exact absurd (Transport.read_eq_text_iff.mp hread) (hnameless name)
      | _ => exact ⟨_, rfl⟩

theorem Answer.not_names_of_read {t : Transport} {id : UInt64} {v : Value}
    (hread : t.read id answer = some (.ok v)) (hv : ∀ name, v ≠ .text name) (name : String) :
    ¬ answer.Names t id name := by
  intro hnames
  rw [Transport.read_eq_text_iff.mpr hnames] at hread
  cases hread
  exact hv name rfl

end

/-! ### Settings without a chain -/

/-- The only fault of settings is that they name no chain. -/
def LacksChain (choice : LiquidityTrigger.Settings) : Prop :=
  ∀ fault : SettingsFault, fault.Holds choice none ↔ fault = .noChain

/-- With a chain beside them such settings make a configuration. -/
theorem lacksChain_iff {choice : LiquidityTrigger.Settings} (n : UInt64) :
    LacksChain choice ↔ choice.chainId = none ∧ ∃ config, choice.Makes (some n) config := by
  -- Beside a missing chain the faults are the same with a chain to use and without one.
  have hsame {fault : SettingsFault} (hother : fault ≠ .noChain) :
      fault.Holds choice (some n) ↔ fault.Holds choice none := by
    cases fault with
    | noChain => exact absurd rfl hother
    | _ => exact Iff.rfl
  constructor
  · intro hlacks
    refine ⟨((hlacks .noChain).mpr rfl).1, Settings.exists_makes fun fault hholds => ?_⟩
    by_cases hchain : fault = .noChain
    · rw [hchain] at hholds
      cases hholds.2
    · exact hchain ((hlacks fault).mp ((hsame hchain).mp hholds))
  · rintro ⟨hchain, config, hmakes⟩ fault
    refine ⟨fun hholds => ?_, ?_⟩
    · by_contra hother
      obtain ⟨first, hfirst⟩ := SettingsFault.exists_isFirst ((hsame hother).mpr hholds)
      have hfault := hfirst.validate_eq
      rw [hmakes.validate_eq] at hfault
      cases hfault
    · rintro rfl
      exact ⟨hchain, rfl⟩

/-! ### A session that asks -/

/-- The client whose turn it is reaches the node. -/
structure Session.Ready (s : Session) (client : Client) : Prop where
  turn : s.connection.clients[s.connection.turn.toNat % s.connection.clients.length]? = some client
  live : client.Live
  network : s.world.network = .reachable

namespace Session.Ready

variable {s : Session} {client : Client} (h : s.Ready client)

include h

theorem networkId_eq : s.networkId.1 =
    (client.hears networkMethod textResult (s.world.script.reply networkMethod 0)).result.bind networkIdOf := by
  rw [Session.networkId, Session.withClient]
  simp only [h.turn]
  rw [Client.networkText, Client.request_of_reached h.live h.network]

theorem networkId_of_names {name : String}
    (hnames : (s.world.script.reply networkMethod 0).Names client.transport client.nextId name) :
    s.networkId.1 = networkIdOf name := by
  rw [h.networkId_eq, Client.hears_text_iff.mpr hnames]
  rfl

theorem networkId_of_nameless {given : Except ResponseFault Value}
    (hread : client.transport.read client.nextId (s.world.script.reply networkMethod 0) = some given)
    (hnameless : ∀ name, ¬ (s.world.script.reply networkMethod 0).Names client.transport client.nextId name) :
    ∃ detail, s.networkId.1 = .error (.node detail) := by
  obtain ⟨detail, hfault⟩ := Client.hears_of_nameless hread hnameless
  rw [h.networkId_eq, hfault]
  exact ⟨detail, rfl⟩

theorem names_of_networkId {id : UInt64} (hid : s.networkId.1 = .ok id) :
    ∃ name, (s.world.script.reply networkMethod 0).Names client.transport client.nextId name ∧
      Numbers name.toList id.toNat := by
  rw [h.networkId_eq] at hid
  obtain ⟨name, hname, hnumber⟩ := bind_eq_ok.mp hid
  exact ⟨name, Client.hears_text_iff.mp hname, networkIdOf_eq_ok_iff.mp hnumber⟩

/-- A result that is no text gives no number, wherever it is read and however it is sent. -/
theorem networkId_of_other {v : Value} (hv : ∀ name, v ≠ .text name)
    (hgiven : client.transport.read client.nextId (s.world.script.reply networkMethod 0) = some (.ok v) ∨
      s.world.script.reply networkMethod 0 = .result v ∧ (client.transport = .http ∨ v.Plain 127)) :
    ∃ detail, s.networkId.1 = .error (.node detail) := by
  rcases hgiven with hread | ⟨hresult, hsent⟩
  · exact h.networkId_of_nameless hread (Answer.not_names_of_read hread hv)
  · have hnameless : ∀ name,
        ¬ (s.world.script.reply networkMethod 0).Names client.transport client.nextId name := by
      intro name hnames
      rw [hresult] at hnames
      exact hv name hnames
    rcases hsent with hhttp | hplain
    · have hread : client.transport.read client.nextId (s.world.script.reply networkMethod 0) =
          some (readBody (responseText client.nextId "result" v)) := by
        rw [hresult, hhttp]
        rfl
      exact h.networkId_of_nameless hread hnameless
    · have hread : client.transport.read client.nextId (s.world.script.reply networkMethod 0) =
          some (.ok v) := by
        rw [hresult]
        exact Transport.read_plain _ _ hplain
      exact h.networkId_of_nameless hread hnameless

theorem connect_of_names {name : String} {n : UInt64}
    (hnames : (s.world.script.reply networkMethod 0).Names client.transport client.nextId name)
    (hnumbers : Numbers name.toList n.toNat) {choice : LiquidityTrigger.Settings} (hlacks : LacksChain choice)
    (ctx : Context) :
    ∃ config, choice.Makes (some n) config ∧ config.chainId = n ∧
      ((connect choice).run (Session.services ctx) s).1 = .ok config := by
  obtain ⟨hchain, config, hmakes⟩ := (lacksChain_iff n).mp hlacks
  have hid : config.chainId = n := by
    obtain hown | ⟨-, hother⟩ := hmakes.chainId
    · rw [hchain] at hown
      cases hown
    · exact (Option.some.inj hother).symm
  refine ⟨config, hmakes, hid, ?_⟩
  have hasked : ((Session.services ctx).networkId s).1 = .ok n :=
    (h.networkId_of_names hnames).trans (networkIdOf_eq_ok_iff.mpr hnumbers)
  rw [run_connect_of_none _ _ hchain]
  rcases hrun : (Session.services ctx).networkId s with ⟨asked, s'⟩
  rw [hrun] at hasked
  obtain rfl : asked = .ok n := hasked
  dsimp only
  rw [hmakes.validate_eq]
  rfl

end Session.Ready

/-- A connection that was made reaches the node with its first client. -/
theorem exists_ready_of_make {opening : Opening} {settings : Settings} {w w' : World} {connection : Connection}
    (h : opening.make settings w = (.ok connection, w')) (purchases : List Purchase) :
    ∃ client, (Session.mk connection w' purchases).Ready client := by
  cases opening with
  | pool =>
      obtain ⟨rfl, hmade⟩ := of_makePool h
      have hsize : 0 < max settings.poolSize 1 := Nat.le_max_right _ 1
      refine ⟨settings.madeClient .byEndpoint 0, ?_, ⟨rfl, hmade.patient⟩, hmade.later⟩
      simp [hsize]
  | single way =>
      obtain ⟨rfl, hmade⟩ := of_makeSingle h
      exact ⟨settings.madeClient way 0, rfl, ⟨rfl, hmade.patient⟩, hmade.later⟩

/-- The number of a network is the one that the text of its node denotes; everything else is a fault of the
node. -/
theorem network_has_the_number_that_is_said :
    (∀ (s : Session) (client : Client), s.Ready client →
      let answer := s.world.script.reply networkMethod 0
      let Said := fun name => answer.Names client.transport client.nextId name
      (∀ name, answer = .result (.text name) → Said name) ∧
      (∀ name, Said name →
        (∀ id, s.networkId.1 = .ok id ↔ Numbers name.toList id.toNat) ∧
        ((∀ n < 2 ^ 64, ¬ Numbers name.toList n) →
          ∃ fault, s.networkId.1 = .error (textFault name fault))) ∧
      (∀ v, (∀ name, v ≠ .text name) →
        client.transport.read client.nextId answer = some (.ok v) ∨
          answer = .result v ∧ (client.transport = .http ∨ v.Plain 127) →
        ∃ detail, s.networkId.1 = .error (.node detail)) ∧
      (∀ id, s.networkId.1 = .ok id → ∃ name, Said name) ∧
      ∀ (n : UInt64) (choice : LiquidityTrigger.Settings) (ctx : Context),
        answer = .result (.text (Decimal.text n.toNat)) → LacksChain choice →
        ∃ config, choice.Makes (some n) config ∧ config.chainId = n ∧
          ((connect choice).run (Session.services ctx) s).1 = .ok config) ∧
    ∀ (opening : Opening) (settings : Settings) (w w' : World) (connection : Connection)
      (purchases : List Purchase), opening.make settings w = (.ok connection, w') →
        ∃ client, (Session.mk connection w' purchases).Ready client := by
  refine ⟨fun s client h => ⟨?_, ?_, ?_, ?_, ?_⟩,
    fun opening settings w w' connection purchases hmade => exists_ready_of_make hmade purchases⟩
  · intro name hanswer
    rw [hanswer]
    rfl
  · intro name hnames
    rw [h.networkId_of_names hnames]
    exact ⟨fun id => networkIdOf_eq_ok_iff, networkIdOf_of_not_numbers⟩
  · intro v hv hgiven
    exact h.networkId_of_other hv hgiven
  · intro id hid
    obtain ⟨name, hnames, -⟩ := h.names_of_networkId hid
    exact ⟨name, hnames⟩
  · intro n choice ctx hanswer hlacks
    refine h.connect_of_names ?_ (numbers_text n.toNat) hlacks ctx
    rw [hanswer]
    rfl

def sampleAsking (answer : Answer) : Session :=
  ⟨⟨[samplePool.madeClient .byEndpoint 0, samplePool.madeClient .byEndpoint 1], 1, true⟩,
    sampleNode.answering answer, []⟩

theorem sampleAsking_numbered :
    Numbers "\u3000+0056\n".toList 56 ∧
    (sampleAsking (.result (.text "\u3000+0056\n"))).networkId.1 = .ok 56 ∧
    (∃ fault, (sampleAsking (.result (.text "0x38"))).networkId.1 = .error (textFault "0x38" fault)) ∧
    (∃ detail, (sampleAsking (.result .null)).networkId.1 = .error (.node detail)) ∧
    (∃ config, config.chainId = 56 ∧ ((connect sampleSettings).run (Session.services .background)
      (sampleAsking (.result (.text "56")))).1 = .ok config) ∧
    ∃ client, (Session.mk ⟨[samplePool.madeClient .byEndpoint 0, samplePool.madeClient .byEndpoint 1], 0, true⟩
      (makePool samplePool sampleNode).2 []).Ready client := by
  obtain ⟨hsaid, hmade⟩ := network_has_the_number_that_is_said
  have hready (answer : Answer) :
      (sampleAsking answer).Ready (samplePool.madeClient .byEndpoint 1) :=
    ⟨rfl, ⟨rfl, by decide⟩, rfl⟩
  have hnumbers : Numbers (['\u3000'] ++ (['+'] ++ ['0', '0', '5', '6']) ++ ['\n']) 56 :=
    .intro (by decide) (.inr rfl) (by decide) (List.all_eq_true.mp (by decide)) (by decide)
  have hforeign : ∀ n < 2 ^ 64, ¬ Numbers "0x38".toList n := by
    intro n hn hnumbers
    rw [← UInt64.toNat_ofNat_of_lt' hn] at hnumbers
    cases parseNetworkId_eq_ok_iff.mpr hnumbers
  refine ⟨hnumbers, ?_, ?_, ?_, ?_, ?_⟩
  · obtain ⟨htext, hsaid, -⟩ := hsaid _ _ (hready (.result (.text "\u3000+0056\n")))
    exact ((hsaid _ (htext _ rfl)).1 56).mpr hnumbers
  · obtain ⟨htext, hsaid, -⟩ := hsaid _ _ (hready (.result (.text "0x38")))
    exact (hsaid _ (htext _ rfl)).2 hforeign
  · obtain ⟨-, -, hother, -⟩ := hsaid _ _ (hready (.result .null))
    exact hother .null (fun name h => by cases h) (.inr ⟨rfl, .inl rfl⟩)
  · obtain ⟨-, -, -, -, hconnect⟩ := hsaid _ _ (hready (.result (.text "56")))
    obtain ⟨config, -, hid, hrun⟩ := hconnect 56 sampleSettings .background rfl
      ((lacksChain_iff 56).mpr ⟨rfl, sampleConfig, sampleSettings_makes⟩)
    exact ⟨config, hid, hrun⟩
  · exact hmade .pool samplePool sampleNode _ _ [] rfl

end LiquidityTrigger.Node
