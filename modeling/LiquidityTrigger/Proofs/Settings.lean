import LiquidityTrigger.Proofs.Evaluation.Mirror
import LiquidityTrigger.Proofs.Session
import LiquidityTrigger.Proofs.Text.Hex

/-!
# What settings make, and what is wrong with them

`Settings.Makes` says which configuration settings are, and `SettingsFault.Holds` when one of the five faults
is in them, whatever else is wrong. Settings without a fault make a configuration, and of several faults the
first one is stated. The chain is found out before that: if the settings name none the node is asked, once, and
a node that fails is the only thing that goes before a fault of the settings.
-/

namespace LiquidityTrigger

section

variable (settings : Settings) (fallback : Option UInt64)

/-- The configuration that settings are, with a chain id to use if they have none. -/
structure Settings.Makes (config : Config) : Prop where
  target : Address.ofText? settings.targetToken = some config.target
  paired : Address.ofText? settings.baseCurrency = some config.paired
  distinct : config.target ≠ config.paired
  minLiquidity : Word.ofDecimal? settings.minimumLiquidity = some config.minLiquidity
  chainId : settings.chainId = some config.chainId ∨
    settings.chainId = none ∧ fallback = some config.chainId

/-- A fault is in settings, each apart from all others. -/
def SettingsFault.Holds : SettingsFault → Prop
  | .badTarget text => text = settings.targetToken ∧ Address.ofText? text = none
  | .badBase text => text = settings.baseCurrency ∧ Address.ofText? text = none
  | .samePair => ∃ a, Address.ofText? settings.targetToken = some a ∧
      Address.ofText? settings.baseCurrency = some a
  | .badLiquidity text => text = settings.minimumLiquidity ∧ Word.ofDecimal? text = none
  | .noChain => settings.chainId = none ∧ fallback = none

/-- The place of a fault in the order in which they are looked for. -/
def SettingsFault.rank : SettingsFault → Nat
  | .badTarget _ => 0
  | .badBase _ => 1
  | .samePair => 2
  | .badLiquidity _ => 3
  | .noChain => 4

structure SettingsFault.IsFirst (fault : SettingsFault) : Prop where
  holds : fault.Holds settings fallback
  le_rank : ∀ other : SettingsFault, other.Holds settings fallback → fault.rank ≤ other.rank

end

section

variable {settings : Settings} {fallback : Option UInt64} {config : Config} {fault other : SettingsFault}

theorem Settings.Makes.validate_eq (h : settings.Makes fallback config) :
    settings.validate fallback = .ok config := by
  have hchain : (settings.chainId <|> fallback) = some config.chainId := by
    obtain hchain | ⟨hnone, hchain⟩ := h.chainId
    · rw [hchain]
      rfl
    · rw [hnone, hchain]
      rfl
  rw [validate, h.target, h.paired, h.minLiquidity, hchain]
  exact if_neg h.distinct

/-! ### What is read where a fault is not -/

theorem Settings.exists_target
    (h : ¬ (SettingsFault.badTarget settings.targetToken).Holds settings fallback) :
    ∃ a, Address.ofText? settings.targetToken = some a :=
  Option.ne_none_iff_exists'.mp fun hnone => h ⟨rfl, hnone⟩

theorem Settings.exists_paired
    (h : ¬ (SettingsFault.badBase settings.baseCurrency).Holds settings fallback) :
    ∃ a, Address.ofText? settings.baseCurrency = some a :=
  Option.ne_none_iff_exists'.mp fun hnone => h ⟨rfl, hnone⟩

theorem Settings.exists_minLiquidity
    (h : ¬ (SettingsFault.badLiquidity settings.minimumLiquidity).Holds settings fallback) :
    ∃ w, Word.ofDecimal? settings.minimumLiquidity = some w :=
  Option.ne_none_iff_exists'.mp fun hnone => h ⟨rfl, hnone⟩

theorem Settings.exists_chainId (h : ¬ SettingsFault.noChain.Holds settings fallback) :
    ∃ id, settings.chainId = some id ∨ settings.chainId = none ∧ fallback = some id := by
  cases hown : settings.chainId with
  | some id => exact ⟨id, .inl rfl⟩
  | none =>
      obtain ⟨id, hid⟩ := Option.ne_none_iff_exists'.mp fun hnone => h ⟨hown, hnone⟩
      exact ⟨id, .inr ⟨rfl, hid⟩⟩

/-! ### A configuration or the first fault -/

theorem Settings.exists_makes (h : ∀ fault : SettingsFault, ¬ fault.Holds settings fallback) :
    ∃ config, settings.Makes fallback config := by
  obtain ⟨target, htarget⟩ := exists_target (h _)
  obtain ⟨paired, hpaired⟩ := exists_paired (h _)
  obtain ⟨minLiquidity, hliquidity⟩ := exists_minLiquidity (h _)
  obtain ⟨id, hid⟩ := exists_chainId (h _)
  have hdistinct : target ≠ paired := fun heq => h .samePair ⟨target, htarget, heq ▸ hpaired⟩
  exact ⟨⟨target, paired, minLiquidity, id⟩, htarget, hpaired, hdistinct, hliquidity, hid⟩

/-- The first fault is stated, whatever comes behind it. -/
theorem SettingsFault.IsFirst.validate_eq (h : fault.IsFirst settings fallback) :
    settings.validate fallback = .error fault := by
  have hnot (other : SettingsFault) (hbefore : other.rank < fault.rank) :
      ¬ other.Holds settings fallback :=
    fun hother => Nat.not_lt.mpr (h.le_rank other hother) hbefore
  rw [Settings.validate]
  obtain ⟨hholds, -⟩ := h
  cases fault with
  | badTarget text =>
      obtain ⟨rfl, hnone⟩ := hholds
      rw [hnone]
  | badBase text =>
      obtain ⟨rfl, hnone⟩ := hholds
      obtain ⟨target, htarget⟩ := Settings.exists_target (hnot _ (by simp [rank]))
      rw [htarget, hnone]
  | samePair =>
      obtain ⟨a, htarget, hpaired⟩ := hholds
      rw [htarget, hpaired]
      exact if_pos rfl
  | badLiquidity text =>
      obtain ⟨rfl, hnone⟩ := hholds
      obtain ⟨target, htarget⟩ := Settings.exists_target (hnot _ (by simp [rank]))
      obtain ⟨paired, hpaired⟩ := Settings.exists_paired (hnot _ (by simp [rank]))
      have hdistinct : target ≠ paired := fun heq =>
        hnot .samePair (by simp [rank]) ⟨target, htarget, heq ▸ hpaired⟩
      rw [htarget, hpaired, hnone]
      exact if_neg hdistinct
  | noChain =>
      obtain ⟨hown, hother⟩ := hholds
      obtain ⟨target, htarget⟩ := Settings.exists_target (hnot _ (by simp [rank]))
      obtain ⟨paired, hpaired⟩ := Settings.exists_paired (hnot _ (by simp [rank]))
      obtain ⟨minLiquidity, hliquidity⟩ := Settings.exists_minLiquidity (hnot _ (by simp [rank]))
      have hdistinct : target ≠ paired := fun heq =>
        hnot .samePair (by simp [rank]) ⟨target, htarget, heq ▸ hpaired⟩
      rw [htarget, hpaired, hliquidity, hown, hother]
      exact if_neg hdistinct

theorem SettingsFault.exists_isFirst {fault : SettingsFault} (h : fault.Holds settings fallback) :
    ∃ first : SettingsFault, first.IsFirst settings fallback := by
  by_cases hfirst : ∀ other : SettingsFault, other.Holds settings fallback → fault.rank ≤ other.rank
  · exact ⟨fault, h, hfirst⟩
  · obtain ⟨other, hother, hbefore⟩ : ∃ other : SettingsFault,
        other.Holds settings fallback ∧ other.rank < fault.rank := by simpa using hfirst
    -- the other fault stands further in front
    exact exists_isFirst hother
termination_by fault.rank

variable (settings fallback) in
theorem Settings.makes_or_isFirst : (∃ config, settings.Makes fallback config) ∨
    ∃ fault : SettingsFault, fault.IsFirst settings fallback := by
  by_cases h : ∃ fault : SettingsFault, fault.Holds settings fallback
  · obtain ⟨fault, hfault⟩ := h
    exact .inr (SettingsFault.exists_isFirst hfault)
  · exact .inl (exists_makes fun fault hfault => h ⟨fault, hfault⟩)

theorem Settings.validate_eq_ok_iff :
    settings.validate fallback = .ok config ↔ settings.Makes fallback config := by
  refine ⟨fun h => ?_, Makes.validate_eq⟩
  obtain ⟨made, hmade⟩ | ⟨first, hfirst⟩ := makes_or_isFirst settings fallback
  · rw [hmade.validate_eq] at h
    cases h
    exact hmade
  · rw [hfirst.validate_eq] at h
    cases h

theorem Settings.validate_eq_error_iff :
    settings.validate fallback = .error fault ↔ fault.IsFirst settings fallback := by
  refine ⟨fun h => ?_, SettingsFault.IsFirst.validate_eq⟩
  obtain ⟨made, hmade⟩ | ⟨first, hfirst⟩ := makes_or_isFirst settings fallback
  · rw [hmade.validate_eq] at h
    cases h
  · rw [hfirst.validate_eq] at h
    cases h
    exact hfirst

/-- The eleventh character of its text tells the place of a fault. -/
def SettingsFault.mark : SettingsFault → Char
  | .badTarget _ => 'o'
  | .badBase _ => 'a'
  | .samePair => ' '
  | .badLiquidity _ => 'í'
  | .noChain => 'ã'

theorem SettingsFault.getElem?_detail (fault : SettingsFault) :
    fault.detail.toList[10]? = some fault.mark := by
  have hopening {opening : String} (text : String) {c : Char} (h : opening.toList[10]? = some c) :
      (opening ++ text).toList[10]? = some c := by
    obtain ⟨hlength, -⟩ := List.getElem?_eq_some_iff.mp h
    rw [String.toList_append, List.getElem?_append_left hlength, h]
  cases fault with
  | badTarget text => exact hopening (c := 'o') text (by decide +kernel)
  | badBase text => exact hopening (c := 'a') text (by decide +kernel)
  | samePair => decide +kernel
  | badLiquidity text => exact hopening (c := 'í') text (by decide +kernel)
  | noChain => decide +kernel

/-- A fault of settings is known by its text. -/
theorem SettingsFault.toFault_injective (h : fault.toFault = other.toFault) : fault = other := by
  have hdetail : fault.detail = other.detail := Fault.validation.inj h
  have hmark := other.getElem?_detail
  rw [← hdetail, getElem?_detail] at hmark
  cases fault <;> cases other <;> try simp [mark] at hmark
  case badTarget.badTarget => rw [(String.append_right_inj _).mp hdetail]
  case badBase.badBase => rw [(String.append_right_inj _).mp hdetail]
  case samePair.samePair => rfl
  case badLiquidity.badLiquidity => rw [(String.append_right_inj _).mp hdetail]
  case noChain.noChain => rfl

end

/-! ### The chain before the settings -/

section

variable {σ : Type} (settings : Settings) (services : Services σ) (s : σ)

/-- What is left of settings that were checked: a configuration is logged, a fault is not. -/
def settled : Except SettingsFault Config → Except Fault Config × σ
  | .ok config => (.ok config, services.log (.configured config.chainId config.target) s)
  | .error fault => (.error fault.toFault, s)

theorem run_configure (chainId : UInt64) :
    (configure settings chainId).run services s =
      settled services s (settings.validate (some chainId)) := by
  rw [configure]
  cases settings.validate (some chainId) with
  | ok config => rfl
  | error fault => rfl

variable {settings} in
theorem run_connect_of_chain {id : UInt64} (h : settings.chainId = some id) :
    (connect settings).run services s = settled services s (settings.validate (some id)) := by
  rw [connect_eq, chainOf, h]
  exact run_configure settings services s id

variable {settings} in
theorem run_connect_of_none (h : settings.chainId = none) :
    (connect settings).run services s =
      match services.networkId s with
      | (.ok id, s') => settled services s' (settings.validate (some id))
      | (.error fault, s') => (.error fault, s') := by
  rw [connect_eq, chainOf, h]
  change (Procedure.askNetworkId >>= configure settings).run services s = _
  rw [Procedure.run_askNetworkId_bind, Procedure.run_bind, Procedure.run_ofExcept]
  cases services.networkId s with
  | mk answer s' =>
      cases answer with
      | ok id => exact run_configure settings services s' id
      | error fault => rfl

end

def madeLog : Except Fault Config → List Act
  | .ok config => [.logged (.configured config.chainId config.target)]
  | .error _ => []

theorem trace_connect (settings : Settings) (provider : Provider) (executor : Reply Unit)
    (ctx : Context) (start : Nat) :
    ((connect settings).play provider executor ctx start).trace =
      List.replicate settings.networkQuestions .askedNetworkId ++
        madeLog ((connect settings).play provider executor ctx start).result := by
  -- checking asks for nothing, so only the question for the network stands in front of the log
  have hsettled (trace : List Act) (made : Except SettingsFault Config) :
      (settled (scripted provider executor ctx) ⟨start, trace⟩ made).2.trace =
        trace ++ madeLog (settled (scripted provider executor ctx) ⟨start, trace⟩ made).1 := by
    cases made with
    | ok config => rfl
    | error fault => exact (List.append_nil trace).symm
  rw [Settings.networkQuestions, Procedure.play]
  cases hchain : settings.chainId with
  | some id =>
      rw [run_connect_of_chain _ _ hchain]
      exact hsettled [] _
  | none =>
      rw [run_connect_of_none _ _ hchain]
      cases hanswer : provider.networkId with
      | ok id =>
          simp only [scripted, hanswer]
          exact hsettled [.askedNetworkId] _
      | error fault =>
          simp only [scripted, hanswer]
          rfl

theorem Session.connect_of_startConnected {settings : Settings} {provider : Provider}
    {executor : Reply Unit} {session : Session}
    (h : startConnected settings provider executor = .ok session) :
    ((connect settings).play provider executor .background 0).result = .ok session.config := by
  rw [startConnected] at h
  cases hresult : ((connect settings).play provider executor .background 0).result with
  | ok config =>
      simp only [hresult] at h
      cases h
      rfl
  | error fault =>
      simp only [hresult] at h
      cases h

/-- Settings make a configuration exactly when there is no fault in them, and else name the first one. -/
theorem settings_make_or_name_first_fault :
    (∀ (settings : Settings) fallback,
      (∀ config, settings.validate fallback = .ok config ↔ settings.Makes fallback config) ∧
      ∀ fault, settings.validate fallback = .error fault ↔ fault.IsFirst settings fallback) ∧
    (∀ fault other : SettingsFault, fault.toFault = other.toFault → fault = other) ∧
    (∀ text text' a a', Address.ofText? text = some a → Address.ofText? text' = some a' →
      (a = a' ↔ Address.spelling text = Address.spelling text')) ∧
    (∀ (settings : Settings) {σ : Type} (services : Services σ) s,
      (∀ id, settings.chainId = some id →
        (connect settings).run services s = settled services s (settings.validate (some id))) ∧
      (settings.chainId = none →
        (connect settings).run services s =
          match services.networkId s with
          | (.ok id, s') => settled services s' (settings.validate (some id))
          | (.error fault, s') => (.error fault, s')) ∧
      ∀ config s', (connect settings).run services s = (.ok config, s') → config.target ≠ config.paired) ∧
    (∀ settings provider executor ctx start,
      ((connect settings).play provider executor ctx start).trace =
        List.replicate settings.networkQuestions .askedNetworkId ++
          madeLog ((connect settings).play provider executor ctx start).result) ∧
    ∀ settings provider executor session history,
      Session.startConnected settings provider executor = .ok session →
        (session.after history).config.target ≠ (session.after history).config.paired := by
  refine ⟨fun settings fallback => ⟨fun config => Settings.validate_eq_ok_iff,
      fun fault => Settings.validate_eq_error_iff⟩,
    fun fault other => SettingsFault.toFault_injective,
    fun text text' a a' => Address.eq_iff_spelling_eq,
    fun settings σ services s => ⟨fun id => run_connect_of_chain services s,
      run_connect_of_none services s, fun config s' hrun => (connect_yields settings).of_run hrun⟩,
    trace_connect, fun settings provider executor session history hsession => ?_⟩
  rw [Session.config_after]
  have hconnect := Procedure.run_of_play (Session.connect_of_startConnected hsession)
  exact (connect_yields settings).of_run hconnect

def sampleClash : Settings :=
  { sampleSettings with
    targetToken := "0xABABABABABABABABABABABABABABABABABABABAB"
    baseCurrency := "abababababababababababababababababababab" }

theorem sampleSettings_makes : sampleSettings.Makes (some 56) sampleConfig :=
  ⟨by decide +kernel, by decide +kernel, by decide, by decide +kernel, .inr ⟨rfl, rfl⟩⟩

theorem sampleSettings_checked :
    sampleSettings.validate (some 56) = .ok sampleConfig ∧
      SettingsFault.samePair.IsFirst sampleClash none ∧
      Address.spelling sampleClash.targetToken = Address.spelling sampleClash.baseCurrency ∧
      ∃ session, Session.startConnected sampleSettings sampleProvider ⟨.ok (), 7⟩ = .ok session ∧
        session.config.target ≠ session.config.paired := by
  obtain ⟨hchecked, -, hspelling, -, -, hsessions⟩ := settings_make_or_name_first_fault
  have hclash : sampleClash.validate none = .error .samePair := by decide +kernel
  have htarget : Address.ofText? sampleClash.targetToken =
      some ⟨0xABABABABABABABABABABABABABABABABABABABAB⟩ := by decide +kernel
  have hbase : Address.ofText? sampleClash.baseCurrency =
      some ⟨0xABABABABABABABABABABABABABABABABABABABAB⟩ := by decide +kernel
  have hresult : ((connect sampleSettings).play sampleProvider ⟨.ok (), 7⟩ .background 0).result =
      .ok sampleConfig := sampleSettings_connect
  refine ⟨((hchecked sampleSettings (some 56)).1 sampleConfig).mpr sampleSettings_makes,
    ((hchecked sampleClash none).2 .samePair).mp hclash,
    (hspelling _ _ _ _ htarget hbase).mp rfl, ?_⟩
  have hstart : ∃ session, Session.startConnected sampleSettings sampleProvider ⟨.ok (), 7⟩ =
      .ok session := by
    rw [Session.startConnected, hresult]
    exact ⟨_, rfl⟩
  obtain ⟨session, hsession⟩ := hstart
  exact ⟨session, hsession, hsessions _ _ _ session [] hsession⟩

end LiquidityTrigger
