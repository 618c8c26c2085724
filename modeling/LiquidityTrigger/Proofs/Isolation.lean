import LiquidityTrigger.Proofs.Concurrent
import LiquidityTrigger.Proofs.Evaluation.Symbol

/-!
# Isolation

The members of a group are told apart by their places only, and each leaves what it leaves alone: in a
new session with the same configuration and scripts, under what its context has left of its time.
-/

namespace LiquidityTrigger

/-- The evaluation at a place has come to what it comes to alone, in the same time and under its own
deadline. -/
structure Session.Isolated (s : Session) (e : Evaluation) (g : Group) (place : Nat) : Prop where
  result : g.resultOf place = some (s.alone e).result
  finish : g.endOf place = some (s.now + (s.alone e).finish)
  calls : callsIn (g.traceOf place) = callsIn (s.alone e).trace
  purchases : purchasesIn (g.traceOf place) = (purchasesIn (s.alone e).trace).map
    fun purchase => ⟨purchase.gasPrice, (s.context e.context).deadline⟩
  events : eventsIn (g.traceOf place) = eventsIn (s.alone e).trace

namespace Group

variable {s : Session} {evaluations : List Evaluation} {g : Group}

theorem OnTheWay.isolated (hg : OnTheWay s evaluations g) (hover : g.IsOver) {place : Nat}
    {e : Evaluation} (he : evaluations[place]? = some e) : s.Isolated e g place := by
  obtain ⟨hresult, hend, htrace⟩ := hg.member_of_isOver hover he
  rw [s.play_eq_aloneFromNow, Session.aloneFromNow] at hresult hend htrace
  rw [Record.under] at htrace
  exact {
    result := hresult
    finish := hend
    calls := by rw [htrace, callsIn_map_under]
    purchases := by rw [htrace, purchasesIn_map_under]
    events := by rw [htrace, eventsIn_map_under] }

theorem OnTheWay.calls_perm (hg : OnTheWay s evaluations g) (hover : g.IsOver) :
    (callsIn g.acts).Perm (evaluations.flatMap fun e => callsIn (s.alone e).trace) := by
  have hcalls := callsIn_perm (hg.acts_perm_of_isOver hover)
  simpa only [callsIn_flatMap, s.play_eq_aloneFromNow, Session.aloneFromNow, Record.under,
    callsIn_map_under] using hcalls

theorem OnTheWay.purchases_perm (hg : OnTheWay s evaluations g) (hover : g.IsOver) :
    (purchasesIn g.acts).Perm (evaluations.flatMap fun e => (purchasesIn (s.alone e).trace).map
      fun purchase => ⟨purchase.gasPrice, (s.context e.context).deadline⟩) := by
  have hpurchases := purchasesIn_perm (hg.acts_perm_of_isOver hover)
  simpa only [purchasesIn_flatMap, s.play_eq_aloneFromNow, Session.aloneFromNow, Record.under,
    purchasesIn_map_under] using hpurchases

theorem OnTheWay.now_eq_of_isOver (hg : OnTheWay s evaluations g) (hover : g.IsOver) :
    g.now = s.now + Session.finishOf 0 (evaluations.map s.alone) := by
  rw [hg.now_of_isOver hover, Session.finishOf_play]

/-- Two groups of the same evaluations in different orders come to the same. -/
theorem OnTheWay.agree_of_perm {evaluations' : List Evaluation} {g' : Group}
    (hg : OnTheWay s evaluations g) (hover : g.IsOver) (hg' : OnTheWay s evaluations' g')
    (hover' : g'.IsOver) (hperm : evaluations'.Perm evaluations) :
    g'.now = g.now ∧ g'.acts.Perm g.acts ∧
      ∀ (e : Evaluation) (place place' : Nat), evaluations[place]? = some e →
        evaluations'[place']? = some e →
          g'.resultOf place' = g.resultOf place ∧ g'.endOf place' = g.endOf place := by
  refine ⟨?_, ?_, fun e place place' hplace hplace' => ?_⟩
  · rw [hg.now_of_isOver hover, hg'.now_of_isOver hover']
    exact Session.finishOf_perm s.now (hperm.map s.play)
  · have hacts := hg.acts_perm_of_isOver hover
    have hacts' := hg'.acts_perm_of_isOver hover'
    exact hacts'.trans ((hperm.flatMap_right _).trans hacts.symm)
  · have h := hg.isolated hover hplace
    have h' := hg'.isolated hover' hplace'
    exact ⟨h'.result.trans h.result.symm, h'.finish.trans h.finish.symm⟩

end Group

/-- In whatever order its members go on, each of them comes to what it comes to alone, and a group ends
with its slowest member. -/
theorem group_isolates (origin : Session) (history : List Session.Step)
    (evaluations : List Evaluation) :
    let s := origin.after history
    let Reaches (members : List Evaluation) (g : Group) : Prop :=
      Group.Run s.provider s.executor (Group.start s members) g
    s.config = origin.config ∧
    (¬ ∃ groups : Nat → Group, groups 0 = Group.start s evaluations ∧
      ∀ n, Group.Step s.provider s.executor (groups n) (groups (n + 1))) ∧
    (∀ g, Reaches evaluations g → ∃ h, Group.Run s.provider s.executor g h ∧ h.IsOver) ∧
    (∀ g, Reaches evaluations g → g.IsOver →
      (∀ place e, evaluations[place]? = some e → s.Isolated e g place) ∧
      (callsIn g.acts).Perm (evaluations.flatMap fun e => callsIn (s.alone e).trace) ∧
      (purchasesIn g.acts).Perm (evaluations.flatMap fun e => (purchasesIn (s.alone e).trace).map
        fun purchase => ⟨purchase.gasPrice, (s.context e.context).deadline⟩) ∧
      g.now = s.now + Session.finishOf 0 (evaluations.map s.alone) ∧
      ∀ permuted, permuted.Perm evaluations → ∀ h, Reaches permuted h → h.IsOver →
        h.now = g.now ∧ h.acts.Perm g.acts ∧
        ∀ e place place', evaluations[place]? = some e → permuted[place']? = some e →
          h.resultOf place' = g.resultOf place ∧ h.endOf place' = g.endOf place) ∧
    origin.run (history ++ [.join evaluations]) = origin.run history ++
      [.joined (evaluations.map s.aloneFromNow)
        (s.unshown ++ evaluations.flatMap fun e => (s.aloneFromNow e).trace)] := by
  intro s Reaches
  have honTheWay {members : List Evaluation} {g : Group} (hrun : Reaches members g) :
      Group.OnTheWay s members g := (Group.onTheWay_start s members).run hrun
  refine ⟨origin.config_after history, ?_, fun g hrun => (honTheWay hrun).exists_isOver,
    fun g hrun hover => ?_, ?_⟩
  · rintro ⟨groups, hfirst, hsteps⟩
    exact (Group.onTheWay_start s evaluations).not_endless groups hfirst hsteps
  · have hg := honTheWay hrun
    exact ⟨fun place e => hg.isolated hover, hg.calls_perm hover, hg.purchases_perm hover,
      hg.now_eq_of_isOver hover,
      fun permuted hperm h hrun' hover' => hg.agree_of_perm hover (honTheWay hrun') hover' hperm⟩
  · rw [Session.run_append, Session.run_join]

/-! ### A group to try things on -/

def sampleHistory : List Session.Step := [.nameContext "short" (some 10), .sleep 7]

def sampleOrigin : Session := .start sampleConfig sampleProvider ⟨.ok (), 7⟩

def sampleGroup : List Evaluation :=
  [⟨.add, .decoded sampleAddition, .named "short"⟩, ⟨.add, .decoded sampleAddition, .fresh 60⟩]

theorem sampleAddition_late :
    ((Entry.add.decide sampleConfig sampleAddition).play sampleProvider ⟨.ok (), 7⟩
      (.withDeadline 3) 0).result = .error (Context.timeoutFault "balanceOf") := by
  have htakes : Entry.add.Takes sampleAddition.data .addLiquidity := rfl
  refine (result_eq_error_iff_of_reach sampleAddition_reaches
    (Entry.course_of_takes htakes)).mpr (.inl (balanceRead_eq_timeout_iff.mpr (.inl ?_)))
  rw [Context.not_inTime_withDeadline_iff, Provider.answer_of_not_own (p := sampleProvider) rfl,
    Provider.usual_balanceOfCall]
  decide

theorem sampleGroup_isolated :
    let s := sampleOrigin.after sampleHistory
    ∃ g h : Group, ∃ diagnostic,
      Group.Run s.provider s.executor (Group.start s sampleGroup) g ∧ g.IsOver ∧
      Group.Run s.provider s.executor (Group.start s sampleGroup.reverse) h ∧ h.IsOver ∧
      g.resultOf 0 = some (.error (Context.timeoutFault "balanceOf")) ∧
      g.resultOf 1 = some (.ok (.suppressed (.belowThreshold diagnostic))) ∧
      h.resultOf 1 = g.resultOf 0 ∧ h.resultOf 0 = g.resultOf 1 ∧ h.now = g.now := by
  obtain ⟨-, -, hends, hover, -⟩ := group_isolates sampleOrigin sampleHistory sampleGroup
  obtain ⟨-, -, hends', -, -⟩ := group_isolates sampleOrigin sampleHistory sampleGroup.reverse
  obtain ⟨g, hrun, hg⟩ := hends _ (.refl _)
  obtain ⟨h, hrun', hh⟩ := hends' _ (.refl _)
  obtain ⟨hmember, -, -, -, hpermuted⟩ := hover g hrun hg
  obtain ⟨hnow, -, hsame⟩ := hpermuted _ (List.reverse_perm sampleGroup) h hrun' hh
  obtain ⟨⟨diagnostic, hdiagnostic⟩, -⟩ := sampleAddition_scarce
  refine ⟨g, h, diagnostic, hrun, hg, hrun', hh, ?_, ?_, (hsame _ 0 1 rfl rfl).1,
    (hsame _ 1 0 rfl rfl).1, hnow⟩
  · have hcontext : ((sampleOrigin.after sampleHistory).context (.named "short")).remaining 7 =
        .withDeadline 3 := by decide
    have halone := (sampleOrigin.after sampleHistory).alone_decoded .add sampleAddition
      (.named "short")
    rw [(hmember 0 _ rfl).result, halone]
    exact congrArg some (hcontext ▸ sampleAddition_late)
  · have hcontext : ((sampleOrigin.after sampleHistory).context (.fresh 60)).remaining 7 =
        .withDeadline 60 := by decide
    have halone := (sampleOrigin.after sampleHistory).alone_decoded .add sampleAddition (.fresh 60)
    rw [(hmember 1 _ rfl).result, halone]
    exact congrArg some (hcontext ▸ hdiagnostic)

end LiquidityTrigger
