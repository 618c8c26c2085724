import LiquidityTrigger.Concurrent
import LiquidityTrigger.Proofs.Session
import Mathlib.Algebra.BigOperators.Group.List.Basic
import Mathlib.Algebra.GroupWithZero.Nat
import Mathlib.Data.List.Perm.Basic

/-!
# Groups come apart into their members

Whatever the order in which the members of a group make their requests, each of them is at any time in
the middle of the run that it has alone: what it has traced so far, and what is left of it from the time
when it can go on, make up its record. `OnTheWay` states this of a group, every step keeps it, and a
group that is over has nothing left to run. A group cannot go on for ever, since every step uses up a
request or some of the time to the last end, and it cannot get stuck.
-/

namespace LiquidityTrigger

namespace Group

def acts (g : Group) : List Act := g.trace.map Prod.snd

/-- What the member at a place came to, if it has ended. -/
def resultOf (g : Group) (place : Nat) : Option (Except Fault Outcome) :=
  g.tasks[place]?.bind fun t => t.rest.result?

def endOf (g : Group) (place : Nat) : Option Nat := g.tasks[place]?.map (·.readyAt)

/-! ### What a group has traced -/

theorem traceOf_cons (now : Nat) (tasks : List Task) (asker : Nat) (act : Act)
    (trace : List (Nat × Act)) (place : Nat) :
    traceOf ⟨now, tasks, (asker, act) :: trace⟩ place =
      (if asker = place then [act] else []) ++ traceOf ⟨now, tasks, trace⟩ place := by
  by_cases h : asker = place
  · simp [traceOf, h]
  · simp [traceOf, h]

theorem traceOf_append {g h : Group} {place : Nat} {new : List Act}
    (htrace : h.trace = g.trace ++ new.map fun act => (place, act)) (other : Nat) :
    h.traceOf other = g.traceOf other ++ if place = other then new else [] := by
  rw [traceOf, htrace, List.filterMap_append, List.filterMap_map]
  by_cases hplace : place = other
  · simp [traceOf, hplace]
  · simp [traceOf, hplace]

private theorem flatMap_range_single (new : List Act) {size place : Nat} (h : place < size) :
    (List.range size).flatMap (fun other => if place = other then new else []) = new := by
  induction size with
  | zero => exact absurd h (Nat.not_lt_zero place)
  | succ size ih =>
      rw [List.range_succ, List.flatMap_append, List.flatMap_singleton]
      rcases Nat.lt_succ_iff_lt_or_eq.mp h with hlt | rfl
      · rw [ih hlt, if_neg (Nat.ne_of_lt hlt), List.append_nil]
      · rw [if_pos rfl, List.flatMap_eq_nil_iff.mpr, List.nil_append]
        intro other hother
        exact if_neg (Nat.ne_of_gt (List.mem_range.mp hother))

theorem perm_flatMap_traceOf {g : Group} {size : Nat} (h : ∀ entry ∈ g.trace, entry.1 < size) :
    g.acts.Perm ((List.range size).flatMap g.traceOf) := by
  obtain ⟨now, tasks, trace⟩ := g
  induction trace with
  | nil => simp [acts, traceOf]
  | cons entry trace ih =>
      obtain ⟨asker, act⟩ := entry
      have hasker : asker < size := h (asker, act) (by simp)
      have hrest := ih fun entry hentry => h entry (by simp [hentry])
      -- The first act is put in front of what its asker traced; all else stays where it is.
      have hfirst := flatMap_range_single [act] hasker
      have happend := List.flatMap_append_perm (List.range size)
        (fun place => if asker = place then [act] else []) (traceOf ⟨now, tasks, trace⟩)
      rw [hfirst] at happend
      rw [List.flatMap_congr fun place _ => traceOf_cons now tasks asker act trace place]
      exact (hrest.cons act).trans happend

/-! ### Every member is in the middle of its own run -/

/-- A member is in the middle of the run that it has alone: with what it has traced, the rest of it makes
up its record. As long as it has not ended, it does not go on before now. -/
structure Underway (s : Session) (e : Evaluation) (t : Task) (traced : List Act) (now : Nat) :
    Prop where
  context : t.context = s.context e.context
  run : t.rest.run (scripted s.provider s.executor t.context) ⟨t.readyAt, traced⟩ =
    ((s.play e).result, ⟨(s.play e).finish, (s.play e).trace⟩)
  notBefore : t.rest.result? = none → now ≤ t.readyAt

namespace Underway

variable {s : Session} {e : Evaluation} {t : Task} {traced : List Act} {now : Nat}

theorem start (s : Session) (e : Evaluation) :
    Underway s e ⟨s.context e.context, e.procedure s.config, s.now⟩ [] s.now :=
  ⟨rfl, rfl, fun _ => Nat.le_refl s.now⟩

theorem readyAt_le (h : Underway s e t traced now) : t.readyAt ≤ (s.play e).finish := by
  have hle := t.rest.le_run s.provider s.executor t.context ⟨t.readyAt, traced⟩
  rwa [h.run] at hle

theorem now_eq (h : Underway s e t traced now) {rest : Procedure Outcome} {w : World}
    (hready : t.readyAt ≤ now)
    (hstep : t.rest.step (scripted s.provider s.executor t.context) ⟨now, []⟩ = some (rest, w)) :
    now = t.readyAt :=
  Nat.le_antisymm (h.notBefore (Procedure.result?_of_step _ hstep)) hready

theorem request (h : Underway s e t traced now) {rest : Procedure Outcome} {w : World}
    (hready : t.readyAt ≤ now)
    (hstep : t.rest.step (scripted s.provider s.executor t.context) ⟨now, []⟩ = some (rest, w)) :
    Underway s e ⟨t.context, rest, w.now⟩ (traced ++ w.trace) now := by
  obtain rfl := h.now_eq hready hstep
  refine ⟨h.context, ?_, fun _ => (Procedure.step_scripted _ _ _ hstep).1⟩
  rw [← Procedure.run_step_behind _ _ _ hstep, h.run]

/-- Time may pass for a member up to the time from which it can go on. -/
theorem wait (h : Underway s e t traced now) {later : Nat}
    (hwaits : later ≤ t.readyAt ∨ t.rest.result?.isSome) : Underway s e t traced later := by
  refine ⟨h.context, h.run, fun hnone => ?_⟩
  rcases hwaits with hlater | hended
  · exact hlater
  · rw [hnone] at hended
    cases hended

theorem ended (h : Underway s e t traced now) {result : Except Fault Outcome}
    (hresult : t.rest.result? = some result) :
    result = (s.play e).result ∧ t.readyAt = (s.play e).finish ∧ traced = (s.play e).trace := by
  have hrun := h.run
  rw [Procedure.run_of_result _ hresult] at hrun
  simp only [Prod.mk.injEq, World.mk.injEq] at hrun
  exact hrun

end Underway

/-- A group on its way: each of its members is in the middle of its own run, all that was traced belongs
to members, and the clock has not passed the end of the last. -/
structure OnTheWay (s : Session) (evaluations : List Evaluation) (g : Group) : Prop where
  size : g.tasks.length = evaluations.length
  member : ∀ place t, g.tasks[place]? = some t →
    ∃ e, evaluations[place]? = some e ∧ Underway s e t (g.traceOf place) g.now
  askers : ∀ entry ∈ g.trace, entry.1 < evaluations.length
  started : s.now ≤ g.now
  inTime : g.now ≤ Session.finishOf s.now (evaluations.map s.play)

variable {s : Session} {evaluations : List Evaluation} {g h : Group}

theorem onTheWay_start (s : Session) (evaluations : List Evaluation) :
    OnTheWay s evaluations (start s evaluations) where
  size := List.length_map _
  member place t htask := by
    rw [start, List.getElem?_map] at htask
    obtain ⟨e, he, rfl⟩ := Option.map_eq_some_iff.mp htask
    exact ⟨e, he, Underway.start s e⟩
  askers entry hentry := by cases hentry
  started := Nat.le_refl s.now
  inTime := (Session.finishOf_le_iff.mp (Nat.le_refl _)).1

theorem OnTheWay.step (hg : OnTheWay s evaluations g) (hstep : Step s.provider s.executor g h) :
    OnTheWay s evaluations h := by
  cases hstep with
  | @request place t rest w htask hready hstep =>
      obtain ⟨e, he, hmember⟩ := hg.member place t htask
      refine ⟨by rw [List.length_set, hg.size], fun other u hother => ?_, fun entry hentry => ?_,
        hg.started, hg.inTime⟩
      · -- Whoever asked has gone along its run; the other members and what they traced are untouched.
        rw [traceOf_append (g := g) rfl]
        by_cases hplace : place = other
        · subst hplace
          have hlt : place < g.tasks.length := (List.getElem?_eq_some_iff.mp htask).1
          rw [List.getElem?_set_self hlt, Option.some.injEq] at hother
          subst hother
          rw [if_pos rfl]
          exact ⟨e, he, hmember.request hready hstep⟩
        · rw [List.getElem?_set_ne hplace] at hother
          rw [if_neg hplace, List.append_nil]
          exact hg.member other u hother
      · rcases List.mem_append.mp hentry with hold | hnew
        · exact hg.askers entry hold
        · obtain ⟨act, -, rfl⟩ := List.mem_map.mp hnew
          exact (List.getElem?_eq_some_iff.mp he).1
  | @wait later hlater hothers hone =>
      refine ⟨hg.size, fun place t htask => ?_, hg.askers,
        Nat.le_trans hg.started (Nat.le_of_lt hlater), ?_⟩
      · obtain ⟨e, he, hmember⟩ := hg.member place t htask
        exact ⟨e, he, hmember.wait ((hothers t (List.mem_of_getElem? htask)).imp_right (·.1))⟩
      · -- The member for which the clock moves ends no earlier than it can go on.
        obtain ⟨t, ht, hreadyAt⟩ := hone
        obtain ⟨place, htask⟩ := List.mem_iff_getElem?.mp ht
        obtain ⟨e, he, hmember⟩ := hg.member place t htask
        have hmem := List.mem_map_of_mem (f := s.play) (List.mem_of_getElem? he)
        calc later ≤ t.readyAt := hreadyAt
          _ ≤ (s.play e).finish := hmember.readyAt_le
          _ ≤ Session.finishOf s.now (evaluations.map s.play) := Session.finish_le_finishOf _ hmem

theorem OnTheWay.run (hg : OnTheWay s evaluations g) (hrun : Run s.provider s.executor g h) :
    OnTheWay s evaluations h := by
  induction hrun with
  | refl g => exact hg
  | step hfirst hrest ih => exact ih (hg.step hfirst)

/-! ### Groups that are over -/

theorem OnTheWay.member_of_isOver (hg : OnTheWay s evaluations g) (hover : g.IsOver) {place : Nat}
    {e : Evaluation} (he : evaluations[place]? = some e) :
    g.resultOf place = some (s.play e).result ∧ g.endOf place = some (s.play e).finish ∧
      g.traceOf place = (s.play e).trace := by
  have hplace : place < g.tasks.length := by
    rw [hg.size]
    exact (List.getElem?_eq_some_iff.mp he).1
  have htask := List.getElem?_eq_getElem hplace
  obtain ⟨e', he', hmember⟩ := hg.member place _ htask
  obtain rfl : e = e' := Option.some.inj (he.symm.trans he')
  obtain ⟨result, hresult⟩ := Option.isSome_iff_exists.mp (hover _ (List.getElem_mem hplace)).1
  obtain ⟨hsame, hreadyAt, htrace⟩ := hmember.ended hresult
  refine ⟨?_, ?_, htrace⟩
  · rw [resultOf, htask, Option.bind_some, hresult, hsame]
  · rw [endOf, htask, Option.map_some, hreadyAt]

theorem OnTheWay.acts_perm_of_isOver (hg : OnTheWay s evaluations g) (hover : g.IsOver) :
    g.acts.Perm (evaluations.flatMap fun e => (s.play e).trace) := by
  have htraces : (List.range evaluations.length).map g.traceOf =
      evaluations.map fun e => (s.play e).trace := by
    refine List.ext_getElem (by simp) fun place hplace hplace' => ?_
    have he := List.getElem?_eq_getElem (l := evaluations) (by simpa using hplace')
    simpa using (hg.member_of_isOver hover he).2.2
  have hacts := perm_flatMap_traceOf hg.askers
  rwa [List.flatMap_def, htraces, ← List.flatMap_def] at hacts

/-- The clock of a group that is over shows the end of its slowest member. -/
theorem OnTheWay.now_of_isOver (hg : OnTheWay s evaluations g) (hover : g.IsOver) :
    g.now = Session.finishOf s.now (evaluations.map s.play) := by
  refine Nat.le_antisymm hg.inTime (Session.finishOf_le_iff.mpr ⟨hg.started, fun record hrecord => ?_⟩)
  obtain ⟨e, he, rfl⟩ := List.mem_map.mp hrecord
  obtain ⟨place, hplace⟩ := List.mem_iff_getElem?.mp he
  obtain ⟨t, htask, hend⟩ := Option.map_eq_some_iff.mp (hg.member_of_isOver hover hplace).2.1
  rw [← hend]
  exact (hover t (List.mem_of_getElem? htask)).2

/-! ### Groups do not get stuck -/

theorem isOver_or_exists_step (provider : Provider) (executor : Reply Unit) (g : Group) :
    g.IsOver ∨ ∃ h, Step provider executor g h := by
  by_cases hover : g.IsOver
  · exact .inl hover
  right
  by_cases hready : ∃ t ∈ g.tasks, t.rest.result? = none ∧ t.readyAt ≤ g.now
  · obtain ⟨t, ht, hnone, hnow⟩ := hready
    obtain ⟨place, htask⟩ := List.mem_iff_getElem?.mp ht
    obtain ⟨rest, w, hstep⟩ := Procedure.exists_step_of_result
      (scripted provider executor t.context) hnone ⟨g.now, []⟩
    exact ⟨_, .request htask hnow hstep⟩
  · -- All that have something left to ask for wait, so the clock may move on by one.
    have hwaits : ∀ t ∈ g.tasks, ¬(t.rest.result?.isSome ∧ t.readyAt ≤ g.now) →
        g.now + 1 ≤ t.readyAt := by
      intro t ht hnot
      by_contra hnow
      have hnow : t.readyAt ≤ g.now := by omega
      exact hready ⟨t, ht, Option.not_isSome_iff_eq_none.mp fun hended => hnot ⟨hended, hnow⟩, hnow⟩
    simp only [IsOver, not_forall] at hover
    obtain ⟨t, ht, hnot⟩ := hover
    refine ⟨_, .wait (Nat.lt_succ_self g.now) (fun u hu => ?_) ⟨t, ht, hwaits t ht hnot⟩⟩
    by_cases hended : u.rest.result?.isSome ∧ u.readyAt ≤ g.now
    · exact .inr hended
    · exact .inl (hwaits u hu hended)

/-! ### Groups do not go on for ever -/

def requestsLeft (s : Session) (t : Task) : Nat :=
  (t.rest.run (scripted s.provider s.executor t.context) ⟨t.readyAt, []⟩).2.trace.length

/-- What a group has before it: the requests of its members and the time to the last end. -/
def left (s : Session) (evaluations : List Evaluation) (g : Group) : Nat :=
  (g.tasks.map (requestsLeft s)).sum + (Session.finishOf s.now (evaluations.map s.play) - g.now)

theorem requestsLeft_of_step {t : Task} {rest : Procedure Outcome} {w : World}
    (hstep : t.rest.step (scripted s.provider s.executor t.context) ⟨t.readyAt, []⟩ =
      some (rest, w)) :
    requestsLeft s ⟨t.context, rest, w.now⟩ < requestsLeft s t := by
  obtain ⟨act, hact⟩ := (Procedure.step_scripted _ _ _ hstep).2
  have hbehind := rest.run_behind s.provider s.executor t.context [act] ⟨w.now, []⟩
  rw [List.append_nil] at hbehind
  rw [requestsLeft, requestsLeft, Procedure.run_step_behind _ _ _ hstep, List.nil_append, hact,
    hbehind, List.length_append, List.length_singleton]
  exact Nat.lt_add_of_pos_left Nat.one_pos

private theorem sum_map_set_lt {tasks : List Task} {f : Task → Nat} {place : Nat} {t u : Task}
    (htask : tasks[place]? = some t) (hlt : f u < f t) :
    ((tasks.set place u).map f).sum < (tasks.map f).sum := by
  induction tasks generalizing place with
  | nil => cases htask
  | cons first rest ih =>
      cases place with
      | zero =>
          cases htask
          simpa using hlt
      | succ place => simpa using ih htask

theorem OnTheWay.left_lt_of_step (hg : OnTheWay s evaluations g)
    (hstep : Step s.provider s.executor g h) : left s evaluations h < left s evaluations g := by
  have hinTime := (hg.step hstep).inTime
  cases hstep with
  | @request place t rest w htask hready hstep =>
      -- A member that has not ended asks at the very time from which it can go on.
      obtain ⟨e, he, hmember⟩ := hg.member place t htask
      have hnow := hmember.now_eq hready hstep
      rw [hnow] at hstep
      exact Nat.add_lt_add_right (sum_map_set_lt htask (requestsLeft_of_step hstep)) _
  | @wait later hlater hothers hone =>
      have hshort := Nat.sub_lt_sub_left (Nat.lt_of_lt_of_le hlater hinTime) hlater
      exact Nat.add_lt_add_left hshort _

theorem OnTheWay.exists_isOver (hg : OnTheWay s evaluations g) :
    ∃ h, Run s.provider s.executor g h ∧ h.IsOver := by
  induction hleft : left s evaluations g using Nat.strong_induction_on generalizing g with
  | _ n ih =>
      rcases isOver_or_exists_step s.provider s.executor g with hover | ⟨h, hstep⟩
      · exact ⟨g, .refl g, hover⟩
      · obtain ⟨k, hrun, hover⟩ := ih _ (hleft ▸ hg.left_lt_of_step hstep) (hg.step hstep) rfl
        exact ⟨k, .step hstep hrun, hover⟩

theorem OnTheWay.not_endless (hg : OnTheWay s evaluations g) (groups : Nat → Group)
    (hfirst : groups 0 = g) : ¬ ∀ n, Step s.provider s.executor (groups n) (groups (n + 1)) := by
  intro hsteps
  have hbound (n : Nat) :
      OnTheWay s evaluations (groups n) ∧ left s evaluations (groups n) + n ≤ left s evaluations g := by
    induction n with
    | zero => exact ⟨hfirst ▸ hg, Nat.le_of_eq (by rw [hfirst, Nat.add_zero])⟩
    | succ n ih =>
        have hless := ih.1.left_lt_of_step (hsteps n)
        exact ⟨ih.1.step (hsteps n), by omega⟩
  have hlast := (hbound (left s evaluations g + 1)).2
  omega

end Group

end LiquidityTrigger
