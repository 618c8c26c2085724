import LiquidityTrigger.Proofs.Context
import Mathlib.Data.List.Basic

/-!
# One context, one budget of time

Steps on one clock: new contexts, whose deadlines may have passed already, pauses, and waits with any answers.
`now_le_step` says that no step sets the clock back, and everything else is read off the two times at which a wait can
end. A wait ends with its answer or at the deadline, so a row of waits under one deadline ends by it, however long
the row is: what the first waits use up is gone for the others. A wait that is cut off leaves the clock at the
deadline or behind it, and there only an answer that is there at once still comes in time.
-/

namespace LiquidityTrigger.Timeline

variable {α : Type}

def after (t : Timeline) (history : List (Step α)) : Timeline :=
  history.foldl (fun t step => (t.step step).2) t

theorem after_append (t : Timeline) (history rest : List (Step α)) :
    t.after (history ++ rest) = (t.after history).after rest := List.foldl_append

/-- What a run shows at a place is what the step there gives behind the steps before it. -/
theorem getElem?_run (t : Timeline) (steps : List (Step α)) (place : Nat) :
    (t.run steps)[place]? = steps[place]?.map fun step => (t.after (steps.take place)).step step := by
  induction steps generalizing t place with
  | nil => simp [run]
  | cons step rest ih =>
      cases place with
      | zero => rfl
      | succ place => exact ih (t.step step).2 place

/-! ### The clock -/

theorem now_le_step (t : Timeline) (step : Step α) : t.now ≤ (t.step step).2.now := by
  cases step with
  | background => exact Nat.le_refl t.now
  | timeout ms => exact Nat.le_refl t.now
  | deadline ms => exact Nat.le_refl t.now
  | sleep ms => exact Nat.le_add_right t.now ms
  | wait operation reply => exact Context.le_wait_end t.context operation reply t.now

theorem now_le_after (t : Timeline) (history : List (Step α)) : t.now ≤ (t.after history).now := by
  induction history generalizing t with
  | nil => exact Nat.le_refl t.now
  | cons step history ih => exact Nat.le_trans (t.now_le_step step) (ih (t.step step).2)

theorem pairwise_now_run (t : Timeline) (steps : List (Step α)) :
    (t.now :: (t.run steps).map fun entry => entry.2.now).Pairwise (· ≤ ·) := by
  induction steps generalizing t with
  | nil => exact List.pairwise_singleton _ t.now
  | cons step rest ih =>
      have hstep := t.now_le_step step
      have hrest := ih (t.step step).2
      refine List.pairwise_cons.mpr ⟨fun now hnow => ?_, hrest⟩
      rcases List.mem_cons.mp hnow with rfl | hnow
      · exact hstep
      · exact Nat.le_trans hstep (List.rel_of_pairwise_cons hrest hnow)

theorem now_after_take_le (t : Timeline) (steps : List (Step α)) {place later : Nat} (h : place ≤ later) :
    (t.after (steps.take place)).now ≤ (t.after (steps.take later)).now := by
  obtain ⟨more, rfl⟩ := Nat.exists_eq_add_of_le h
  rw [List.take_add, after_append]
  exact now_le_after _ _

theorem after_take_succ {t : Timeline} {steps : List (Step α)} {place : Nat} {step : Step α}
    (h : steps[place]? = some step) :
    t.after (steps.take (place + 1)) = ((t.after (steps.take place)).step step).2 := by
  rw [List.take_add_one, h, after_append]
  rfl

/-! ### Waits -/

theorem step_wait (t : Timeline) (operation : String) (reply : Reply α) :
    t.step (.wait operation reply) =
      (.waited (t.context.wait operation reply t.now).1,
        ⟨(t.context.wait operation reply t.now).2, t.context⟩) := rfl

/-- What the answer to a wait is, and when it comes, in a timeline under a deadline or none. -/
structure Gives (t : Timeline) (operation : String) (reply : Reply α) (result : Except Fault α)
    (later : Nat) : Prop where
  /-- Without a deadline it is the answer. -/
  unbounded : t.context.deadline = none → result = reply.result ∧ later = t.now + reply.delay
  /-- Under a deadline it is the answer exactly if that is there at once or comes by the deadline. -/
  bounded : ∀ deadline, t.context.deadline = some deadline →
    (result = reply.result ∧ later = t.now + reply.delay ↔
      reply.delay = 0 ∨ t.now + reply.delay ≤ deadline)
  /-- Otherwise it is a timeout, at the deadline or at once behind it. -/
  late : ∀ deadline, t.context.deadline = some deadline →
    ¬ (reply.delay = 0 ∨ t.now + reply.delay ≤ deadline) →
      result = .error (Context.timeoutFault operation) ∧ later = max deadline t.now

theorem gives_wait (t : Timeline) (operation : String) (reply : Reply α) :
    t.Gives operation reply (t.context.wait operation reply t.now).1
      (t.context.wait operation reply t.now).2 := by
  constructor
  case unbounded =>
    intro hnone
    have htime : t.context.InTime reply.delay t.now := .inr fun deadline hdeadline => by
      rw [hnone] at hdeadline
      cases hdeadline
    rw [Context.wait_of_inTime htime]
    exact ⟨rfl, rfl⟩
  case bounded =>
    intro deadline hdeadline
    rw [← Context.inTime_iff_of_deadline hdeadline]
    constructor
    · rintro ⟨-, hlater⟩
      by_contra hlate
      -- A wait that is cut off ends before its answer would have come.
      obtain ⟨hdelay, -⟩ := Context.not_inTime_iff.mp hlate
      obtain ⟨_, _, hbefore, hwait⟩ := Context.wait_of_not_inTime operation hlate
      rw [hwait] at hlater
      dsimp only at hlater
      omega
    · intro htime
      rw [Context.wait_of_inTime htime]
      exact ⟨rfl, rfl⟩
  case late =>
    intro deadline hdeadline hlate
    rw [← Context.inTime_iff_of_deadline hdeadline] at hlate
    obtain ⟨other, hother, -, hwait⟩ := Context.wait_of_not_inTime operation hlate
    obtain rfl : deadline = other := Option.some.inj (hdeadline.symm.trans hother)
    rw [hwait]
    exact ⟨rfl, rfl⟩

def waits (row : List (String × Reply α)) : List (Step α) :=
  row.map fun (operation, reply) => .wait operation reply

/-- However many waits there are under a deadline, all of them end by it, or at once if it has passed. -/
theorem now_le_of_mem_run_waits {t : Timeline} {deadline : Nat} (hdeadline : t.context.deadline = some deadline)
    (row : List (String × Reply α)) {entry : Answer α × Timeline} (h : entry ∈ t.run (waits row)) :
    entry.2.now ≤ max t.now deadline := by
  induction row generalizing t with
  | nil => cases h
  | cons first row ih =>
      obtain ⟨operation, reply⟩ := first
      have hfirst : (t.step (.wait operation reply)).2.now ≤ max t.now deadline :=
        Context.wait_end_le hdeadline
      rcases List.mem_cons.mp h with rfl | h
      · exact hfirst
      · have hrest := ih (t := (t.step (.wait operation reply)).2) hdeadline h
        exact Nat.le_trans hrest (Nat.max_le.mpr ⟨hfirst, Nat.le_max_right _ _⟩)

/-- A wait that is cut off leaves the clock at the deadline or behind it. -/
theorem passed_of_late {t : Timeline} {operation : String} {reply : Reply α} {deadline : Nat}
    (hdeadline : t.context.deadline = some deadline)
    (hlate : ¬ (reply.delay = 0 ∨ t.now + reply.delay ≤ deadline)) :
    deadline ≤ (t.step (.wait operation reply)).2.now := by
  obtain ⟨-, hlater⟩ := (t.gives_wait operation reply).late deadline hdeadline hlate
  rw [step_wait, hlater]
  exact Nat.le_max_left _ _

theorem step_wait_of_passed {t : Timeline} {deadline : Nat} (hdeadline : t.context.deadline = some deadline)
    (hpassed : deadline ≤ t.now) (operation : String) (reply : Reply α) :
    t.step (.wait operation reply) =
      (.waited (if reply.delay = 0 then reply.result else .error (Context.timeoutFault operation)), t) := by
  have hgives := t.gives_wait operation reply
  rw [step_wait]
  by_cases hzero : reply.delay = 0
  · obtain ⟨hresult, hlater⟩ := (hgives.bounded deadline hdeadline).mpr (.inl hzero)
    rw [hresult, hlater, hzero, if_pos rfl]
    rfl
  · have hlate : ¬ (reply.delay = 0 ∨ t.now + reply.delay ≤ deadline) := by omega
    obtain ⟨hresult, hlater⟩ := hgives.late deadline hdeadline hlate
    rw [hresult, hlater, Nat.max_eq_right hpassed, if_neg hzero]

/-- All waits under one deadline end by it, and once one of them was cut off no later one takes any time. -/
theorem context_is_one_budget (t : Timeline) (steps : List (Step α)) :
    (t.now :: (t.run steps).map fun entry => entry.2.now).Pairwise (· ≤ ·) ∧
    (∀ place operation reply, steps[place]? = some (.wait operation reply) →
      let s := t.after (steps.take place)
      ∃ result later, (t.run steps)[place]? = some (.waited result, ⟨later, s.context⟩) ∧
        s.Gives operation reply result later) ∧
    (∀ deadline (row : List (String × Reply α)),
      let s := t.after steps
      s.context.deadline = some deadline → ∀ entry ∈ s.run (waits row), entry.2.now ≤ max s.now deadline) ∧
    ∀ place later, place < later → ∀ deadline,
      let s := t.after (steps.take place)
      let s' := t.after (steps.take later)
      s.context.deadline = some deadline → s'.context.deadline = some deadline →
      ∀ operation reply, steps[place]? = some (.wait operation reply) →
        ¬ (reply.delay = 0 ∨ s.now + reply.delay ≤ deadline) →
        ∀ operation' reply', steps[later]? = some (.wait operation' reply') →
          (t.run steps)[later]? = some (.waited
            (if reply'.delay = 0 then reply'.result else .error (Context.timeoutFault operation')), s') := by
  refine ⟨t.pairwise_now_run steps, ?_, ?_, ?_⟩
  · intro place operation reply hwait s
    refine ⟨_, _, ?_, s.gives_wait operation reply⟩
    rw [getElem?_run, hwait]
    rfl
  · intro deadline row s hdeadline entry hentry
    exact now_le_of_mem_run_waits hdeadline row hentry
  · intro place later hbefore deadline s s' hdeadline hdeadline' operation reply hwait hlate operation' reply' hwait'
    have hpassed : deadline ≤ (t.after (steps.take (place + 1))).now := by
      rw [after_take_succ hwait]
      exact passed_of_late hdeadline hlate
    have hpassed' : deadline ≤ s'.now := Nat.le_trans hpassed (t.now_after_take_le steps hbefore)
    rw [getElem?_run, hwait', Option.map_some, step_wait_of_passed hdeadline' hpassed']

def sampleSteps : List (Step Nat) :=
  [.timeout 50, .wait "balanceOf" ⟨.ok 1, 20⟩, .wait "symbol" ⟨.ok 2, 40⟩, .sleep 5,
    .wait "balanceOf" ⟨.ok 3, 1⟩, .wait "symbol" ⟨.ok 4, 0⟩]

theorem sampleSteps_budget :
    (∃ result later, (start.run sampleSteps)[2]? = some (.waited result, ⟨later, ⟨some 50⟩⟩) ∧
      result = .error (Context.timeoutFault "symbol") ∧ later = 50) ∧
    (start.run sampleSteps)[4]? = some (.waited (.error (Context.timeoutFault "balanceOf")), ⟨55, ⟨some 50⟩⟩) ∧
    (start.run sampleSteps)[5]? = some (.waited (.ok 4), ⟨55, ⟨some 50⟩⟩) ∧
    ∀ entry ∈ (start.after sampleSteps).run (waits [("balanceOf", ⟨.ok 1, 20⟩), ("symbol", ⟨.ok 2, 0⟩)]),
      entry.2.now ≤ 55 := by
  obtain ⟨-, hgives, hrow, hlater⟩ := context_is_one_budget start sampleSteps
  obtain ⟨result, later, hentry, hgiven⟩ := hgives 2 "symbol" ⟨.ok 2, 40⟩ rfl
  have hlate : ¬ (40 = 0 ∨ 20 + 40 ≤ 50) := by decide
  exact ⟨⟨result, later, hentry, hgiven.late 50 rfl hlate⟩,
    hlater 2 4 (by decide) 50 rfl rfl "symbol" ⟨.ok 2, 40⟩ rfl hlate "balanceOf" ⟨.ok 3, 1⟩ rfl,
    hlater 2 5 (by decide) 50 rfl rfl "symbol" ⟨.ok 2, 40⟩ rfl hlate "symbol" ⟨.ok 4, 0⟩ rfl,
    hrow 50 _ rfl⟩

end LiquidityTrigger.Timeline
