import LiquidityTrigger.Context

/-!
# Waiting in time

A wait ends in time when its answer is there at once or comes no later than the deadline. That is the
only thing a deadline decides: in time the wait gives the answer as it is, otherwise a timeout.
-/

namespace LiquidityTrigger.Context

variable {α : Type} {ctx : Context} {operation : String} {reply : Reply α} {now : Nat}

def InTime (ctx : Context) (delay now : Nat) : Prop :=
  delay = 0 ∨ ∀ deadline, ctx.deadline = some deadline → now + delay ≤ deadline

theorem wait_of_inTime (h : ctx.InTime reply.delay now) :
    ctx.wait operation reply now = (reply.result, now + reply.delay) := by
  rw [wait]
  rcases h with hzero | hbound
  · rw [if_pos hzero, hzero, Nat.add_zero]
  · by_cases hzero : reply.delay = 0
    · rw [if_pos hzero, hzero, Nat.add_zero]
    · rw [if_neg hzero]
      cases hdeadline : ctx.deadline with
      | none => rfl
      | some deadline => exact if_pos (hbound deadline hdeadline)

theorem wait_of_not_inTime (operation : String) (h : ¬ ctx.InTime reply.delay now) :
    ∃ deadline, ctx.deadline = some deadline ∧ deadline < now + reply.delay ∧
      ctx.wait operation reply now = (.error (timeoutFault operation), max deadline now) := by
  simp only [InTime, not_or, Classical.not_forall, Nat.not_le] at h
  obtain ⟨hzero, deadline, hdeadline, hlate⟩ := h
  refine ⟨deadline, hdeadline, hlate, ?_⟩
  rw [wait, if_neg hzero, hdeadline]
  exact if_neg (Nat.not_le.mpr hlate)

theorem wait_eq_ok_iff {a : α} :
    (ctx.wait operation reply now).1 = .ok a ↔
      reply.result = .ok a ∧ ctx.InTime reply.delay now := by
  by_cases h : ctx.InTime reply.delay now
  · simp only [wait_of_inTime h, h, and_true]
  · obtain ⟨deadline, _, _, hwait⟩ := wait_of_not_inTime operation h
    simp only [hwait, h, and_false, reduceCtorEq]

/-! ### The end of a wait -/

theorem le_wait_end (ctx : Context) (operation : String) (reply : Reply α) (now : Nat) :
    now ≤ (ctx.wait operation reply now).2 := by
  by_cases h : ctx.InTime reply.delay now
  · rw [wait_of_inTime h]
    exact Nat.le_add_right now reply.delay
  · obtain ⟨deadline, _, _, hwait⟩ := wait_of_not_inTime operation h
    rw [hwait]
    exact Nat.le_max_right deadline now

theorem wait_end_le {deadline : Nat} (hdeadline : ctx.deadline = some deadline) :
    (ctx.wait operation reply now).2 ≤ max now deadline := by
  by_cases h : ctx.InTime reply.delay now
  · rw [wait_of_inTime h]
    rcases h with hzero | hbound
    · have hend : now + reply.delay = now := by rw [hzero, Nat.add_zero]
      rw [hend]
      exact Nat.le_max_left now deadline
    · exact Nat.le_trans (hbound deadline hdeadline) (Nat.le_max_right now deadline)
  · obtain ⟨other, hother, _, hwait⟩ := wait_of_not_inTime operation h
    obtain rfl : deadline = other := Option.some.inj (hdeadline.symm.trans hother)
    rw [hwait]
    exact Nat.le_of_eq (Nat.max_comm deadline now)

theorem not_inTime_iff {delay : Nat} :
    ¬ ctx.InTime delay now ↔
      0 < delay ∧ ∃ deadline, ctx.deadline = some deadline ∧ deadline < now + delay := by
  simp only [InTime, not_or, Nat.pos_iff_ne_zero, Classical.not_forall, Nat.not_le, exists_prop]

theorem not_inTime_withDeadline_iff {deadline delay : Nat} :
    ¬ (withDeadline deadline).InTime delay now ↔ 0 < delay ∧ deadline < now + delay := by
  rw [not_inTime_iff]
  simp only [withDeadline, Option.some.injEq, exists_eq_left']

theorem inTime_iff_of_deadline {deadline delay : Nat} (hdeadline : ctx.deadline = some deadline) :
    ctx.InTime delay now ↔ delay = 0 ∨ now + delay ≤ deadline := by
  simp only [InTime, hdeadline, Option.some.injEq, forall_eq']

theorem InTime.relax {relaxed : Context} {delay : Nat} (h : ctx.InTime delay now)
    (hrelaxed : ∀ later, relaxed.deadline = some later →
      ∃ deadline, ctx.deadline = some deadline ∧ deadline ≤ later) :
    relaxed.InTime delay now := by
  rcases h with hzero | hbound
  · exact .inl hzero
  · refine .inr fun later hlater => ?_
    obtain ⟨deadline, hdeadline, hle⟩ := hrelaxed later hlater
    exact Nat.le_trans (hbound deadline hdeadline) hle

/-! ### Moving the clock -/

/-- The context as it is on a clock that shows zero at the start: what is left of the time, nothing if
the deadline has passed. -/
def remaining (ctx : Context) (start : Nat) : Context :=
  ⟨ctx.deadline.map fun deadline => deadline - start⟩

/-- A wait with what is left of the time is the same wait, on a clock that started later. -/
theorem wait_remaining (ctx : Context) (operation : String) (reply : Reply α) (start now : Nat) :
    ctx.wait operation reply (start + now) =
      (((ctx.remaining start).wait operation reply now).1,
        start + ((ctx.remaining start).wait operation reply now).2) := by
  simp only [wait, remaining]
  by_cases hzero : reply.delay = 0
  · simp only [if_pos hzero]
  · simp only [if_neg hzero]
    cases ctx.deadline with
    | none => simp only [Option.map_none, Nat.add_assoc]
    | some deadline =>
        simp only [Option.map_some]
        -- A delay that is not zero is late under a deadline in the past, on both clocks.
        by_cases hbound : start + now + reply.delay ≤ deadline
        · rw [if_pos hbound, if_pos (by omega), Nat.add_assoc]
        · rw [if_neg hbound, if_neg (by omega), Prod.mk.injEq]
          exact ⟨rfl, by omega⟩

end LiquidityTrigger.Context
