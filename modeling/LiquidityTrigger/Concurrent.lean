import LiquidityTrigger.Session

/-!
# Evaluations at the same time

A group of evaluations is under way on one clock. Each of them waits or can go on, and of those that
can, any one may make its next request: `Group.Step` leaves the order open. What a request gives
depends on the time that the clock shows then. The clock moves only while all evaluations that have
not ended wait, and never past the time from which one of them can go on.

A session does not take these steps. It runs every member of a group alone and takes the latest end
for the end of the group; the relation is what that has to agree with, whatever the order.
-/

namespace LiquidityTrigger

/-- An evaluation under way: what is left of it, and the time from which it can go on. -/
structure Task where
  context : Context
  rest : Procedure Outcome
  readyAt : Nat

/-- Several evaluations on one clock. The trace says in order which of them, by its place, asked for
what. -/
structure Group where
  now : Nat
  tasks : List Task
  trace : List (Nat × Act)

namespace Group

def start (s : Session) (evaluations : List Evaluation) : Group where
  now := s.now
  tasks := evaluations.map fun e => ⟨s.context e.context, e.procedure s.config, s.now⟩
  trace := []

def traceOf (g : Group) (place : Nat) : List Act :=
  g.trace.filterMap fun (asker, act) => if asker = place then some act else none

def IsOver (g : Group) : Prop := ∀ t ∈ g.tasks, t.rest.result?.isSome ∧ t.readyAt ≤ g.now

inductive Step (provider : Provider) (executor : Reply Unit) : Group → Group → Prop where
  /-- An evaluation that can go on makes its next request. -/
  | request {g : Group} {place : Nat} {t : Task} {rest : Procedure Outcome} {w : World}
      (htask : g.tasks[place]? = some t) (hready : t.readyAt ≤ g.now)
      (hstep : t.rest.step (scripted provider executor t.context) ⟨g.now, []⟩ = some (rest, w)) :
      Step provider executor g
        { g with
          tasks := g.tasks.set place ⟨t.context, rest, w.now⟩
          trace := g.trace ++ w.trace.map fun act => (place, act) }
  /-- The clock moves on while every evaluation waits or has ended, for one that waits. -/
  | wait {g : Group} {later : Nat} (hlater : g.now < later)
      (hothers : ∀ t ∈ g.tasks, later ≤ t.readyAt ∨ (t.rest.result?.isSome ∧ t.readyAt ≤ g.now))
      (hone : ∃ t ∈ g.tasks, later ≤ t.readyAt) :
      Step provider executor g { g with now := later }

inductive Run (provider : Provider) (executor : Reply Unit) : Group → Group → Prop where
  | refl (g : Group) : Run provider executor g g
  | step {g h k : Group} (hfirst : Step provider executor g h)
      (hrest : Run provider executor h k) : Run provider executor g k

end Group

end LiquidityTrigger
