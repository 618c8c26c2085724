import LiquidityTrigger.Fault

/-!
# Deadlines

A context carries an optional deadline, an absolute time in milliseconds. A wait under a context
succeeds if its answer is there at once, even when the deadline has passed, or comes no later than
the deadline; else it ends in a timeout at the deadline, or at once when that has passed.

`Timeline` runs steps on one clock with one current context.
-/

namespace LiquidityTrigger

structure Context where
  deadline : Option Nat
  deriving DecidableEq, Repr

/-- An answer, and how long after its request it comes. -/
structure Reply (α : Type) where
  result : Except Fault α
  delay : Nat

namespace Context

def background : Context := ⟨none⟩

/-- The sum is taken to be a time that a clock can show, below `2 ^ 63` seconds. -/
def withTimeout (now timeout : Nat) : Context := ⟨some (now + timeout)⟩

def withDeadline (deadline : Nat) : Context := ⟨some deadline⟩

def timeoutFault (operation : String) : Fault := .timeout (operation ++ " excedeu o prazo")

/-- Waits for an answer from a time on. Gives what came of it and the time when the wait ended. -/
def wait {α : Type} (ctx : Context) (operation : String) (reply : Reply α) (now : Nat) :
    Except Fault α × Nat :=
  if reply.delay = 0 then (reply.result, now)
  else
    match ctx.deadline with
    | none => (reply.result, now + reply.delay)
    | some deadline =>
        if now + reply.delay ≤ deadline then (reply.result, now + reply.delay)
        else (.error (timeoutFault operation), max deadline now)

end Context

structure Timeline where
  now : Nat
  context : Context
  deriving DecidableEq, Repr

namespace Timeline

def start : Timeline := ⟨0, .background⟩

inductive Step (α : Type) where
  | background
  | timeout (ms : Nat)
  | deadline (ms : Nat)
  | sleep (ms : Nat)
  | wait (operation : String) (reply : Reply α)

/-- What a step gives: the new context's deadline, the time, or what came of a wait. -/
inductive Answer (α : Type) where
  | deadline (deadline : Option Nat)
  | slept
  | waited (result : Except Fault α)

def step {α : Type} (t : Timeline) : Step α → Answer α × Timeline
  | .background => (.deadline none, { t with context := .background })
  | .timeout ms =>
      let context := Context.withTimeout t.now ms
      (.deadline context.deadline, { t with context := context })
  | .deadline ms => (.deadline (some ms), { t with context := .withDeadline ms })
  | .sleep ms => (.slept, { t with now := t.now + ms })
  | .wait operation reply =>
      let (result, now) := t.context.wait operation reply t.now
      (.waited result, { t with now := now })

def run {α : Type} : Timeline → List (Step α) → List (Answer α × Timeline)
  | _, [] => []
  | t, s :: rest => t.step s :: (t.step s).2.run rest

end Timeline

end LiquidityTrigger
