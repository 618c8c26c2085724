import LiquidityTrigger.Context
import LiquidityTrigger.Evaluation

/-!
# Scripted services

A provider that answers every call from the call alone, by the contract that is asked and by what it
is asked, an executor with one answer, and a clock that moves only while something is waited for. An
evaluation makes no call twice, so answers that also depend on the calls before would tell it nothing new.
A run leaves a trace of all that was asked of the services, in order. Reads are bounded by the context;
the purchase and the question for the network are not.
-/

namespace LiquidityTrigger

structure Provider where
  balance : Reply Bytes
  symbol : Reply Bytes
  /-- Accounts whose balance has an answer of its own. -/
  balances : List (Address × Reply Bytes)
  networkId : Except Fault UInt64
  /-- Calls that have an answer of their own, before all others. With enough of them any function of
  the call is a provider. -/
  own : Call → Option (Reply Bytes) := fun _ => none

def unexpectedCall : Fault := .node "unexpected call"

/-- The answer to a call that has none of its own, whichever contract is asked. A balance is asked for
by its selector and one word, a symbol by its selector alone. -/
def Provider.usual (p : Provider) (call : Call) : Reply Bytes :=
  if call.data.length = 36 ∧ call.data.take 4 = Token.balanceOfSelector then
    let account := Address.ofBytes (call.data.drop 16)
    (p.balances.lookup account).getD p.balance
  else if call.data = Token.symbolSelector then p.symbol
  else ⟨.error unexpectedCall, 0⟩

def Provider.answer (p : Provider) (call : Call) : Reply Bytes := (p.own call).getD (p.usual call)

structure Purchase where
  gasPrice : Word
  deadline : Option Nat
  deriving DecidableEq, Repr

inductive Act where
  | askedNetworkId
  | called (call : Call)
  | purchased (purchase : Purchase)
  | logged (event : Event)
  deriving DecidableEq, Repr

def callsIn (trace : List Act) : List Call :=
  trace.filterMap fun
    | .called call => some call
    | _ => none

def purchasesIn (trace : List Act) : List Purchase :=
  trace.filterMap fun
    | .purchased purchase => some purchase
    | _ => none

def eventsIn (trace : List Act) : List Event :=
  trace.filterMap fun
    | .logged event => some event
    | _ => none

def networkQuestionsIn (trace : List Act) : Nat := trace.count .askedNetworkId

structure World where
  now : Nat
  trace : List Act
  deriving DecidableEq, Repr

def World.record (w : World) (act : Act) : World := { w with trace := w.trace ++ [act] }

def scripted (provider : Provider) (executor : Reply Unit) (ctx : Context) : Services World where
  networkId := fun w => (provider.networkId, w.record .askedNetworkId)
  read := fun operation call w =>
    let (answer, now) := ctx.wait operation (provider.answer call) w.now
    (answer, { w.record (.called call) with now := now })
  buy := fun gasPrice w =>
    (executor.result,
      { w.record (.purchased ⟨gasPrice, ctx.deadline⟩) with now := w.now + executor.delay })
  log := fun event w => w.record (.logged event)

/-- What a run leaves: its result, the time when it ended and its trace. -/
structure Record (α : Type) where
  result : Except Fault α
  finish : Nat
  trace : List Act

/-- Runs a procedure alone against scripted services from a time on. -/
def Procedure.play {α : Type} (p : Procedure α) (provider : Provider) (executor : Reply Unit)
    (ctx : Context) (start : Nat) : Record α :=
  let (result, w) := p.run (scripted provider executor ctx) ⟨start, []⟩
  ⟨result, w.now, w.trace⟩

end LiquidityTrigger
