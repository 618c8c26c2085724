import LiquidityTrigger.Event

/-!
# Procedures and the services they use

A procedure is a finite tree of requests to services: asking the node for its network, reading a
contract, making a purchase and logging. What a service answers selects the branch. The tree says
nothing about time or about who answers, so the same procedure runs against scripted answers on a
virtual clock and against a client of a node: `Procedure.run` takes the services as a record of
functions on a state, and `Procedure.step` is one request of such a run.
-/

namespace LiquidityTrigger

structure Call where
  target : Address
  data : Bytes
  deriving DecidableEq, Repr

inductive Procedure (α : Type) where
  | done (a : α)
  | fail (fault : Fault)
  | networkId (next : Except Fault UInt64 → Procedure α)
  /-- Reads a contract within the evaluation's time; the operation names the read in a timeout. -/
  | read (operation : String) (call : Call) (next : Except Fault Bytes → Procedure α)
  | buy (gasPrice : Word) (next : Except Fault Unit → Procedure α)
  | log (event : Event) (next : Procedure α)

namespace Procedure

variable {α β σ : Type}

def bind (p : Procedure α) (f : α → Procedure β) : Procedure β :=
  match p with
  | done a => f a
  | fail fault => fail fault
  | networkId next => networkId fun answer => (next answer).bind f
  | read operation call next => read operation call fun answer => (next answer).bind f
  | buy gasPrice next => buy gasPrice fun answer => (next answer).bind f
  | log event next => log event (next.bind f)

instance : Monad Procedure where
  pure := done
  bind := bind

def ofExcept : Except Fault α → Procedure α
  | .ok a => done a
  | .error fault => fail fault

def askNetworkId : Procedure UInt64 := networkId ofExcept

/-- Reads a contract and gives whatever comes of it. -/
def tryRead (operation : String) (call : Call) : Procedure (Except Fault Bytes) :=
  read operation call done

def tryBuy (gasPrice : Word) : Procedure (Except Fault Unit) := buy gasPrice done

def emit (event : Event) : Procedure Unit := log event (done ())

@[simp] theorem pure_bind (a : α) (f : α → Procedure β) : (done a).bind f = f a := rfl

@[simp] theorem fail_bind (fault : Fault) (f : α → Procedure β) :
    (fail fault).bind f = fail fault := rfl

end Procedure

/-- Those who answer the requests of a procedure, with a state. -/
structure Services (σ : Type) where
  networkId : σ → Except Fault UInt64 × σ
  read : String → Call → σ → Except Fault Bytes × σ
  buy : Word → σ → Except Fault Unit × σ
  log : Event → σ → σ

def Procedure.run {α σ : Type} (services : Services σ) : Procedure α → σ → Except Fault α × σ
  | .done a, s => (.ok a, s)
  | .fail fault, s => (.error fault, s)
  | .networkId next, s =>
      let (answer, s) := services.networkId s
      (next answer).run services s
  | .read operation call next, s =>
      let (answer, s) := services.read operation call s
      (next answer).run services s
  | .buy gasPrice next, s =>
      let (answer, s) := services.buy gasPrice s
      (next answer).run services s
  | .log event next, s => next.run services (services.log event s)

/-- Makes the first request of a procedure against services and goes on with the answer. A procedure
that has ended makes none. -/
def Procedure.step {α σ : Type} (services : Services σ) :
    Procedure α → σ → Option (Procedure α × σ)
  | .done _, _ => none
  | .fail _, _ => none
  | .networkId next, s =>
      let (answer, s) := services.networkId s
      some (next answer, s)
  | .read operation call next, s =>
      let (answer, s) := services.read operation call s
      some (next answer, s)
  | .buy gasPrice next, s =>
      let (answer, s) := services.buy gasPrice s
      some (next answer, s)
  | .log event next, s => some (next, services.log event s)

def Procedure.result? {α : Type} : Procedure α → Option (Except Fault α)
  | .done a => some (.ok a)
  | .fail fault => some (.error fault)
  | _ => none

end LiquidityTrigger
