import LiquidityTrigger.Node.Client

/-!
# Working through a connection

The clients of a connection answer the requests of procedures: each request goes to the client whose
turn it is, reads wait under the context's deadline as well as under the client's own timeout, and a
purchase always succeeds. On a tie the client's timeout comes first.
-/

namespace LiquidityTrigger.Node

open Json (Value)

structure Session where
  connection : Connection
  world : World
  purchases : List Purchase

namespace Session

/-- Hands the next turn to a client: what it gives, with the client and the world as it leaves them.
A connection without clients gives nothing. -/
def withClient {α : Type} (s : Session)
    (use : Client → World → Reply α × Client × World) : Reply α × Session :=
  let c := s.connection
  let index := c.turn.toNat % c.clients.length
  match c.clients[index]? with
  | none => (⟨.error unexpectedCall, 0⟩, s)
  | some client =>
      let (reply, client, world) := use client s.world
      (reply,
        { s with
          connection := { c with clients := c.clients.set index client, turn := c.turn + 1 }
          world := world })

def atTime (s : Session) (now : Nat) : Session := { s with world := { s.world with now := now } }

def networkId (s : Session) : Except Fault UInt64 × Session :=
  let (reply, s) := s.withClient Client.networkText
  (reply.result.bind networkIdOf, s.atTime (s.world.now + reply.delay))

def call (s : Session) (call : Call) : Except Fault Bytes × Session :=
  let (reply, s) := s.withClient fun client w => client.call call w
  (reply.result, s.atTime (s.world.now + reply.delay))

def read (ctx : Context) (operation : String) (call : Call) (s : Session) :
    Except Fault Bytes × Session :=
  let (reply, s) := s.withClient fun client w => client.call call w
  let (result, now) := ctx.wait operation reply s.world.now
  (result, s.atTime now)

def services (ctx : Context) : Services Session where
  networkId := networkId
  read := read ctx
  buy := fun gasPrice s =>
    (.ok (), { s with purchases := s.purchases ++ [⟨gasPrice, ctx.deadline⟩] })
  log := fun _ s => s

inductive Step where
  | call (call : Call)
  | networkId
  | size
  | balanceOf (token account : Address) (timeout : Option Nat)
  | symbol (token : Address)
  | process (settings : LiquidityTrigger.Settings) (tx : Except Fault Transaction)
      (timeout : Option Nat)

structure Processed where
  outcome : Outcome
  chainId : UInt64
  purchases : List Purchase

inductive Given where
  | bytes (bytes : Bytes)
  | networkId (id : UInt64)
  | size (size : Option Nat)
  | amount (amount : Word)
  | text (text : String)
  | processed (processed : Processed)

/-- The context of a step: a timeout counts from its start. -/
def contextOf (s : Session) (timeout : Option Nat) : Context :=
  timeout.elim Context.background (Context.withTimeout s.world.now)

def connectAndProcess (settings : LiquidityTrigger.Settings) (tx : Except Fault Transaction) :
    Procedure (Outcome × UInt64) := do
  let tx ← Procedure.ofExcept tx
  let config ← connect settings
  let outcome ← process config tx
  return (outcome, config.chainId)

def step (s : Session) : Step → Except Fault Given × Session
  | .call call =>
      let (result, s) := s.call call
      (result.map .bytes, s)
  | .networkId =>
      let (result, s) := s.networkId
      (result.map .networkId, s)
  | .size => (.ok (.size s.connection.size), s)
  | .balanceOf token account timeout =>
      let (result, s) := (Token.balanceOf token account).run (services (s.contextOf timeout)) s
      (result.map .amount, s)
  | .symbol token =>
      let (result, s) := (Token.symbol token).run (services .background) s
      (result.map .text, s)
  | .process settings tx timeout =>
      let (result, s) :=
        (connectAndProcess settings tx).run (services (s.contextOf timeout))
          { s with purchases := [] }
      (result.map fun (outcome, chainId) => .processed ⟨outcome, chainId, s.purchases⟩, s)

end Session

/-- What an entry of an answer shows: a result or a fault, the requests that the node received and
the time at the end. -/
structure Entry where
  result : Except Fault (Option Session.Given)
  received : List Request
  now : Nat

/-- Takes steps in turn, each with an empty list of requests. -/
def Session.run : Session → List Session.Step → List Entry
  | _, [] => []
  | s, step :: rest =>
      let (result, s) := { s with world := { s.world with received := [] } }.step step
      ⟨result.map some, s.world.received, s.world.now⟩ :: s.run rest

inductive Opening where
  | pool
  | single (way : Way)
  deriving DecidableEq, Repr

def Opening.make (opening : Opening) (settings : Settings) (w : World) :
    Except Fault Connection × World :=
  match opening with
  | .pool => makePool settings w
  | .single way => makeSingle settings way w

/-- Makes a connection and takes steps through it; when it cannot be made, none is taken. -/
def runSession (opening : Opening) (settings : Settings) (network : Network) (script : Script)
    (steps : List Session.Step) : List Entry :=
  match opening.make settings ⟨0, network, script, []⟩ with
  | (.error fault, w) => [⟨.error fault, w.received, w.now⟩]
  | (.ok connection, w) =>
      ⟨.ok none, w.received, w.now⟩ :: (Session.mk connection w []).run steps

end LiquidityTrigger.Node
