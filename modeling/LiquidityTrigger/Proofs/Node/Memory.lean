import LiquidityTrigger.Proofs.Node.Response
import LiquidityTrigger.Proofs.Node.Rotation

/-!
# A provider in memory

What a procedure can learn from a node, without the node: a provider that holds an answer to the question
for the network and one to each read. `Memory.ofAnswers` takes the answers from a node's script. A result in
hexadecimal is its bytes; of every other answer it is left to the client that sends the read what a plain
operation gives, and such an operation gives what the client hears.
-/

namespace LiquidityTrigger.Node

/-- What a provider says about the network, and its answers to reads by the number of reads before. -/
structure Memory where
  networkId : Reply UInt64
  call : Nat → Call → Reply Bytes

/-- The services of a provider in memory and of an executor with one answer. -/
def Memory.services (m : Memory) (executor : Reply Unit) (ctx : Context) :
    Services LiquidityTrigger.World where
  networkId := fun w =>
    (m.networkId.result, { w.record .askedNetworkId with now := w.now + m.networkId.delay })
  read := fun operation call w =>
    let (answer, now) := ctx.wait operation (m.call (callsIn w.trace).length call) w.now
    (answer, { w.record (.called call) with now := now })
  buy := fun gasPrice w =>
    (executor.result,
      { w.record (.purchased ⟨gasPrice, ctx.deadline⟩) with now := w.now + executor.delay })
  log := fun event w => w.record (.logged event)

/-- The services of a session, with purchases that an executor answers. -/
def Session.servicesWith (executor : Reply Unit) (ctx : Context) : Services Session :=
  { services ctx with
    buy := fun gasPrice s =>
      (executor.result,
        { s with
          purchases := s.purchases ++ [⟨gasPrice, ctx.deadline⟩]
          world := { s.world with now := s.world.now + executor.delay } }) }

theorem Session.servicesWith_succeeding (ctx : Context) :
    servicesWith ⟨.ok (), 0⟩ ctx = services ctx := rfl

/-! ### Plain operations -/

namespace Client

def plainNetworkId (c : Client) (answer : Answer) : Reply UInt64 :=
  let (reply, _, _) := c.networkText ⟨0, .reachable, [(networkMethod, [answer])], []⟩
  ⟨reply.result.bind networkIdOf, reply.delay⟩

def plainCall (c : Client) (call : Call) (answer : Answer) : Reply Bytes :=
  (c.call call ⟨0, .reachable, [(callMethod, [answer])], []⟩).1

def after (c : Client) (count : Nat) : Client := { c with nextId := c.nextId + UInt64.ofNat count }

variable {c : Client} {answer : Answer}

theorem request_alone {α : Type} (hlive : c.Live) (hdrop : answer ≠ .drop) (method : String)
    (params : Json.Value) (decode : Json.Value → Except ResponseFault α) :
    (c.request method params decode ⟨0, .reachable, [(method, [answer])], []⟩).1 =
      c.hears method decode answer := by
  have htake : (Script.take method [(method, [answer])]).1 = answer := by
    rw [Script.take_cons_self]
    rfl
  rw [request_of_live hlive rfl (htake.symm ▸ hdrop), ← Script.fst_take, htake]

theorem plainNetworkId_eq (hlive : c.Live) (hdrop : answer ≠ .drop) :
    c.plainNetworkId answer =
      let reply := c.hears networkMethod textResult answer
      ⟨reply.result.bind networkIdOf, reply.delay⟩ := by
  rw [← request_alone hlive hdrop networkMethod (.array []) textResult]
  rfl

theorem plainCall_eq (hlive : c.Live) (hdrop : answer ≠ .drop) (call : Call) :
    c.plainCall call answer = c.hears callMethod bytesResult answer :=
  request_alone hlive hdrop callMethod (callParams call) bytesResult

end Client

/-! ### The provider of a script -/

/-- The provider with the answers that a script holds, by the client that sends each request. So many
requests are sent before the first read. -/
def Memory.ofAnswers (sender : Nat → Client) (script : Script) (asked : Nat) : Memory where
  networkId := (sender 0).plainNetworkId (script.reply networkMethod 0)
  call := fun place call =>
    let answer := script.reply callMethod place
    match answer.bytes? with
    | some bytes => ⟨.ok bytes, 0⟩
    | none => (sender (asked + place)).plainCall call answer

theorem Script.KeepsConnection.reply_ne_drop {script : Script} (h : script.KeepsConnection)
    (method : String) (place : Nat) : script.reply method place ≠ .drop := by
  induction place generalizing script with
  | zero =>
      rw [← fst_take]
      exact h.take.1
  | succ place ih =>
      rw [← reply_snd_take]
      exact ih h.take.2

def Rotation.sender (r : Rotation) (sent : Nat) : Client := r.client sent (r.turn sent)

namespace Memory

variable {r : Rotation} {script : Script}

theorem networkId_ofAnswers (hpatient : r.timeout ≠ 0) (hkeeps : script.KeepsConnection)
    (asked : Nat) :
    (ofAnswers r.sender script asked).networkId =
      r.hearsNetwork 0 (script.reply networkMethod 0) :=
  Client.plainNetworkId_eq (Rotation.client_live hpatient _ _) (hkeeps.reply_ne_drop _ _)

theorem call_ofAnswers (hpatient : r.timeout ≠ 0) (hkeeps : script.KeepsConnection) (asked place : Nat)
    (call : Call) :
    (ofAnswers r.sender script asked).call place call =
      r.hearsCall (asked + place) (script.reply callMethod place) := by
  simp only [ofAnswers, Rotation.hearsCall, Rotation.hears]
  cases hbytes : (script.reply callMethod place).bytes? with
  | none => exact Client.plainCall_eq (Rotation.client_live hpatient _ _) (hkeeps.reply_ne_drop _ _) call
  | some bytes => exact (Client.hears_of_bytes? hbytes).symm

end Memory

end LiquidityTrigger.Node
