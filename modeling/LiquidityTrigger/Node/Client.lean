import LiquidityTrigger.Node.Url
import LiquidityTrigger.Node.Wire
import LiquidityTrigger.Scripted
import LiquidityTrigger.Text.Numeral

/-!
# Clients of a node

A client sends requests over one of two transports and waits for each answer no longer than its own
timeout. Over HTTP every request has an answer of its own; a WebSocket is one connection, whose
messages are matched by identifier and which is gone once it is dropped. A client asks for the network
when it is made. A pool makes its clients one after another and uses them in turn.

The node is a script: for each method a list of replies, of which every request takes one and the
last one is repeated. A reply is there at once or never comes, so what a request gives is a `Reply`
whose delay is zero or the client's timeout.
-/

namespace LiquidityTrigger.Node

open Json (Value)

/-! ### The node -/

inductive Answer where
  | result (value : Value)
  | error (value : Value)
  /-- A body as it stands, with `$ID` for the identifier of the request; `ignored` is for a message
  that the client takes no notice of. -/
  | body (text : String) (status : Nat) (ignored : Bool)
  | silence
  | drop

abbrev Script := List (String × List Answer)

/-- The next answer to a method, and the script behind it. The last answer stays. -/
def Script.take (method : String) : Script → Answer × Script
  | [] => (.result .null, [])
  | (name, answers) :: rest =>
      if name = method then
        match answers with
        | [] => (.result .null, (name, []) :: rest)
        | [answer] => (answer, (name, [answer]) :: rest)
        | answer :: more => (answer, (name, more) :: rest)
      else
        let (answer, rest) := Script.take method rest
        (answer, (name, answers) :: rest)

def replaceId (id : List Char) : Nat → List Char → List Char
  | _, [] => []
  | skip + 1, _ :: cs => replaceId id skip cs
  | 0, c :: cs =>
      if c = '$' ∧ cs.take 2 = ['I', 'D'] then id ++ replaceId id 2 cs else c :: replaceId id 0 cs

def responseText (id : UInt64) (name : String) (v : Value) : String :=
  (Value.object [("jsonrpc", .text "2.0"), ("id", .counter id), (name, v)]).compact

def Answer.body? (id : UInt64) : Answer → Option (String × Nat)
  | .result v => some (responseText id "result" v, 200)
  | .error v => some (responseText id "error" v, 200)
  | .body text status _ =>
      some (String.ofList (replaceId (Decimal.digits id.toNat) 0 text.toList), status)
  | .silence => none
  | .drop => none

def Answer.isIgnored : Answer → Bool
  | .body _ _ ignored => ignored
  | _ => false

inductive Network where
  /-- To a node with a script. -/
  | reachable
  /-- To a host where nothing listens. -/
  | refused
  | unreachable
  deriving DecidableEq, Repr

/-- The clock, the network, the node's answers and the requests that reached it. -/
structure World where
  now : Nat
  network : Network
  script : Script
  received : List Request

/-! ### One client -/

inductive Transport where
  | http
  | webSocket
  deriving DecidableEq, Repr

def Transport.name : Transport → String
  | .http => "HTTP"
  | .webSocket => "WebSocket"

def Transport.firstId : Transport → UInt64
  | .http => 0
  | .webSocket => 1

structure Settings where
  endpoint : String
  /-- The longest wait for one answer, in milliseconds. -/
  timeout : Nat
  poolSize : Nat
  deriving DecidableEq, Repr

def Settings.usual : Settings := ⟨"http://localhost:8545", 5000, 4⟩

structure Client where
  index : Nat
  transport : Transport
  timeout : Nat
  nextId : UInt64
  /-- Whether requests can be sent: over HTTP to any node of that scheme, over a WebSocket until it is
  dropped. -/
  connected : Bool
  deriving DecidableEq, Repr

def timeoutFault (method : String) (timeout : Nat) : Fault :=
  .timeout (method ++ " excedeu " ++ Duration.text timeout)

def responseFault (method : String) (fault : ResponseFault) : Fault :=
  .node ("Falha em " ++ method ++ ": " ++ fault.text)

def noContent : Nat := 204

/-- What an answer gives to a request: a result or a fault at once, or nothing. -/
def Transport.read (t : Transport) (id : UInt64) (answer : Answer) :
    Option (Except ResponseFault Value) :=
  if answer.isIgnored then none
  else
    match t, answer, answer.body? id with
    | .http, .drop, _ => some (.error .notSent)
    | .webSocket, .drop, _ => some (.error .disconnected)
    | _, _, none => none
    | .http, _, some (body, status) =>
        if status = noContent then some (readBody "")
        else if 200 ≤ status ∧ status < 300 then some (readBody body)
        else some (.error (.status status))
    | .webSocket, _, some (body, _) => readMessage id body

def Transport.endsWith (t : Transport) (answer : Answer) : Bool :=
  match t, answer with
  | .webSocket, .drop => true
  | _, _ => false

/-- Sends a request and says what comes of it and when. The identifier is used up even if nothing is
sent. With a timeout of zero a request that could be sent is given up before. -/
def Client.request {α : Type} (c : Client) (method : String) (params : Value)
    (decode : Value → Except ResponseFault α) (w : World) : Reply α × Client × World :=
  let spent := { c with nextId := c.nextId + 1 }
  if !c.connected || w.network ≠ .reachable then
    let fault : ResponseFault :=
      match c.transport with
      | .http => .notSent
      | .webSocket => .disconnected
    (⟨.error (responseFault method fault), 0⟩, spent, w)
  else if c.timeout = 0 then (⟨.error (timeoutFault method 0), 0⟩, spent, w)
  else
    let (answer, script) := w.script.take method
    let request : Request := ⟨c.index, c.nextId, method, params⟩
    let w := { w with script := script, received := w.received ++ [request] }
    let spent := { spent with connected := !c.transport.endsWith answer }
    match c.transport.read c.nextId answer with
    | none => (⟨.error (timeoutFault method c.timeout), c.timeout⟩, spent, w)
    | some given =>
        (⟨(given.bind decode).mapError (responseFault method), 0⟩, spent, w)

def Client.networkText (c : Client) (w : World) : Reply String × Client × World :=
  c.request networkMethod (.array []) textResult w

def Client.call (c : Client) (call : Call) (w : World) : Reply Bytes × Client × World :=
  c.request callMethod (callParams call) bytesResult w

/-! ### Identifiers of networks -/

inductive IdFault where
  | empty
  | invalidDigit
  | tooLarge
  deriving DecidableEq, Repr

def IdFault.text : IdFault → String
  | .empty => "cannot parse integer from empty string"
  | .invalidDigit => "invalid digit found in string"
  | .tooLarge => "number too large to fit in target type"

/-- A text less one leading plus sign, if digits or anything else follows it. -/
def dropPlus : List Char → List Char
  | '+' :: c :: cs => c :: cs
  | cs => cs

/-- The identifier that a text denotes: digits, behind a plus sign or not, below `2 ^ 64`, with
white space around them. A wrong character before the number gets too large is noticed first. -/
def parseNetworkId (text : String) : Except IdFault UInt64 :=
  let trimmed := Blank.trim text.toList
  if trimmed.isEmpty then .error .empty
  else
    let rec read : Nat → List Char → Except IdFault UInt64
      | n, [] => .ok (UInt64.ofNat n)
      | n, c :: cs =>
          if !Decimal.isDigit c then .error .invalidDigit
          else if 2 ^ 64 ≤ n * 10 + Decimal.digitValue c then .error .tooLarge
          else read (n * 10 + Decimal.digitValue c) cs
    read 0 (dropPlus trimmed)

def networkIdOf (text : String) : Except Fault UInt64 :=
  (parseNetworkId text).mapError fun fault =>
    .node ("net_version inválido '" ++ text ++ "': " ++ fault.text)

/-! ### Making clients -/

inductive Way where
  | http
  | webSocket
  /-- A WebSocket if the endpoint's text starts with `ws`, HTTP otherwise. -/
  | byEndpoint
  deriving DecidableEq, Repr

def Way.transport (way : Way) (endpoint : String) : Transport :=
  match way with
  | .http => .http
  | .webSocket => .webSocket
  | .byEndpoint => if endpoint.toList.take 2 = ['w', 's'] then .webSocket else .http

def connectFault (t : Transport) (detail : String) : Fault :=
  .node ("Falha ao conectar via " ++ t.name ++ ": " ++ detail)

def needsLookUp : Host → Bool
  | .address => false
  | .name text => text ≠ "localhost"

/-- Opens a transport to an endpoint. HTTP connects with each request only, and requests to other
schemes are not sent. -/
def Transport.openTo (t : Transport) (endpoint : String) (network : Network) :
    Except Fault Bool := do
  let url ← (Url.parse endpoint).mapError fun fault =>
    connectFault t ("failed to parse url: " ++ fault.text)
  match t with
  | .http => return url.scheme = "http" || url.scheme = "https"
  | .webSocket =>
      if url.scheme ≠ "ws" ∧ url.scheme ≠ "wss" then
        throw (connectFault t ("Wrong scheme: " ++ url.scheme))
      match network with
      | .reachable => return true
      | .refused => throw (connectFault t "IO error: Connection refused (os error 111)")
      | .unreachable =>
          if url.host.any needsLookUp then
            throw (connectFault t ("IO error: failed to lookup address information: "
              ++ "Temporary failure in name resolution"))
          else throw (connectFault t "IO error: Network is unreachable (os error 101)")

/-- Makes a client and asks the node for its network, which must be a text. -/
def Client.make (settings : Settings) (way : Way) (index : Nat) (w : World) :
    Except Fault Client × World :=
  let t := way.transport settings.endpoint
  match t.openTo settings.endpoint w.network with
  | .error fault => (.error fault, w)
  | .ok connected =>
      let client : Client := ⟨index, t, settings.timeout, t.firstId, connected⟩
      let (reply, client, w) := client.networkText w
      (reply.result.map fun _ => client, { w with now := w.now + reply.delay })

/-! ### Several clients in turn -/

/-- Clients that are used in turn. A single client takes every turn. -/
structure Connection where
  clients : List Client
  /-- How many turns have been taken, in 64 bits. -/
  turn : UInt64
  pooled : Bool
  deriving DecidableEq, Repr

/-- Makes as many clients as are missing, one after another, up to the first that cannot be made. -/
def makeClients (settings : Settings) : Nat → List Client → World →
    Except Fault (List Client) × World
  | 0, clients, w => (.ok clients, w)
  | missing + 1, clients, w =>
      match Client.make settings .byEndpoint clients.length w with
      | (.error fault, w) => (.error fault, w)
      | (.ok client, w) => makeClients settings missing (clients ++ [client]) w

/-- Makes a pool of the configured size, but of one client at least. Room for all of them is taken first, and
is taken for granted here: no machine has it for `2 ^ 60` clients or more. -/
def makePool (settings : Settings) (w : World) : Except Fault Connection × World :=
  let (clients, w) := makeClients settings (max settings.poolSize 1) [] w
  (clients.map fun clients => ⟨clients, 0, true⟩, w)

def makeSingle (settings : Settings) (way : Way) (w : World) :
    Except Fault Connection × World :=
  let (client, w) := Client.make settings way 0 w
  (client.map fun client => ⟨[client], 0, false⟩, w)

def Connection.size (c : Connection) : Option Nat :=
  if c.pooled then some c.clients.length else none

end LiquidityTrigger.Node
