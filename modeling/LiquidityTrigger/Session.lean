import LiquidityTrigger.Scripted

/-!
# Sessions

A session holds a configuration, the scripts of the services, a clock and named contexts, and takes
steps. Evaluations are run one after another or as a group from the same instant. The members of a
group share nothing but the scripts, so each runs as it would alone and the group ends with its
slowest member; `Concurrent` says what it means that they run at the same time.
-/

namespace LiquidityTrigger

inductive ContextChoice where
  | unbounded
  | fresh (timeout : Nat)
  | named (name : String)
  deriving DecidableEq, Repr

inductive Submission where
  | wire (raw : Bytes)
  | decoded (tx : Transaction)
  deriving DecidableEq, Repr

def Submission.transaction : Submission → Except Fault Transaction
  | wire raw => (Legacy.decode raw).mapError Legacy.Rejection.toFault
  | decoded tx => .ok tx

structure Evaluation where
  entry : Entry
  submission : Submission
  context : ContextChoice
  deriving DecidableEq, Repr

def Evaluation.procedure (e : Evaluation) (config : Config) : Procedure Outcome := do
  let tx ← Procedure.ofExcept e.submission.transaction
  e.entry.decide config tx

/-- The state between steps. What making the configuration asked of the services is shown with the
first evaluations. -/
structure Session where
  config : Config
  provider : Provider
  executor : Reply Unit
  now : Nat
  contexts : List (String × Context)
  unshown : List Act

namespace Session

inductive Step where
  | setProvider (provider : Provider)
  | setExecutor (reply : Reply Unit)
  | nameContext (name : String) (timeout : Option Nat)
  | sleep (ms : Nat)
  | showConfig
  | run (evaluation : Evaluation)
  | join (evaluations : List Evaluation)

inductive Answer where
  | nothing
  | deadline (deadline : Option Nat)
  | slept (now : Nat)
  | config (config : Config)
  | ran (record : Record Outcome) (shown : List Act)
  | joined (records : List (Record Outcome)) (shown : List Act)

def start (config : Config) (provider : Provider) (executor : Reply Unit) : Session :=
  ⟨config, provider, executor, 0, [], []⟩

def startConnected (settings : Settings) (provider : Provider) (executor : Reply Unit) :
    Except Fault Session := do
  let record := (connect settings).play provider executor .background 0
  let config ← record.result
  return { start config provider executor with unshown := record.trace }

/-- The context that a choice means now; a name that was never given means no deadline. -/
def context (s : Session) : ContextChoice → Context
  | .unbounded => .background
  | .fresh timeout => .withTimeout s.now timeout
  | .named name => (s.contexts.lookup name).getD .background

def play (s : Session) (e : Evaluation) : Record Outcome :=
  (e.procedure s.config).play s.provider s.executor (s.context e.context) s.now

/-- The time when the last of some runs ends, but not before now. -/
def finishOf (now : Nat) (records : List (Record Outcome)) : Nat :=
  (records.map (·.finish)).foldl max now

def step (s : Session) : Step → Answer × Session
  | .setProvider provider => (.nothing, { s with provider := provider })
  | .setExecutor reply => (.nothing, { s with executor := reply })
  | .nameContext name timeout =>
      let ctx := timeout.elim Context.background (Context.withTimeout s.now)
      (.deadline ctx.deadline, { s with contexts := (name, ctx) :: s.contexts })
  | .sleep ms => (.slept (s.now + ms), { s with now := s.now + ms })
  | .showConfig => (.config s.config, s)
  | .run e =>
      let record := s.play e
      (.ran record (s.unshown ++ record.trace), { s with now := record.finish, unshown := [] })
  | .join es =>
      let records := es.map s.play
      (.joined records (s.unshown ++ records.flatMap (·.trace)),
        { s with now := finishOf s.now records, unshown := [] })

def run : Session → List Step → List Answer
  | _, [] => []
  | s, step :: rest => (s.step step).1 :: (s.step step).2.run rest

end Session

/-! ### The order in which a group's acts are shown -/

/-- Whether a call is shown no later than another: by payload, then by address. -/
def Call.shownBefore (a b : Call) : Bool :=
  if a.data.hex = b.data.hex then a.target.hex ≤ b.target.hex else a.data.hex < b.data.hex

def deadlineShownBefore : Option Nat → Option Nat → Bool
  | none, _ => true
  | some _, none => false
  | some a, some b => a ≤ b

/-- Whether a purchase is shown no later than another: by gas price, then by deadline. -/
def Purchase.shownBefore (a b : Purchase) : Bool :=
  if a.gasPrice = b.gasPrice then deadlineShownBefore a.deadline b.deadline
  else a.gasPrice < b.gasPrice

def groupCalls (shown : List Act) : List Call := (callsIn shown).mergeSort Call.shownBefore

def groupPurchases (shown : List Act) : List Purchase :=
  (purchasesIn shown).mergeSort Purchase.shownBefore

end LiquidityTrigger
