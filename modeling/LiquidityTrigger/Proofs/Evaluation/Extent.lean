import LiquidityTrigger.Evaluation
import LiquidityTrigger.Proofs.Procedure

/-!
# What a decision reads

`LeavesNetwork` says of a procedure that it asks for no network, whatever the services answer, and
`ReadsAlong` moreover that its reads are of the kinds on a list, each at most once and in this order. Deciding
on a transaction reads along two of them: the balance of its sender and the symbol of the paired token.
`LearnsChain` describes what comes behind a question for the chain, if the settings leave one open.
-/

namespace LiquidityTrigger

/-- No run of a procedure asks for the network. -/
inductive Procedure.LeavesNetwork {α : Type} : Procedure α → Prop
  | done (a : α) : LeavesNetwork (.done a)
  | fail (fault : Fault) : LeavesNetwork (.fail fault)
  | read {next : Except Fault Bytes → Procedure α} (operation : String) (call : Call)
      (h : ∀ answer, LeavesNetwork (next answer)) : LeavesNetwork (.read operation call next)
  | buy {next : Except Fault Unit → Procedure α} (gasPrice : Word)
      (h : ∀ answer, LeavesNetwork (next answer)) : LeavesNetwork (.buy gasPrice next)
  | log {next : Procedure α} (event : Event) (h : LeavesNetwork next) : LeavesNetwork (.log event next)

namespace Procedure.LeavesNetwork

variable {α β : Type} {p : Procedure α} {f : α → Procedure β}

theorem bind (hfirst : p.LeavesNetwork) (hrest : ∀ a, (f a).LeavesNetwork) : (p >>= f).LeavesNetwork := by
  change (p.bind f).LeavesNetwork
  induction hfirst with
  | done a => exact hrest a
  | fail fault => exact .fail fault
  | read operation call _ ih => exact .read operation call ih
  | buy gasPrice _ ih => exact .buy gasPrice ih
  | log event _ ih => exact .log event ih

theorem ofExcept (result : Except Fault α) : (Procedure.ofExcept result).LeavesNetwork := by
  cases result with
  | error fault => exact .fail fault
  | ok a => exact .done a

end Procedure.LeavesNetwork

/-! ### Reads in order -/

/-- Every run of a procedure asks for no network and reads calls of these kinds, in this order and as far as
it comes. -/
inductive Procedure.ReadsAlong {α : Type} : List (Call → Prop) → Procedure α → Prop
  | done {kinds : List (Call → Prop)} (a : α) : ReadsAlong kinds (.done a)
  | fail {kinds : List (Call → Prop)} (fault : Fault) : ReadsAlong kinds (.fail fault)
  | read {kind : Call → Prop} {kinds : List (Call → Prop)} {next : Except Fault Bytes → Procedure α}
      (operation : String) {call : Call} (hkind : kind call)
      (h : ∀ answer, ReadsAlong kinds (next answer)) :
      ReadsAlong (kind :: kinds) (.read operation call next)
  | buy {kinds : List (Call → Prop)} {next : Except Fault Unit → Procedure α} (gasPrice : Word)
      (h : ∀ answer, ReadsAlong kinds (next answer)) : ReadsAlong kinds (.buy gasPrice next)
  | log {kinds : List (Call → Prop)} {next : Procedure α} (event : Event) (h : ReadsAlong kinds next) :
      ReadsAlong kinds (.log event next)

namespace Procedure.ReadsAlong

variable {α β : Type} {kind : Call → Prop} {kinds : List (Call → Prop)} {p : Procedure α}
  {f : α → Procedure β}

theorem leavesNetwork (h : p.ReadsAlong kinds) : p.LeavesNetwork := by
  induction h with
  | done a => exact .done a
  | fail fault => exact .fail fault
  | read operation _ _ ih => exact .read operation _ ih
  | buy gasPrice _ ih => exact .buy gasPrice ih
  | log event _ ih => exact .log event ih

theorem bind (hfirst : p.ReadsAlong []) (hrest : ∀ a, (f a).ReadsAlong kinds) :
    (p >>= f).ReadsAlong kinds := by
  change (p.bind f).ReadsAlong kinds
  generalize hnone : ([] : List (Call → Prop)) = none at hfirst
  induction hfirst with
  | done a => exact hrest a
  | fail fault => exact .fail fault
  | read operation _ _ _ => cases hnone
  | buy gasPrice _ ih => exact .buy gasPrice fun answer => ih answer hnone
  | log event _ ih => exact .log event (ih hnone)

theorem ofExcept (result : Except Fault α) : (Procedure.ofExcept result).ReadsAlong kinds := by
  cases result with
  | error fault => exact .fail fault
  | ok a => exact .done a

theorem emit (event : Event) : (Procedure.emit event).ReadsAlong kinds := .log event (.done ())

theorem tryBuy (gasPrice : Word) : (Procedure.tryBuy gasPrice).ReadsAlong kinds :=
  .buy gasPrice fun answer => .done answer

theorem tryRead_bind (operation : String) {call : Call} (hkind : kind call)
    {f : Except Fault Bytes → Procedure β} (hrest : ∀ answer, (f answer).ReadsAlong kinds) :
    (Procedure.tryRead operation call >>= f).ReadsAlong (kind :: kinds) := .read operation hkind hrest

end Procedure.ReadsAlong

def Call.AsksBalance (call : Call) : Prop := ∃ token account, call = Token.balanceOfCall token account

def Call.AsksSymbol (call : Call) : Prop := ∃ token, call = Token.symbolCall token

section

open Procedure.ReadsAlong

variable {kinds : List (Call → Prop)} (config : Config) (tx : Transaction)

theorem balanceOf_bind_readsAlong {β : Type} (token account : Address) {f : Word → Procedure β}
    (hrest : ∀ balance, (f balance).ReadsAlong kinds) :
    (Token.balanceOf token account >>= f).ReadsAlong (Call.AsksBalance :: kinds) := by
  rw [Token.balanceOf, Procedure.bind_assoc]
  exact tryRead_bind "balanceOf" ⟨token, account, rfl⟩ fun _ => bind (ofExcept _) hrest

theorem symbol_bind_readsAlong {β : Type} (token : Address) {f : String → Procedure β}
    (hrest : ∀ symbol, (f symbol).ReadsAlong kinds) :
    (Token.symbol token >>= f).ReadsAlong (Call.AsksSymbol :: kinds) := by
  rw [Token.symbol, Procedure.bind_assoc]
  exact tryRead_bind "symbol" ⟨token, rfl⟩ fun _ => bind (.done _) hrest

theorem dispatch_readsAlong : (dispatch tx).ReadsAlong kinds := by
  refine bind (emit _) fun _ => bind (tryBuy _) fun answer => ?_
  cases answer with
  | ok _ => exact .done _
  | error fault => exact bind (emit _) fun _ => .fail fault

theorem belowThreshold_readsAlong (diagnostic : Diagnostic) :
    (belowThreshold tx diagnostic).ReadsAlong kinds := bind (emit _) fun _ => .done _

theorem weigh_readsAlong (leg : PairedLeg) : (weigh config tx leg).ReadsAlong [Call.AsksSymbol] := by
  cases leg with
  | token token minAmount =>
      rw [weigh]
      by_cases henough : config.minLiquidity < minAmount
      · rw [if_pos henough]
        exact dispatch_readsAlong tx
      · rw [if_neg henough]
        exact symbol_bind_readsAlong token fun _ => belowThreshold_readsAlong tx _
  | native declaredMin =>
      rw [weigh]
      by_cases hlittle : tx.value ≤ config.minLiquidity
      · rw [if_pos hlittle]
        exact belowThreshold_readsAlong tx _
      · rw [if_neg hlittle]
        by_cases hlow : declaredMin ≤ config.minLiquidity
        · rw [if_pos hlow]
          exact bind (emit _) fun _ => .done _
        · rw [if_neg hlow]
          exact dispatch_readsAlong tx

theorem evaluate_readsAlong (function : LiquidityFunction) :
    (evaluate config function tx).ReadsAlong [Call.AsksBalance, Call.AsksSymbol] := by
  refine bind (ofExcept _) fun intent => bind (ofExcept _) fun sender => bind (emit _) fun _ => ?_
  cases intent.legs config with
  | none => exact .done _
  | some legs =>
      refine balanceOf_bind_readsAlong config.target sender fun balance => ?_
      by_cases hscarce : balance < legs.minTarget
      · rw [if_pos hscarce]
        exact bind (emit _) fun _ => .done _
      · rw [if_neg hscarce]
        exact weigh_readsAlong config tx legs.paired

theorem process_readsAlong :
    (process config tx).ReadsAlong [Call.AsksBalance, Call.AsksSymbol] := by
  rw [process]
  cases LiquidityFunction.detect tx.data with
  | none => exact .done _
  | some function => exact evaluate_readsAlong config tx function

end

/-! ### The chain first -/

/-- How often settings make a configuration ask for the network. -/
def Settings.networkQuestions (settings : Settings) : Nat :=
  if settings.chainId.isNone then 1 else 0

def chainOf (settings : Settings) : Procedure UInt64 :=
  match settings.chainId with
  | some id => pure id
  | none => Procedure.askNetworkId

def configure (settings : Settings) (chainId : UInt64) : Procedure Config := do
  let config ← Procedure.ofExcept
    ((settings.validate (some chainId)).mapError SettingsFault.toFault)
  Procedure.emit (.configured config.chainId config.target)
  return config

/-- A procedure that learns the chain of settings first, and then leaves the network. -/
def Procedure.LearnsChain {α : Type} (p : Procedure α) (settings : Settings) : Prop :=
  ∃ rest, p = chainOf settings >>= rest ∧ ∀ chainId, (rest chainId).LeavesNetwork

theorem configure_leavesNetwork (settings : Settings) (chainId : UInt64) :
    (configure settings chainId).LeavesNetwork :=
  .bind (.ofExcept _) fun _ => .log _ (.done _)

theorem connect_eq (settings : Settings) : connect settings = chainOf settings >>= configure settings := by
  rw [connect, chainOf]
  cases settings.chainId with
  | none => rfl
  | some id => rfl

theorem connect_learnsChain (settings : Settings) : (connect settings).LearnsChain settings :=
  ⟨configure settings, connect_eq settings, configure_leavesNetwork settings⟩

end LiquidityTrigger
