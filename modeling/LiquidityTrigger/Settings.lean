import LiquidityTrigger.Fault
import LiquidityTrigger.Text.Numeral
import LiquidityTrigger.Text.Hex

/-!
# Settings and the configuration they make

Settings are texts as a user writes them. `Settings.validate` turns them into a `Config` or names the
first thing that is wrong with them: the target's address, the base currency's address, the two
being one, the least liquidity, a missing chain id, in this order. A chain id in the settings goes
before the one that is offered beside them.
-/

namespace LiquidityTrigger

/-- The amount that a decimal text names: white space around it is ignored, the rest must be ASCII
digits denoting less than `2 ^ 256`, and no digits at all denote zero. -/
def Word.ofDecimal? (text : String) : Option Word := do
  let n ← Decimal.read? (Blank.trim text.toList)
  if n < 2 ^ 256 then return BitVec.ofNat 256 n else none

structure Settings where
  targetToken : String
  baseCurrency : String
  /-- The least amount of the base currency. -/
  minimumLiquidity : String
  /-- The chain, unless the node is to be asked. -/
  chainId : Option UInt64
  deriving DecidableEq, Repr

structure Config where
  target : Address
  paired : Address
  minLiquidity : Word
  chainId : UInt64
  deriving DecidableEq, Repr

inductive SettingsFault where
  | badTarget (text : String)
  | badBase (text : String)
  | samePair
  | badLiquidity (text : String)
  | noChain
  deriving DecidableEq, Repr

def SettingsFault.detail : SettingsFault → String
  | .badTarget text => "endereço do token alvo inválido: " ++ text
  | .badBase text => "endereço da moeda base inválido: " ++ text
  | .samePair => "token alvo e moeda base devem ser diferentes"
  | .badLiquidity text => "liquidez mínima inválida: " ++ text
  | .noChain => "chain id não definido"

def SettingsFault.toFault (fault : SettingsFault) : Fault := .validation fault.detail

/-- The configuration that settings make, with a chain id to use when they have none. -/
def Settings.validate (settings : Settings) (fallback : Option UInt64) :
    Except SettingsFault Config :=
  match Address.ofText? settings.targetToken with
  | none => .error (.badTarget settings.targetToken)
  | some target =>
      match Address.ofText? settings.baseCurrency with
      | none => .error (.badBase settings.baseCurrency)
      | some paired =>
          if target = paired then .error .samePair
          else
            match Word.ofDecimal? settings.minimumLiquidity with
            | none => .error (.badLiquidity settings.minimumLiquidity)
            | some minLiquidity =>
                match settings.chainId <|> fallback with
                | none => .error .noChain
                | some chainId => .ok ⟨target, paired, minLiquidity, chainId⟩

end LiquidityTrigger
