import LiquidityTrigger.Liquidity.Calldata
import LiquidityTrigger.Procedure
import LiquidityTrigger.Text.Utf8

/-!
# Reading tokens

The balance of an account and the symbol of a token. A balance is the first word of the answer. A
symbol is a text behind an offset and a length, or, for old tokens, the bytes of a single word up to
the first zero; it is for display only, so a symbol that cannot be read is the text of the fault.
-/

namespace LiquidityTrigger.Token

/-! ### Answers -/

def wordAt? (out : Bytes) (place : Nat) : Option Nat :=
  if place + 32 ≤ out.length then some (Bytes.toNat ((out.drop place).take 32)) else none

/-- An offset or a length at a place of an answer; it must be below `2 ^ 32`. -/
def sizeAt? (out : Bytes) (place : Nat) : Option Nat := do
  let n ← wordAt? out place
  if n < 2 ^ 32 then return n else none

/-- The text that an answer holds behind an offset and a length. -/
def textIn? (out : Bytes) : Option String := do
  let offset ← sizeAt? out 0
  let length ← sizeAt? out offset
  if offset + 32 + length ≤ out.length then
    return String.ofList (Utf8.decodeLossy ((out.drop (offset + 32)).take length))
  else none

/-- The text in the bytes of a single word before its first zero. -/
def shortTextIn? (out : Bytes) : Option String :=
  if out.length = 32 then (Utf8.decode? (out.takeWhile (· ≠ 0))).map String.ofList else none

def symbolIn? (out : Bytes) : Option String := textIn? out <|> shortTextIn? out

inductive BalanceFault where
  | emptyAnswer
  | shortAnswer
  deriving DecidableEq, Repr

def BalanceFault.detail : BalanceFault → String
  | .emptyAnswer =>
      "Invalid name: please ensure the contract and method you're calling exist! "
        ++ "failed to decode empty bytes. if you're using jsonrpc this is likely due to jsonrpc "
        ++ "returning `0x` in case contract or method don't exist"
  | .shortAnswer => "Invalid data"

def balanceIn (out : Bytes) : Except BalanceFault Word :=
  if out.isEmpty then .error .emptyAnswer
  else
    match wordAt? out 0 with
    | some n => .ok (BitVec.ofNat 256 n)
    | none => .error .shortAnswer

/-! ### Calls -/

def balanceOfSelector : Bytes := selectorOfSignature "balanceOf(address)"

def symbolSelector : Bytes := selectorOfSignature "symbol()"

def balanceOfCall (token account : Address) : Call :=
  ⟨token, Calldata.encode balanceOfSelector [account.toWord]⟩

def symbolCall (token : Address) : Call := ⟨token, symbolSelector⟩

def BalanceFault.toFault (fault : BalanceFault) : Fault :=
  .node ("balanceOf sem retorno válido: " ++ fault.detail)

def noSymbol : Fault := .node "symbol sem retorno válido"

def balanceOfAnswer (answer : Except Fault Bytes) : Except Fault Word := do
  (balanceIn (← answer)).mapError BalanceFault.toFault

/-- The symbol in what came of a call, or the text of what went wrong. -/
def symbolOfAnswer : Except Fault Bytes → String
  | .ok out => (symbolIn? out).getD noSymbol.message
  | .error fault => fault.message

def balanceOf (token account : Address) : Procedure Word := do
  let answer ← Procedure.tryRead "balanceOf" (balanceOfCall token account)
  Procedure.ofExcept (balanceOfAnswer answer)

/-- Reads the symbol of a token; this never fails. -/
def symbol (token : Address) : Procedure String := do
  let answer ← Procedure.tryRead "symbol" (symbolCall token)
  return symbolOfAnswer answer

end LiquidityTrigger.Token
