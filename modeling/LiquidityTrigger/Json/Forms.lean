import LiquidityTrigger.Json.Variant
import LiquidityTrigger.Liquidity.Intent
import LiquidityTrigger.Outcome

/-!
# The JSON forms of the domain

Amounts are hexadecimal without leading zeros, addresses and digests hexadecimal in full length,
bytes lists of numbers. A missing value is `null`; an object may leave its member out.

Reading hexadecimal text is more lenient. Its length, which is limited for amounts and fixed for the
others, counts blanks, but the digits are taken without them, two to a byte. What blanks leave
missing is missing at the end: a single digit is dropped, and an address or a digest is filled up with
zeros.
-/

namespace LiquidityTrigger.Json

/-! ### Hexadecimal texts -/

/-- Digits as bytes, two to a byte; a digit that is left over is dropped. -/
def bytesOfDigits : List Nat → Bytes
  | hi :: lo :: rest => UInt8.ofNat (hi * 16 + lo) :: bytesOfDigits rest
  | _ => []

/-- The bytes of digits with blanks anywhere among them. When the text has an odd length, blanks
counted, a zero stands in front of the first digit. -/
def spacedBytes? (cs : List Char) : Option Bytes := do
  let digits ← (cs.filter fun c => !isBlank c).mapM Hex.digitValue?
  return bytesOfDigits (if cs.length % 2 = 1 then 0 :: digits else digits)

/-- The bytes of a marked or unmarked hexadecimal text of an allowed length. -/
def hexBytes? (allowed : Nat → Bool) (s : String) : Option Bytes :=
  let cs := Hex.stripMarker s.toList
  if allowed cs.length then spacedBytes? cs else none

def fillUp (width : Nat) (bytes : Bytes) : Bytes :=
  bytes ++ List.replicate (width - bytes.length) 0

/-- The amount that a text of 1 to 64 characters spells. -/
def wordOfText? (s : String) : Option Word :=
  (hexBytes? (fun n => 1 ≤ n && n ≤ 64) s).map Word.ofBytes

def addressOfText? (s : String) : Option Address :=
  (hexBytes? (· = 40) s).map fun bytes => Address.ofBytes (fillUp 20 bytes)

def digestOfText? (s : String) : Option Digest :=
  (hexBytes? (· = 64) s).map fun bytes => Digest.ofBytes (fillUp 32 bytes)

/-! ### Atoms -/

namespace Codec

def word : Codec Word := .ofText "a 0x-prefixed hex string with length between (0; 64]" Word.hex
  wordOfText?

def address : Codec Address :=
  .ofText "a 0x-prefixed hex string with length of 40" Address.hex addressOfText?

def digest : Codec Digest :=
  .ofText "a 0x-prefixed hex string with length of 64" Digest.hex digestOfText?

end Codec

/-! ### Records and variants -/

def Field.required {α : Type} (name : String) (c : Codec α) : Field α where
  name := name
  codec := c

def Field.optional {α : Type} (name : String) (c : Codec α) : Field (Option α) where
  name := name
  codec := c.optional
  whenMissing := some none

/-- A field that an object may leave out, and a list at its end. -/
def Field.defaulted {α : Type} (name : String) (c : Codec α) : Field (Option α) where
  name := name
  codec := c.optional
  whenMissing := some none
  whenShort := some none

open LiquidityTrigger.Json.Field

def settings : Codec Settings :=
  .record "struct SniperSettings"
    (.cons (required "address_target_token" .text) <|
      .cons (required "address_base_currency" .text) <|
      .cons (required "minimum_liquidity" .text) <|
      .cons (defaulted "chain_id" .counter) .nil)
    (fun s => (s.targetToken, s.baseCurrency, s.minimumLiquidity, s.chainId, ()))
    fun (targetToken, baseCurrency, minimumLiquidity, chainId, ()) =>
      ⟨targetToken, baseCurrency, minimumLiquidity, chainId⟩

def signature : Codec Signature :=
  .record "a signature"
    (.cons (required "v" .counter) <| .cons (required "r" .word) <|
      .cons (required "s" .word) .nil)
    (fun s => (s.v, s.r, s.s, ()))
    fun (v, r, s, ()) => ⟨v, r, s⟩

def transaction : Codec Transaction :=
  .record "a transaction"
    (.cons (required "hash" .digest) <| .cons (required "nonce" .word) <|
      .cons (required "gas_price" .word) <| .cons (required "gas" .word) <|
      .cons (optional "to" .address) <| .cons (required "value" .word) <|
      .cons (required "data" .bytes) <| .cons (optional "transaction_type" .counter) <|
      .cons (optional "signature" signature) .nil)
    (fun t => (t.hash, t.nonce, t.gasPrice, t.gas, t.recipient, t.value, t.data, t.kind,
      t.signature, ()))
    fun (hash, nonce, gasPrice, gas, recipient, value, data, kind, signature, ()) =>
      ⟨hash, nonce, gasPrice, gas, recipient, value, data, kind, signature⟩

def liquidityFunction : Codec LiquidityFunction where
  write := fun f => .text f.name
  read := Case.read
    [.bare "AddLiquidity" .addLiquidity, .bare "AddLiquidityETH" .addLiquidityETH]

def pairAddition : Codec PairAddition :=
  .record "an addition of two tokens"
    (.cons (required "token_a" .address) <| .cons (required "token_b" .address) <|
      .cons (required "amount_a_desired" .word) <| .cons (required "amount_b_desired" .word) <|
      .cons (required "amount_a_min" .word) <| .cons (required "amount_b_min" .word) <|
      .cons (required "deadline" .word) <| .cons (required "to" .address) .nil)
    (fun i => (i.tokenA, i.tokenB, i.amountADesired, i.amountBDesired, i.amountAMin, i.amountBMin,
      i.deadline, i.recipient, ()))
    fun (tokenA, tokenB, amountADesired, amountBDesired, amountAMin, amountBMin, deadline,
        recipient, ()) =>
      ⟨tokenA, tokenB, amountADesired, amountBDesired, amountAMin, amountBMin, deadline, recipient⟩

def nativeAddition : Codec NativeAddition :=
  .record "an addition of a token and currency"
    (.cons (required "token" .address) <| .cons (required "amount_token_desired" .word) <|
      .cons (required "amount_token_min" .word) <| .cons (required "amount_eth_min" .word) <|
      .cons (required "deadline" .word) <| .cons (required "to" .address) .nil)
    (fun i => (i.token, i.amountTokenDesired, i.amountTokenMin, i.amountEthMin, i.deadline,
      i.recipient, ()))
    fun (token, amountTokenDesired, amountTokenMin, amountEthMin, deadline, recipient, ()) =>
      ⟨token, amountTokenDesired, amountTokenMin, amountEthMin, deadline, recipient⟩

/-- Additions of either kind; they are written alone, so only writing is needed. -/
def intentValue : Intent → Value
  | .pair addition => pairAddition.write addition
  | .native addition => nativeAddition.write addition

def diagnostic : Codec Diagnostic :=
  .record "a diagnostic"
    (.cons (required "observed" .word) <| .cons (required "expected" .word) <|
      .cons (optional "symbol" .text) .nil)
    (fun d => (d.observed, d.expected, d.symbol, ()))
    fun (observed, expected, symbol, ()) => ⟨observed, expected, symbol⟩

def balanceFields : Fields [Word, Word] :=
  .cons (required "declared" .word) <| .cons (required "balance" .word) .nil

def minimumFields : Fields [Word, Word] :=
  .cons (required "declared" .word) <| .cons (required "expected" .word) .nil

def suppression : Codec Suppression where
  write := fun
    | .unsupportedFunction => .text "UnsupportedFunction"
    | .notRelevant => .text "NotRelevant"
    | .implausibleBalance declared balance =>
        .ofCase "ImplausibleBalance" (.object (balanceFields.members (declared, balance, ())))
    | .belowThreshold d => .ofCase "BelowThreshold" (diagnostic.write d)
    | .declaredMinimumTooLow declared expected =>
        .ofCase "DeclaredMinimumTooLow" (.object (minimumFields.members (declared, expected, ())))
  read := Case.read
    [.bare "UnsupportedFunction" .unsupportedFunction,
      .bare "NotRelevant" .notRelevant,
      .ofFields "ImplausibleBalance" balanceFields
        fun (declared, balance, ()) => .implausibleBalance declared balance,
      .ofCodec "BelowThreshold" diagnostic .belowThreshold,
      .ofFields "DeclaredMinimumTooLow" minimumFields
        fun (declared, expected, ()) => .declaredMinimumTooLow declared expected]

def purchaseFields : Fields [Word] := .cons (required "gas_price" .word) .nil

def outcome : Codec Outcome where
  write := fun
    | .dispatched gasPrice =>
        .ofCase "Dispatched" (.object (purchaseFields.members (gasPrice, ())))
    | .suppressed reason => .ofCase "Suppressed" (suppression.write reason)
  read := Case.read
    [.ofFields "Dispatched" purchaseFields fun (gasPrice, ()) => .dispatched gasPrice,
      .ofCodec "Suppressed" suppression .suppressed]

end LiquidityTrigger.Json

namespace LiquidityTrigger

def Settings.ofJson (text : String) : Except Fault Settings :=
  match Json.settings.parse text with
  | .ok settings => .ok settings
  | .error fault => .error (.validation fault.text)

end LiquidityTrigger
