import LiquidityTrigger.Proofs.Json.Hexadecimal
import LiquidityTrigger.Proofs.Json.Variant

/-!
# The JSON forms read back

Every type of the domain that is written as JSON is read back from its text: its codec is built from
codecs that read what they write, under names that differ.
-/

namespace LiquidityTrigger.Json

/-! ### Atoms -/

theorem Codec.word_inverts : Codec.word.Inverts := ofText_inverts wordOfText?_hex

theorem Codec.address_inverts : Codec.address.Inverts := ofText_inverts addressOfText?_hex

theorem Codec.digest_inverts : Codec.digest.Inverts := ofText_inverts digestOfText?_hex

theorem Codec.optionalCounter_inverts : Codec.counter.optional.Inverts :=
  optional_inverts counter_inverts fun style depth n =>
    counter_starts style depth n (List.forall_mem_singleton.mpr rfl)

theorem Codec.optionalText_inverts : Codec.text.optional.Inverts :=
  optional_inverts text_inverts fun _ _ s => quote_starts s (by decide)

theorem Codec.optionalAddress_inverts : Codec.address.optional.Inverts :=
  optional_inverts address_inverts fun _ _ a => quote_starts a.hex (by decide)

/-! ### Records -/

theorem settings_inverts : settings.Inverts := by
  apply Codec.record_inverts
  · exact ⟨Codec.text_inverts, Codec.text_inverts, Codec.text_inverts,
      Codec.optionalCounter_inverts, trivial⟩
  · decide
  · intro s
    rfl

theorem signature_inverts : signature.Inverts := by
  apply Codec.record_inverts
  · exact ⟨Codec.counter_inverts, Codec.word_inverts, Codec.word_inverts, trivial⟩
  · decide
  · intro s
    rfl

theorem optionalSignature_inverts : signature.optional.Inverts :=
  Codec.optional_inverts signature_inverts fun style depth _ => object_starts style depth _

theorem transaction_inverts : transaction.Inverts := by
  apply Codec.record_inverts
  · exact ⟨Codec.digest_inverts, Codec.word_inverts, Codec.word_inverts, Codec.word_inverts,
      Codec.optionalAddress_inverts, Codec.word_inverts, Codec.bytes_inverts,
      Codec.optionalCounter_inverts, optionalSignature_inverts, trivial⟩
  · decide
  · intro t
    rfl

theorem pairAddition_inverts : pairAddition.Inverts := by
  apply Codec.record_inverts
  · exact ⟨Codec.address_inverts, Codec.address_inverts, Codec.word_inverts, Codec.word_inverts,
      Codec.word_inverts, Codec.word_inverts, Codec.word_inverts, Codec.address_inverts, trivial⟩
  · decide
  · intro i
    rfl

theorem nativeAddition_inverts : nativeAddition.Inverts := by
  apply Codec.record_inverts
  · exact ⟨Codec.address_inverts, Codec.word_inverts, Codec.word_inverts, Codec.word_inverts,
      Codec.word_inverts, Codec.address_inverts, trivial⟩
  · decide
  · intro i
    rfl

theorem diagnostic_inverts : diagnostic.Inverts := by
  apply Codec.record_inverts
  · exact ⟨Codec.word_inverts, Codec.word_inverts, Codec.optionalText_inverts, trivial⟩
  · decide
  · intro d
    rfl

/-! ### Variants -/

theorem liquidityFunction_inverts : liquidityFunction.Inverts := by
  intro style _ depth f
  cases f with
  | addLiquidity => exact Case.read_bare rfl
  | addLiquidityETH => exact Case.read_bare rfl

theorem balanceFields_inverts : balanceFields.Inverts :=
  ⟨Codec.word_inverts, Codec.word_inverts, trivial⟩

theorem minimumFields_inverts : minimumFields.Inverts :=
  ⟨Codec.word_inverts, Codec.word_inverts, trivial⟩

theorem purchaseFields_inverts : purchaseFields.Inverts := ⟨Codec.word_inverts, trivial⟩

theorem suppression_inverts : suppression.Inverts := by
  intro style hstyle depth s
  cases s with
  | unsupportedFunction => exact Case.read_bare rfl
  | notRelevant => exact Case.read_bare rfl
  | implausibleBalance declared balance =>
      apply Case.read_held hstyle rfl
      exact Case.ofFields_restores balanceFields_inverts (by decide) _ _ hstyle (depth + 1)
        (declared, balance, ())
  | belowThreshold d =>
      apply Case.read_held hstyle rfl
      exact Case.ofCodec_restores diagnostic_inverts _ _ hstyle (depth + 1) d
  | declaredMinimumTooLow declared expected =>
      apply Case.read_held hstyle rfl
      exact Case.ofFields_restores minimumFields_inverts (by decide) _ _ hstyle (depth + 1)
        (declared, expected, ())

theorem outcome_inverts : outcome.Inverts := by
  intro style hstyle depth o
  cases o with
  | dispatched gasPrice =>
      apply Case.read_held hstyle rfl
      exact Case.ofFields_restores purchaseFields_inverts (by decide) _ _ hstyle (depth + 1)
        (gasPrice, ())
  | suppressed reason =>
      apply Case.read_held hstyle rfl
      exact Case.ofCodec_restores suppression_inverts _ _ hstyle (depth + 1) reason

/-- What is written of the nine serialized types is read back, compact or indented. -/
theorem texts_read_back :
    (∀ x : Signature, signature.parse (signature.compact x) = .ok x) ∧
    (∀ x : Transaction, transaction.parse (transaction.compact x) = .ok x) ∧
    (∀ x : LiquidityFunction, liquidityFunction.parse (liquidityFunction.compact x) = .ok x) ∧
    (∀ x : PairAddition, pairAddition.parse (pairAddition.compact x) = .ok x) ∧
    (∀ x : NativeAddition, nativeAddition.parse (nativeAddition.compact x) = .ok x) ∧
    (∀ x : Outcome, outcome.parse (outcome.compact x) = .ok x ∧
      outcome.parse (outcome.pretty x) = .ok x) ∧
    (∀ x : Suppression, suppression.parse (suppression.compact x) = .ok x) ∧
    (∀ x : Diagnostic, diagnostic.parse (diagnostic.compact x) = .ok x) ∧
    ∀ x : Settings, settings.parse (settings.compact x) = .ok x ∧
      Settings.ofJson (settings.compact x) = .ok x := by
  refine ⟨signature_inverts.parse_compact, transaction_inverts.parse_compact,
    liquidityFunction_inverts.parse_compact, pairAddition_inverts.parse_compact,
    nativeAddition_inverts.parse_compact, ?_, suppression_inverts.parse_compact,
    diagnostic_inverts.parse_compact, ?_⟩
  · intro x
    exact ⟨outcome_inverts.parse_compact x, outcome_inverts.parse_pretty x⟩
  · intro x
    have hparse := settings_inverts.parse_compact x
    refine ⟨hparse, ?_⟩
    rw [Settings.ofJson, hparse]

end LiquidityTrigger.Json
