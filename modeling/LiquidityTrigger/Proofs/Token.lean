import LiquidityTrigger.Proofs.Liquidity.Slots
import LiquidityTrigger.Proofs.Scripted
import LiquidityTrigger.Proofs.Text.Utf8

/-!
# Symbols in answers

A token gives its symbol as a text behind an offset and a length or, if it is old, as the bytes of one word.
The two conventions overlap in a single answer, the word of zeros, and there they agree. So a symbol has a
description that does not say which convention is tried first.

Offsets and lengths are whatever the contract wrote. `symbolInChecked` reads with sums that notice when they are
no size, and with slices that notice when they reach out of the answer, and it never stops.
-/

namespace LiquidityTrigger.Token

/-! ### A text behind an offset and a length -/

variable {out content : Bytes} {place offset n : Nat} {text : String}

/-- An answer starts with an offset, where a length stands with as many bytes behind it. -/
structure HoldsText (out : Bytes) (offset : Nat) (content : Bytes) : Prop where
  offset_lt : offset < 2 ^ 32
  length_lt : content.length < 2 ^ 32
  offset_eq : out.take 32 = Bytes.ofNat 32 offset
  length_eq : (out.drop offset).take 32 = Bytes.ofNat 32 content.length
  content_eq : (out.drop (offset + 32)).take content.length = content

theorem sizeAt?_eq_some_iff :
    sizeAt? out place = some n ↔ n < 2 ^ 32 ∧ (out.drop place).take 32 = Bytes.ofNat 32 n := by
  rw [sizeAt?, wordAt?]
  constructor
  · intro h
    split_ifs at h with hplace
    · rw [Option.bind_eq_bind, Option.bind_some] at h
      split_ifs at h with hlt
      obtain rfl := Option.some.inj h
      have hlength : ((out.drop place).take 32).length = 32 := by
        rw [List.length_take, List.length_drop]
        omega
      have hword := Bytes.ofNat_toNat ((out.drop place).take 32)
      rw [hlength] at hword
      exact ⟨hlt, hword.symm⟩
    · cases h
  · rintro ⟨hlt, hword⟩
    have hplace : place + 32 ≤ out.length := by
      have hlength := congrArg List.length hword
      rw [List.length_take, List.length_drop, Bytes.length_ofNat] at hlength
      omega
    have hvalue : n % 256 ^ 32 = n := Nat.mod_eq_of_lt (Nat.lt_trans hlt (by decide))
    rw [if_pos hplace, hword, Bytes.toNat_ofNat, hvalue]
    exact if_pos hlt

theorem HoldsText.length_le (h : HoldsText out offset content) :
    offset + 32 + content.length ≤ out.length := by
  have hlength := congrArg List.length h.length_eq
  have hcontent := congrArg List.length h.content_eq
  rw [List.length_take, List.length_drop] at hlength hcontent
  rw [Bytes.length_ofNat] at hlength
  omega

theorem textIn?_eq_some_iff : textIn? out = some text ↔
    ∃ offset content, HoldsText out offset content ∧ text = String.ofList (Utf8.decodeLossy content) := by
  rw [textIn?]
  constructor
  · intro h
    simp only [Option.bind_eq_bind, Option.bind_eq_some_iff] at h
    obtain ⟨offset, hoffset, length, hlength, h⟩ := h
    split_ifs at h with hfits
    obtain rfl := Option.some.inj h
    obtain ⟨hoffset, hfirst⟩ := sizeAt?_eq_some_iff.mp hoffset
    obtain ⟨hlt, hword⟩ := sizeAt?_eq_some_iff.mp hlength
    have hcontent : ((out.drop (offset + 32)).take length).length = length := by
      rw [List.length_take, List.length_drop]
      omega
    exact ⟨offset, (out.drop (offset + 32)).take length,
      ⟨hoffset, by rwa [hcontent], hfirst, by rwa [hcontent], by rw [hcontent]⟩, rfl⟩
  · rintro ⟨offset, content, h, rfl⟩
    have hoffset : sizeAt? out 0 = some offset := sizeAt?_eq_some_iff.mpr ⟨h.offset_lt, h.offset_eq⟩
    have hlength : sizeAt? out offset = some content.length :=
      sizeAt?_eq_some_iff.mpr ⟨h.length_lt, h.length_eq⟩
    rw [hoffset, Option.bind_eq_bind, Option.bind_some, hlength, Option.bind_some,
      if_pos h.length_le, h.content_eq]
    rfl

/-- A text as an answer holds it by the convention: the offset 32, the length, and the bytes with zeros behind
them up to a whole word. -/
def textAnswer (text : String) : Bytes :=
  let content := Utf8.encode text.toList
  Bytes.ofNat 32 32 ++ Bytes.ofNat 32 content.length ++ content
    ++ List.replicate ((32 - content.length % 32) % 32) 0

theorem holdsText_textAnswer (h : (Utf8.encode text.toList).length < 2 ^ 32) (behind : Bytes) :
    HoldsText (textAnswer text ++ behind) 32 (Utf8.encode text.toList) where
  offset_lt := by decide
  length_lt := h
  offset_eq := by simp [textAnswer, List.append_assoc]
  length_eq := by simp [textAnswer, List.append_assoc]
  content_eq := by
    simp only [textAnswer, List.append_assoc]
    rw [← List.append_assoc, List.drop_left' (by simp), List.take_left]

/-! ### A single word -/

theorem HoldsText.content_eq_nil (h : HoldsText out offset content) (hword : out.length = 32) :
    content = [] ∧ out.takeWhile (· ≠ 0) = [] := by
  have hlength := h.length_le
  have hoffset : offset = 0 := by omega
  have hcontent : content = [] := List.eq_nil_of_length_eq_zero (by omega)
  have hzeros : out = Bytes.ofNat 32 0 := by
    rw [← hoffset, ← h.offset_eq, List.take_of_length_le (Nat.le_of_eq hword)]
  refine ⟨hcontent, ?_⟩
  rw [hzeros]
  decide

theorem shortTextIn?_eq_some_iff : shortTextIn? out = some text ↔
    out.length = 32 ∧ Utf8.encode text.toList = out.takeWhile (· ≠ 0) := by
  rw [shortTextIn?]
  split_ifs with hword
  · rw [Option.map_eq_some_iff]
    constructor
    · rintro ⟨cs, hcs, rfl⟩
      exact ⟨hword, by rw [String.toList_ofList, Utf8.decode?_eq_some_iff.mp hcs]⟩
    · rintro ⟨-, h⟩
      exact ⟨text.toList, Utf8.decode?_eq_some_iff.mpr h, String.ofList_toList⟩
  · simp [hword]

/-! ### The symbol -/

/-- The symbol that an answer stands for, by either convention, and otherwise the text of the fault. -/
inductive IsSymbol : Except Fault Bytes → String → Prop
  | text {out : Bytes} {offset : Nat} {content : Bytes} (h : HoldsText out offset content) :
      IsSymbol (.ok out) (String.ofList (Utf8.decodeLossy content))
  | word {out : Bytes} {text : String} (hword : out.length = 32)
      (h : Utf8.encode text.toList = out.takeWhile (· ≠ 0)) : IsSymbol (.ok out) text
  | neither {out : Bytes} (htext : ∀ offset content, ¬ HoldsText out offset content)
      (hword : out.length = 32 → ∀ text : String, Utf8.encode text.toList ≠ out.takeWhile (· ≠ 0)) :
      IsSymbol (.ok out) noSymbol.message
  | fault {fault : Fault} : IsSymbol (.error fault) fault.message

/-- Where an answer can be read by both conventions, both give the same. -/
theorem symbolIn?_of_word (hword : out.length = 32) : symbolIn? out = shortTextIn? out := by
  rw [symbolIn?]
  cases htext : textIn? out with
  | none => rfl
  | some text =>
      -- only the word of zeros gets here, and nothing stands in it before the first zero
      obtain ⟨offset, content, h, rfl⟩ := textIn?_eq_some_iff.mp htext
      obtain ⟨rfl, hcut⟩ := h.content_eq_nil hword
      have hempty : shortTextIn? out = some "" := shortTextIn?_eq_some_iff.mpr ⟨hword, hcut.symm⟩
      exact hempty.symm

theorem symbolIn?_of_holdsText (h : HoldsText out offset content) :
    symbolIn? out = some (String.ofList (Utf8.decodeLossy content)) := by
  rw [symbolIn?, textIn?_eq_some_iff.mpr ⟨offset, content, h, rfl⟩]
  rfl

theorem symbolIn?_eq_none (htext : ∀ offset content, ¬ HoldsText out offset content)
    (hword : out.length = 32 → ∀ text : String, Utf8.encode text.toList ≠ out.takeWhile (· ≠ 0)) :
    symbolIn? out = none := by
  have hno : textIn? out = none := by
    rw [Option.eq_none_iff_forall_not_mem]
    intro text h
    obtain ⟨offset, content, h, -⟩ := textIn?_eq_some_iff.mp h
    exact htext offset content h
  have hnoWord : shortTextIn? out = none := by
    rw [Option.eq_none_iff_forall_not_mem]
    intro text h
    obtain ⟨hlength, h⟩ := shortTextIn?_eq_some_iff.mp h
    exact hword hlength text h
  rw [symbolIn?, hno, hnoWord]
  rfl

theorem IsSymbol.symbolOfAnswer_eq {answer : Except Fault Bytes} (h : IsSymbol answer text) :
    symbolOfAnswer answer = text := by
  cases h with
  | text h => rw [symbolOfAnswer, symbolIn?_of_holdsText h, Option.getD_some]
  | word hword h =>
      rw [symbolOfAnswer, symbolIn?_of_word hword, shortTextIn?_eq_some_iff.mpr ⟨hword, h⟩,
        Option.getD_some]
  | neither htext hword => rw [symbolOfAnswer, symbolIn?_eq_none htext hword, Option.getD_none]
  | fault => rfl

theorem isSymbol_symbolOfAnswer (answer : Except Fault Bytes) :
    IsSymbol answer (symbolOfAnswer answer) := by
  cases answer with
  | error fault => exact .fault
  | ok out =>
      by_cases htext : ∃ offset content, HoldsText out offset content
      · obtain ⟨offset, content, h⟩ := htext
        rw [symbolOfAnswer, symbolIn?_of_holdsText h]
        exact .text h
      by_cases hword : out.length = 32 ∧ ∃ text : String, Utf8.encode text.toList = out.takeWhile (· ≠ 0)
      · obtain ⟨hlength, text, h⟩ := hword
        rw [IsSymbol.symbolOfAnswer_eq (.word hlength h)]
        exact .word hlength h
      · have hno : ∀ offset content, ¬ HoldsText out offset content := by simpa using htext
        have hnone : out.length = 32 → ∀ text : String,
            Utf8.encode text.toList ≠ out.takeWhile (· ≠ 0) := by simpa using hword
        rw [IsSymbol.symbolOfAnswer_eq (.neither hno hnone)]
        exact .neither hno hnone

/-! ### Reads that notice when they reach too far -/

def addSize (a b : Nat) : Option Nat := if a + b < 2 ^ 64 then some (a + b) else none

def wordAtChecked (out : Bytes) (place : Nat) : Option (Option Nat) := do
  let stop ← addSize place 32
  if stop ≤ out.length then return some (Bytes.toNat (← slice? out place stop)) else return none

def sizeAtChecked (out : Bytes) (place : Nat) : Option (Option Nat) := do
  match ← wordAtChecked out place with
  | some n => if n < 2 ^ 32 then return some n else return none
  | none => return none

def textInChecked (out : Bytes) : Option (Option String) := do
  let some offset ← sizeAtChecked out 0 | return none
  let some length ← sizeAtChecked out offset | return none
  let start ← addSize offset 32
  let stop ← addSize start length
  if stop ≤ out.length then
    return some (String.ofList (Utf8.decodeLossy (← slice? out start stop)))
  else return none

def shortTextInChecked (out : Bytes) : Option (Option String) := do
  if out.length = 32 then
    return (Utf8.decode? (← slice? out 0 (out.findIdx (· == 0)))).map String.ofList
  else return none

/-- `symbolIn?` with every sum and every slice checked; none outside if one of them fails. -/
def symbolInChecked (out : Bytes) : Option (Option String) := do
  match ← textInChecked out with
  | some text => return some text
  | none => shortTextInChecked out

theorem addSize_eq {a b : Nat} (h : a + b < 2 ^ 64) : addSize a b = some (a + b) := if_pos h

theorem wordAtChecked_eq (h : place < 2 ^ 32) : wordAtChecked out place = some (wordAt? out place) := by
  rw [wordAtChecked, wordAt?, addSize_eq (by omega), Option.bind_eq_bind, Option.bind_some]
  by_cases hplace : place + 32 ≤ out.length
  · rw [if_pos hplace, if_pos hplace, slice?_eq hplace]
    rfl
  · rw [if_neg hplace, if_neg hplace]
    rfl

theorem sizeAtChecked_eq (h : place < 2 ^ 32) : sizeAtChecked out place = some (sizeAt? out place) := by
  rw [sizeAtChecked, sizeAt?, wordAtChecked_eq h, Option.bind_eq_bind, Option.bind_some]
  cases wordAt? out place with
  | none => rfl
  | some n => exact (apply_ite some (n < 2 ^ 32) (some n) none).symm

theorem textInChecked_eq (out : Bytes) : textInChecked out = some (textIn? out) := by
  rw [textInChecked, textIn?, sizeAtChecked_eq (by decide)]
  cases hoffset : sizeAt? out 0 with
  | none => rfl
  | some offset =>
      have hoffset := (sizeAt?_eq_some_iff.mp hoffset).1
      simp only [Option.bind_eq_bind, Option.bind_some, sizeAtChecked_eq hoffset]
      cases hlength : sizeAt? out offset with
      | none => rfl
      | some length =>
          have hlength := (sizeAt?_eq_some_iff.mp hlength).1
          simp only [Option.bind_some, addSize_eq (a := offset) (b := 32) (by omega),
            addSize_eq (a := offset + 32) (b := length) (by omega)]
          by_cases hfits : offset + 32 + length ≤ out.length
          · rw [if_pos hfits, slice?_eq hfits, if_pos hfits]
            rfl
          · rw [if_neg hfits, if_neg hfits]
            rfl

theorem shortTextInChecked_eq (out : Bytes) : shortTextInChecked out = some (shortTextIn? out) := by
  have hcut : out.takeWhile (· ≠ 0) = out.take (out.findIdx (· == 0)) := by
    rw [List.takeWhile_eq_take_findIdx_not]
    simp [beq_eq_decide]
  have hslice : slice? out 0 (out.findIdx (· == 0)) = some (out.take (out.findIdx (· == 0))) := by
    rw [slice?, if_pos ⟨Nat.zero_le _, List.findIdx_le_length⟩, List.drop_zero]
  rw [shortTextInChecked, shortTextIn?, hcut, hslice]
  exact (apply_ite some (out.length = 32) _ none).symm

/-- However hostile its offset and its length are, an answer is read without a failing sum or slice. -/
theorem symbolInChecked_eq (out : Bytes) : symbolInChecked out = some (symbolIn? out) := by
  rw [symbolInChecked, symbolIn?, textInChecked_eq, shortTextInChecked_eq, Option.bind_eq_bind,
    Option.bind_some]
  cases textIn? out <;> rfl

section

variable {σ : Type} (token : Address) (services : Services σ) (s : σ)

theorem run_symbol : (symbol token).run services s =
    (.ok (symbolOfAnswer (services.read "symbol" (symbolCall token) s).1),
      (services.read "symbol" (symbolCall token) s).2) := rfl

end

/-- A symbol is the text that an answer holds by one of the two conventions, and otherwise the text of a fault.
-/
theorem symbol_follows_both_conventions :
    (∀ {σ : Type} (token : Address) (services : Services σ) s,
      (symbol token).run services s =
        (.ok (symbolOfAnswer (services.read "symbol" (symbolCall token) s).1),
          (services.read "symbol" (symbolCall token) s).2)) ∧
    (∀ token provider executor ctx start,
      ((symbol token).play provider executor ctx start).trace =
        [.called ⟨token, [0x95, 0xd8, 0x9b, 0x41]⟩]) ∧
    (∀ answer text, symbolOfAnswer answer = text ↔ IsSymbol answer text) ∧
    (∀ (text : String) behind, (Utf8.encode text.toList).length < 2 ^ 32 →
      symbolOfAnswer (.ok (textAnswer text ++ behind)) = text) ∧
    (∀ out : Bytes, out.length = 32 →
      (∀ text : String, Utf8.encode text.toList = out.takeWhile (· ≠ 0) →
        symbolOfAnswer (.ok out) = text) ∧
      ((∀ text : String, Utf8.encode text.toList ≠ out.takeWhile (· ≠ 0)) →
        symbolOfAnswer (.ok out) = noSymbol.message)) ∧
    (∀ out : Bytes, out.length < 32 → symbolOfAnswer (.ok out) = noSymbol.message) ∧
    (∀ out, symbolInChecked out = some (symbolIn? out)) ∧
    (∀ fault, symbolOfAnswer (.error fault) = fault.message) ∧
    noSymbol.message = "Erro de RPC: symbol sem retorno válido" := by
  refine ⟨run_symbol, fun token provider executor ctx start => ?_,
    fun answer text => ⟨fun h => h ▸ isSymbol_symbolOfAnswer answer, IsSymbol.symbolOfAnswer_eq⟩,
    fun text behind hlength => ?_, fun out hword => ⟨fun text h => (IsSymbol.word hword h).symbolOfAnswer_eq,
      fun h => ?_⟩, fun out hshort => ?_, symbolInChecked_eq, fun fault => rfl, by decide⟩
  · simp only [Procedure.play, run_symbol, scripted, World.record, symbolCall, symbolSelector_eq,
      List.nil_append]
  · have hsymbol := (IsSymbol.text (holdsText_textAnswer hlength behind)).symbolOfAnswer_eq
    rwa [Utf8.decodeLossy_encode, String.ofList_toList] at hsymbol
  · refine (IsSymbol.neither (fun offset content hholds => ?_) fun _ => h).symbolOfAnswer_eq
    exact h "" (hholds.content_eq_nil hword).2.symm
  · refine (IsSymbol.neither (fun offset content hholds => ?_) fun hword => ?_).symbolOfAnswer_eq
    · have hlength := hholds.length_le
      omega
    · omega

theorem sampleSymbols :
    symbolOfAnswer (.ok (textAnswer "WBNB")) = "WBNB" ∧
      symbolOfAnswer (.ok ([0x4d, 0x4b, 0x52] ++ List.replicate 29 0)) = "MKR" ∧
      symbolOfAnswer (.ok (List.replicate 32 0)) = "" ∧
      symbolOfAnswer (.ok (List.replicate 31 0 ++ [0x20])) = "" ∧
      symbolOfAnswer (.ok (List.replicate 32 0xff)) = noSymbol.message ∧
      symbolOfAnswer (.ok (List.replicate 31 0x4d)) = noSymbol.message := by
  obtain ⟨-, -, -, htext, hword, hshort, -⟩ := symbol_follows_both_conventions
  have hnone : Utf8.decode? ((List.replicate 32 0xff : Bytes).takeWhile (· ≠ 0)) = none := by
    decide +kernel
  refine ⟨?_, (hword _ (by decide)).1 "MKR" (by decide +kernel),
    (hword _ (by decide)).1 "" (by decide +kernel), (hword _ (by decide)).1 "" (by decide +kernel),
    (hword _ (by decide)).2 fun text h => ?_, hshort _ (by decide)⟩
  · have h := htext "WBNB" [] (by decide +kernel)
    rwa [List.append_nil] at h
  · have hread := Utf8.decode?_eq_some_iff.mpr h
    rw [hnone] at hread
    cases hread

end LiquidityTrigger.Token
