import LiquidityTrigger.Json.Codec
import LiquidityTrigger.Proofs.Json.Atoms

/-!
# Codecs that read what they write

A codec is inverted when every value is read back from its own text, in front of anything that does not
continue a numeral and behind any blanks, in every style that adds nothing but blanks. That is what the
codec of a record or of a list needs to know about the codecs of its parts, so it is shown here for atoms
and lists and carried up from there.
-/

namespace LiquidityTrigger.Json

/-- A style that adds nothing but blanks. -/
structure Style.Blank (style : Style) : Prop where
  lineBreak : ∀ depth, Blanks (style.lineBreak depth)
  colon : ∃ blanks, Blanks blanks ∧ style.colon = ':' :: blanks

theorem Style.blank_compact : Style.compact.Blank where
  lineBreak := fun _ => blanks_nil
  colon := ⟨[], blanks_nil, rfl⟩

theorem Style.blank_pretty : Style.pretty.Blank where
  lineBreak := by
    intro depth c hc
    rcases List.mem_cons.mp hc with rfl | hc
    · rfl
    · rw [List.eq_of_mem_replicate hc]
      rfl
  colon := by
    refine ⟨[' '], ?_, rfl⟩
    intro c hc
    rw [List.mem_singleton.mp hc]
    rfl

/-- A reader gives a value for a text, behind blanks and in front of the rest of a text. -/
def Restores {α : Type} (read : Reader α) (text : List Char) (a : α) : Prop :=
  ∀ front rest, Blanks front → Closed rest → read (front ++ (text ++ rest)) = .ok (a, rest)

theorem Restores.apply {α : Type} {read : Reader α} {text : List Char} {a : α}
    (h : Restores read text a) {rest : List Char} (hrest : Closed rest) :
    read (text ++ rest) = .ok (a, rest) := h [] rest blanks_nil hrest

/-- Every value is read back from its own text. -/
def Codec.Inverts {α : Type} (c : Codec α) : Prop :=
  ∀ style : Style, style.Blank → ∀ depth a, Restores c.read ((c.write a).render style depth) a

def StartsOutside (avoided : List Char) (text : List Char) : Prop :=
  ∃ c cs, text = c :: cs ∧ isBlank c = false ∧ c ∉ avoided

/-! ### Texts -/

theorem quote_append (s : String) (rest : List Char) :
    quote s ++ rest = '"' :: (s.toList.flatMap escape ++ '"' :: rest) := by
  simp [quote]

theorem readString_quote {front : List Char} (hfront : Blanks front) (s : String) (rest : List Char) :
    readString (front ++ (quote s ++ rest)) = .ok (s, rest) := by
  rw [quote_append, readString, skipBlank_append_cons hfront (by decide)]
  exact readText_quote s rest

theorem quote_starts (s : String) {avoided : List Char} (h : '"' ∉ avoided) :
    StartsOutside avoided (quote s) := ⟨'"', _, rfl, by decide, h⟩

theorem Codec.text_inverts : Codec.text.Inverts := by
  intro style _ depth s front rest hfront _
  rw [text, Value.render]
  exact readString_quote hfront s rest

theorem Codec.ofText_inverts {α : Type} {wanted : String} {toText : α → String}
    {ofText? : String → Option α} (h : ∀ a, ofText? (toText a) = some a) :
    (Codec.ofText wanted toText ofText?).Inverts := by
  intro style _ depth a front rest hfront _
  change Codec.read _ (front ++ (quote (toText a) ++ rest)) = _
  rw [ofText]
  simp only [readString_quote hfront, bind, Except.bind, h a, pure, Except.pure]

/-! ### Counters -/

theorem exists_digits_eq_cons (n : Nat) :
    ∃ d ds, Decimal.digits n = d :: ds ∧ Decimal.isDigit d = true := by
  obtain ⟨d, ds, hdigits⟩ := List.exists_cons_of_ne_nil (Decimal.digits_ne_nil n)
  have hmem : d ∈ Decimal.digits n := hdigits ▸ List.mem_cons_self
  exact ⟨d, ds, hdigits, Decimal.isDigit_of_mem_digits hmem⟩

theorem render_counter (style : Style) (depth : Nat) (n : UInt64) :
    (Value.counter n).render style depth = Decimal.digits n.toNat := by
  rw [Value.counter, Value.render, Number.text, Decimal.text, String.toList_ofList]

theorem counter_starts (style : Style) (depth : Nat) (n : UInt64) {avoided : List Char}
    (h : ∀ c ∈ avoided, Decimal.isDigit c = false) :
    StartsOutside avoided ((Value.counter n).render style depth) := by
  obtain ⟨d, ds, hdigits, hd⟩ := exists_digits_eq_cons n.toNat
  refine ⟨d, ds, ?_, isBlank_of_isDigit hd, ?_⟩
  · rw [render_counter, hdigits]
  · intro hmem
    exact ne_of_isDigit hd (h d hmem) rfl

theorem readCounter_restores (wanted : String) {bound : Nat} {n : UInt64} (h : n.toNat < bound) :
    Restores (readCounter wanted bound) (Decimal.digits n.toNat) n.toNat := by
  intro front rest hfront hrest
  have hread := readNumber_digits n.toNat_lt hrest
  obtain ⟨d, ds, hdigits, hd⟩ := exists_digits_eq_cons n.toNat
  rw [hdigits, List.cons_append] at hread ⊢
  rw [readCounter, skipBlank_append_cons hfront (isBlank_of_isDigit hd)]
  dsimp only
  -- A digit is no minus.
  split
  · rename_i hnil
    cases hnil
  · rename_i hminus
    exact absurd (List.cons.inj hminus).1 (ne_of_isDigit hd rfl)
  · rename_i hsame
    obtain ⟨rfl, rfl⟩ := List.cons.inj hsame
    rw [if_pos hd, hread, UInt64.ofNat_toNat]
    exact if_pos h

theorem Codec.counter_inverts : Codec.counter.Inverts := by
  intro style _ depth n front rest hfront hrest
  have hread := readCounter_restores "u64" n.toNat_lt front rest hfront hrest
  change Codec.counter.read (front ++ ((Value.counter n).render style depth ++ rest)) = _
  rw [render_counter, counter]
  simp only [hread, bind, Except.bind, pure, Except.pure, UInt64.ofNat_toNat]

theorem Codec.byte_inverts : Codec.byte.Inverts := by
  intro style _ depth b front rest hfront hrest
  have hvalue : (UInt64.ofNat b.toNat).toNat = b.toNat :=
    UInt64.toNat_ofNat_of_lt' (Nat.lt_trans b.toNat_lt (by decide))
  have hbound : (UInt64.ofNat b.toNat).toNat < 256 := by
    rw [hvalue]
    exact b.toNat_lt
  have hread := readCounter_restores "u8" hbound front rest hfront hrest
  change Codec.byte.read (front ++ ((Value.counter _).render style depth ++ rest)) = _
  rw [hvalue] at hread
  rw [render_counter, hvalue, byte]
  simp only [hread, bind, Except.bind, pure, Except.pure, UInt8.ofNat_toNat]

/-! ### Lists -/

section

variable (style : Style) (depth : Nat)

theorem renderElements_cons_append (v : Value) (vs : List Value) (tail : List Char) :
    renderElements style depth (v :: vs) ++ tail =
      ',' :: (style.lineBreak depth ++
        (v.render style depth ++ (renderElements style depth vs ++ tail))) := by
  rw [renderElements]
  simp only [List.cons_append, List.append_assoc]

theorem render_array_append (v : Value) (vs : List Value) (tail : List Char) :
    (Value.array (v :: vs)).render style depth ++ tail =
      '[' :: (style.lineBreak (depth + 1) ++ (v.render style (depth + 1) ++
        (renderElements style (depth + 1) vs ++ (style.lineBreak depth ++ ']' :: tail)))) := by
  rw [Value.render]
  simp only [List.cons_append, List.append_assoc, List.nil_append]

theorem length_le_renderElements (vs : List Value) :
    vs.length ≤ (renderElements style depth vs).length := by
  induction vs with
  | nil => exact Nat.zero_le _
  | cons v vs ih =>
      rw [renderElements, List.length_append, List.length_cons, List.cons_append, List.length_cons]
      omega

/-- What stands behind an element does not continue it. -/
theorem closed_renderElements (vs : List Value) {closing : List Char} (hclosing : Blanks closing)
    (rest : List Char) : Closed (renderElements style depth vs ++ (closing ++ ']' :: rest)) := by
  cases vs with
  | nil => exact closed_append_cons hclosing (by decide) rest
  | cons v vs =>
      rw [renderElements_cons_append]
      exact closed_cons (by decide) _

variable {style depth} {α : Type} {read : Reader α} {write : α → Value} {closing : List Char}

theorem nextElement_end (first : Bool) (hclosing : Blanks closing) (rest : List Char) :
    nextElement first (closing ++ ']' :: rest) = .ok none := by
  rw [nextElement, skipBlank_append_cons hclosing (by decide)]
  rfl

theorem nextElement_first {text front : List Char} (hfront : Blanks front)
    (h : StartsOutside [']'] text) (rest : List Char) :
    nextElement true (front ++ (text ++ rest)) = .ok (some (text ++ rest)) := by
  obtain ⟨c, cs, rfl, hblank, hc⟩ := h
  rw [List.cons_append, nextElement, skipBlank_append_cons hfront hblank]
  split
  · rename_i hnil
    cases hnil
  · rename_i hbracket
    exact absurd (List.mem_singleton.mpr (List.cons.inj hbracket).1) hc
  · rename_i hsame
    cases hsame
    rfl

theorem nextElement_comma {text front : List Char} (hfront : Blanks front)
    (h : StartsOutside [']'] text) (rest : List Char) :
    nextElement false (',' :: (front ++ (text ++ rest))) = .ok (some (text ++ rest)) := by
  obtain ⟨c, cs, rfl, hblank, hc⟩ := h
  rw [List.cons_append, nextElement, skipBlank_cons (by decide)]
  split
  · rename_i hnil
    cases hnil
  · rename_i hbracket
    cases hbracket
  · rename_i hcomma
    obtain ⟨rfl, rfl⟩ := List.cons.inj hcomma
    rw [if_neg Bool.false_ne_true, if_pos rfl, skipBlank_append_cons hfront hblank]
    split
    · rename_i hnil
      cases hnil
    · rename_i hbracket
      exact absurd (List.mem_singleton.mpr (List.cons.inj hbracket).1) hc
    · rfl

theorem readElements_restores (hstyle : style.Blank) (hclosing : Blanks closing) {as : List α}
    (hread : ∀ a ∈ as, Restores read ((write a).render style depth) a)
    (hstarts : ∀ a ∈ as, StartsOutside [']'] ((write a).render style depth)) (rest : List Char)
    {bound : Nat} (hbound : as.length < bound) :
    readElements read bound false
        (renderElements style depth (as.map write) ++ (closing ++ ']' :: rest)) =
      .ok (as, closing ++ ']' :: rest) := by
  induction as generalizing bound with
  | nil =>
      obtain ⟨bound, rfl⟩ := Nat.exists_eq_add_one_of_ne_zero (Nat.ne_zero_of_lt hbound)
      rw [List.map_nil, renderElements, List.nil_append, readElements,
        nextElement_end false hclosing]
      rfl
  | cons a as ih =>
      obtain ⟨bound, rfl⟩ := Nat.exists_eq_add_one_of_ne_zero (Nat.ne_zero_of_lt hbound)
      obtain ⟨hread, hothers⟩ := List.forall_mem_cons.mp hread
      obtain ⟨hstarts, hotherStarts⟩ := List.forall_mem_cons.mp hstarts
      have hbehind := ih hothers hotherStarts (Nat.lt_of_succ_lt_succ hbound)
      have hclosed := closed_renderElements style depth (as.map write) hclosing rest
      rw [List.map_cons, renderElements_cons_append, readElements,
        nextElement_comma (hstyle.lineBreak depth) hstarts]
      simp only [bind, Except.bind, hread.apply hclosed, hbehind, pure, Except.pure]

theorem readListEnd_blanks (hclosing : Blanks closing) (rest : List Char) :
    readListEnd (closing ++ ']' :: rest) = .ok rest := by
  rw [readListEnd, skipBlank_append_cons hclosing (by decide)]
  rfl

end

theorem readElements_of_list {α : Type} {read : Reader α} (write : α → Value) {style : Style} {depth : Nat}
    (hstyle : style.Blank) (as : List α)
    (hread : ∀ a ∈ as, Restores read ((write a).render style (depth + 1)) a)
    (hstarts : ∀ a ∈ as, StartsOutside [']'] ((write a).render style (depth + 1))) (rest : List Char) :
    ∃ behind closing, (Value.array (as.map write)).render style depth ++ rest = '[' :: behind ∧
      readElements read (behind.length + 1) true behind = .ok (as, closing ++ ']' :: rest) ∧
      Blanks closing := by
  cases as with
  | nil =>
      refine ⟨']' :: rest, [], by rw [List.map_nil, Value.render]; rfl, ?_, blanks_nil⟩
      have hend := nextElement_end true blanks_nil rest
      simp only [readElements, List.nil_append] at hend ⊢
      rw [hend]
      rfl
  | cons a as =>
      obtain ⟨hread, hothers⟩ := List.forall_mem_cons.mp hread
      obtain ⟨hstarts, hotherStarts⟩ := List.forall_mem_cons.mp hstarts
      have hclosing := hstyle.lineBreak depth
      have hclosed := closed_renderElements style (depth + 1) (as.map write) hclosing rest
      have hlength := length_le_renderElements style (depth + 1) (as.map write)
      rw [List.length_map] at hlength
      refine ⟨_, style.lineBreak depth, render_array_append style depth (write a) (as.map write) rest, ?_,
        hclosing⟩
      have hfits : as.length < (style.lineBreak (depth + 1) ++
          ((write a).render style (depth + 1) ++
            (renderElements style (depth + 1) (as.map write) ++
              (style.lineBreak depth ++ ']' :: rest)))).length := by
        simp only [List.length_append, List.length_cons]
        omega
      have hbehind := readElements_restores hstyle hclosing hothers hotherStarts rest hfits
      have hfirst := nextElement_first (hstyle.lineBreak (depth + 1)) hstarts
      simp only [readElements, hfirst, bind, Except.bind, hread.apply hclosed, hbehind, pure, Except.pure]

theorem readList_restores {α : Type} {wanted : String} {read : Reader α} {write : α → Value}
    {style : Style} {depth : Nat} (hstyle : style.Blank)
    (hread : ∀ a, Restores read ((write a).render style (depth + 1)) a)
    (hstarts : ∀ a, StartsOutside [']'] ((write a).render style (depth + 1))) (as : List α) :
    Restores (readList wanted read) ((Value.array (as.map write)).render style depth) as := by
  intro front rest hfront _
  obtain ⟨behind, closing, hrender, helements, hclosing⟩ :=
    readElements_of_list write hstyle as (fun a _ => hread a) (fun a _ => hstarts a) rest
  rw [hrender, readList, skipBlank_append_cons hfront (by decide)]
  simp only [helements, bind, Except.bind, pure, Except.pure, readListEnd_blanks hclosing]

theorem Codec.bytes_inverts : Codec.bytes.Inverts := by
  intro style hstyle depth bs
  apply readList_restores hstyle
  · intro b
    exact byte_inverts style hstyle (depth + 1) b
  · intro b
    exact counter_starts style (depth + 1) _ (List.forall_mem_singleton.mpr rfl)

/-! ### Values that may be missing -/

/-- What stands for a value is not the `null` that stands for none. -/
theorem Codec.optional_inverts {α : Type} {c : Codec α} (h : c.Inverts)
    (hstarts : ∀ style depth a, StartsOutside ['n'] ((c.write a).render style depth)) :
    c.optional.Inverts := by
  intro style hstyle depth a? front rest hfront hrest
  cases a? with
  | none =>
      change c.optional.read (front ++ 'n' :: ("ull".toList ++ rest)) = _
      rw [optional]
      dsimp only
      rw [skipBlank_append_cons hfront (by decide)]
      rfl
  | some a =>
      have hread := (h style hstyle depth a).apply hrest
      obtain ⟨d, ds, hrender, hblank, hd⟩ := hstarts style depth a
      change c.optional.read (front ++ ((c.write a).render style depth ++ rest)) = _
      rw [hrender, List.cons_append] at hread ⊢
      rw [optional]
      dsimp only
      rw [skipBlank_append_cons hfront hblank]
      split
      · rename_i hnull
        exact absurd (List.mem_singleton.mpr (List.cons.inj hnull).1) hd
      · rw [hread]
        rfl

/-! ### Whole texts -/

theorem Codec.Inverts.parse_compact {α : Type} {c : Codec α} (h : c.Inverts) (a : α) :
    c.parse (c.compact a) = .ok a := by
  have hread := (h .compact Style.blank_compact 0 a).apply closed_nil
  rw [List.append_nil] at hread
  rw [parse, compact, Value.compact, String.toList_ofList, hread]
  rfl

theorem Codec.Inverts.parse_pretty {α : Type} {c : Codec α} (h : c.Inverts) (a : α) :
    c.parse (c.pretty a) = .ok a := by
  have hread := (h .pretty Style.blank_pretty 0 a).apply closed_nil
  rw [List.append_nil] at hread
  rw [parse, pretty, Value.pretty, String.toList_ofList, hread]
  rfl

end LiquidityTrigger.Json
