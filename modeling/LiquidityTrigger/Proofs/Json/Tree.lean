import LiquidityTrigger.Json.Tree
import LiquidityTrigger.Proofs.Json.Record
import LiquidityTrigger.Proofs.Result

/-!
# Values of a JSON text read back

A text and an integer read back wherever a value may stand, and a list or an object reads back if what is
in it does: each element or member leaves the reader in front of the next one, and the bracket or brace behind
the last one ends it. So every value without doubles reads back, as long as it is not nested too deep.

The other way round, a text is read only where a quote stands, and the text of any other value starts with
something else. So a value that is not a text is never read as one, whatever becomes of it otherwise.
-/

namespace LiquidityTrigger.Json

theorem readValue_blanks {front : List Char} (hfront : Blanks front) (depth : Nat) (cs : List Char) :
    readValue depth (front ++ cs) = readValue depth cs := by
  cases depth with
  | zero => rfl
  | succ depth => rw [readValue, readValue, skipBlank_append hfront]

theorem readValue_quote (depth : Nat) (s : String) (tail : List Char) :
    readValue (depth + 1) (quote s ++ tail) = .ok (.text s, tail) := by
  rw [quote_append]
  change (readText _ >>= fun _ => _) = _
  rw [readText_quote]
  rfl

theorem readValue_of_digit (depth : Nat) {cs rest : List Char} {d : Char} {n : Number}
    (hd : Decimal.isDigit d = true) (hread : readNumber false (d :: cs) = .ok (n, rest)) :
    readValue (depth + 1) (d :: cs) = .ok (.number n, rest) := by
  rw [readValue, skipBlank_cons (isBlank_of_isDigit hd)]
  -- A digit is none of the characters that start another value.
  split
  case h_1 h => cases h
  case h_9 h =>
    obtain ⟨rfl, rfl⟩ := List.cons.inj h
    rw [if_pos hd, hread]
    rfl
  all_goals exact absurd (List.cons.inj ‹_›).1 (ne_of_isDigit hd rfl)

theorem readValue_counter (depth : Nat) (n : UInt64) {rest : List Char} (hrest : Closed rest) :
    readValue (depth + 1) ((Number.counter n).text.toList ++ rest) = .ok (.number (.counter n), rest) := by
  have hread := readNumber_digits n.toNat_lt hrest
  obtain ⟨d, ds, hdigits, hd⟩ := exists_digits_eq_cons n.toNat
  rw [hdigits, UInt64.ofNat_toNat, List.cons_append] at hread
  rw [Number.text, Decimal.text, String.toList_ofList, hdigits, List.cons_append]
  exact readValue_of_digit depth hd hread

theorem readValue_negative (depth : Nat) {n : Nat} (hpos : 1 ≤ n) (hbound : n ≤ 2 ^ 63)
    {rest : List Char} (hrest : Closed rest) :
    readValue (depth + 1) ((Number.negative n).text.toList ++ rest) = .ok (.number (.negative n), rest) := by
  have htext : (Number.negative n).text.toList = '-' :: Decimal.digits n := by
    simp only [Number.text, Decimal.text, String.toList_append, String.toList_ofList]
    rfl
  rw [htext]
  change (readNumber true (Decimal.digits n ++ rest) >>= fun _ => _) = _
  rw [readNumber_negative hpos hbound hrest]
  rfl

/-! ### Objects -/

def separator (first : Bool) : List Char := if first then [] else [',']

theorem nextKey_separator (first : Bool) (rest : List Char) :
    nextKey first (separator first ++ '"' :: rest) = .ok (.inl rest) := by
  cases first with
  | true => exact nextKey_first blanks_nil rest
  | false => exact nextKey_comma blanks_nil rest

/-- Members whose values read back are read, up to the brace behind them. -/
theorem readMembers_restores {value : Reader Value} {style : Style} (hstyle : style.Blank) {depth : Nat}
    {closing : List Char} (hclosing : Blanks closing) {members : List (String × Value)}
    (hvalues : ∀ member ∈ members, Restores value (member.2.render style depth) member.2)
    (rest : List Char) {bound : Nat} (hbound : members.length < bound) :
    readMembers value bound false (renderMembers style depth members ++ (closing ++ '\x7d' :: rest)) =
      .ok (members, rest) := by
  induction members generalizing bound with
  | nil =>
      obtain ⟨bound, rfl⟩ := Nat.exists_eq_add_one_of_ne_zero (Nat.ne_zero_of_lt hbound)
      rw [renderMembers, List.nil_append, readMembers, nextKey_end false hclosing]
      rfl
  | cons member members ih =>
      obtain ⟨key, v⟩ := member
      obtain ⟨bound, rfl⟩ := Nat.exists_eq_add_one_of_ne_zero (Nat.ne_zero_of_lt hbound)
      obtain ⟨hvalue, hothers⟩ := List.forall_mem_cons.mp hvalues
      have hbehind := ih hothers (Nat.lt_of_succ_lt_succ hbound)
      obtain ⟨behind, hcolon, hread⟩ :=
        hvalue.behind_colon hstyle (closed_renderMembers style depth members hclosing rest)
      rw [renderMembers_cons_append, quote_append, readMembers, nextKey_comma (hstyle.lineBreak depth)]
      simp only [readText_quote, hcolon, hread, hbehind, bind, Except.bind, pure, Except.pure]

theorem readMembers_of_object {value : Reader Value} {style : Style} (hstyle : style.Blank) {depth : Nat}
    {members : List (String × Value)}
    (hvalues : ∀ member ∈ members, Restores value (member.2.render style (depth + 1)) member.2)
    (rest : List Char) :
    ∃ behind, (Value.object members).render style depth ++ rest = '\x7b' :: behind ∧
      readMembers value (behind.length + 1) true behind = .ok (members, rest) := by
  cases members with
  | nil =>
      refine ⟨'\x7d' :: rest, by rw [Value.render]; rfl, ?_⟩
      have hend : nextKey true ('\x7d' :: rest) = .ok (.inr rest) := nextKey_end true blanks_nil rest
      rw [readMembers, hend]
      rfl
  | cons member members =>
      obtain ⟨key, v⟩ := member
      obtain ⟨hvalue, hothers⟩ := List.forall_mem_cons.mp hvalues
      have hclosing := hstyle.lineBreak depth
      refine ⟨_, render_object_append style depth key v members rest, ?_⟩
      have hlength := length_le_renderMembers style (depth + 1) members
      obtain ⟨behind, hcolon, hread⟩ :=
        hvalue.behind_colon hstyle (closed_renderMembers style (depth + 1) members hclosing rest)
      have hfits : members.length < (style.lineBreak (depth + 1) ++ (quote key ++ (style.colon ++
          (v.render style (depth + 1) ++ (renderMembers style (depth + 1) members ++
            (style.lineBreak depth ++ '\x7d' :: rest)))))).length := by
        simp only [List.length_append, List.length_cons]
        omega
      have hbehind := readMembers_restores hstyle hclosing hothers rest hfits
      rw [quote_append] at hbehind ⊢
      rw [readMembers, nextKey_first (hstyle.lineBreak (depth + 1))]
      simp only [readText_quote, hcolon, hread, hbehind, bind, Except.bind, pure, Except.pure]

theorem exists_of_readMembers {α : Type} {value : Reader α} {bound : Nat} {first : Bool} {key : String}
    {rest tail : List Char} {members : List (String × α)}
    (h : readMembers value (bound + 1) first (separator first ++ (quote key ++ ':' :: rest)) =
      .ok (members, tail)) :
    ∃ a behind others, value rest = .ok (a, behind) ∧
      readMembers value bound false behind = .ok (others, tail) ∧ members = (key, a) :: others := by
  have hcolon : readColon (':' :: rest) = .ok rest := by
    rw [readColon, skipBlank_cons (by decide)]
    rfl
  rw [quote_append, readMembers, nextKey_separator] at h
  change (readText _ >>= fun _ => _) = _ at h
  obtain ⟨read, hkey, h⟩ := bind_eq_ok.mp h
  rw [readText_quote] at hkey
  cases hkey
  obtain ⟨read, hread, h⟩ := bind_eq_ok.mp h
  rw [hcolon] at hread
  cases hread
  obtain ⟨⟨a, behind⟩, hvalue, h⟩ := bind_eq_ok.mp h
  obtain ⟨⟨others, rest⟩, hothers, h⟩ := bind_eq_ok.mp h
  cases h
  exact ⟨a, behind, others, hvalue, hothers, rfl⟩

theorem exists_of_readValue_object {depth : Nat} {rest tail : List Char} {v : Value}
    (h : readValue (depth + 2) ('\x7b' :: rest) = .ok (v, tail)) :
    ∃ members, readMembers (readValue (depth + 1)) (rest.length + 1) true rest = .ok (members, tail) ∧
      v = .object members := by
  change (readMembers (readValue (depth + 1)) (rest.length + 1) true rest >>= fun _ => _) = _ at h
  obtain ⟨⟨members, behind⟩, hmembers, h⟩ := bind_eq_ok.mp h
  cases h
  exact ⟨members, hmembers, rfl⟩

/-! ### Where values start -/

/-- What a value starts with, unless it is a text or a number without a sign. -/
def marks : List Char := ['n', 't', 'f', '-', '[', '\x7b']

/-- Characters that no value but a text starts with. -/
def Foreign (avoided : List Char) : Prop := ∀ c ∈ avoided, Decimal.isDigit c = false ∧ c ∉ marks

theorem foreign_bracket : Foreign [']'] := List.forall_mem_singleton.mpr (by decide)

theorem foreign_quote : Foreign ['"'] := List.forall_mem_singleton.mpr (by decide)

section

variable {avoided : List Char} (havoided : Foreign avoided)

include havoided

theorem starts_of_isDigit {d : Char} (hd : Decimal.isDigit d = true) (tail : List Char) :
    StartsOutside avoided (d :: tail) :=
  ⟨d, tail, rfl, isBlank_of_isDigit hd, fun hmem => ne_of_isDigit hd (havoided d hmem).1 rfl⟩

theorem starts_of_mark {c : Char} (hc : c ∈ marks) (tail : List Char) :
    StartsOutside avoided (c :: tail) := by
  have hbare : marks.any isBlank = false := by decide
  have hblank : ¬ isBlank c = true := List.any_eq_false.mp hbare c hc
  exact ⟨c, tail, rfl, Bool.eq_false_iff.mpr hblank, fun hmem => (havoided c hmem).2 hc⟩

theorem layout_starts (l : Shortest.Layout) (s : Shortest.Scientific) :
    StartsOutside avoided (l.render s) := by
  obtain ⟨d, ds, hdigits, hd⟩ := exists_digits_eq_cons s.digits
  rw [Shortest.Layout.render]
  simp only [hdigits, List.cons_append, List.take_succ_cons, List.append_assoc]
  split_ifs
  case neg => exact starts_of_isDigit havoided rfl _
  all_goals exact starts_of_isDigit havoided hd _

theorem number_starts (n : Number) : StartsOutside avoided n.text.toList := by
  cases n with
  | counter n =>
      obtain ⟨d, ds, hdigits, hd⟩ := exists_digits_eq_cons n.toNat
      rw [Number.text, Decimal.text, String.toList_ofList, hdigits]
      exact starts_of_isDigit havoided hd ds
  | negative magnitude =>
      rw [Number.text, String.toList_append]
      exact starts_of_mark havoided (by decide) _
  | double bits =>
      rw [Number.text, Shortest.Layout.float, String.toList_ofList]
      split
      · exact starts_of_mark havoided (by decide) _
      · rw [List.nil_append]
        split
        · exact starts_of_isDigit havoided rfl _
        · exact layout_starts havoided doubleLayout _

theorem render_starts (style : Style) (depth : Nat) {v : Value} (hv : '"' ∈ avoided → ∀ s, v ≠ .text s) :
    StartsOutside avoided (v.render style depth) := by
  cases v with
  | null => exact starts_of_mark havoided (by decide) _
  | boolean b => cases b <;> exact starts_of_mark havoided (by decide) _
  | number n =>
      rw [Value.render]
      exact number_starts havoided n
  | text s => exact quote_starts s fun hmem => hv hmem s rfl
  | array elements =>
      cases elements with
      | nil =>
          rw [Value.render]
          exact starts_of_mark havoided (by decide) [']']
      | cons v vs =>
          have hrender := render_array_append style depth v vs []
          rw [List.append_nil] at hrender
          rw [hrender]
          exact starts_of_mark havoided (by decide) _
  | object members =>
      cases members with
      | nil =>
          rw [Value.render]
          exact starts_of_mark havoided (by decide) ['\x7d']
      | cons member members =>
          have hrender := render_object_append style depth member.1 member.2 members []
          rw [List.append_nil] at hrender
          rw [hrender]
          exact starts_of_mark havoided (by decide) _

end

/-! ### Values without doubles -/

/-- A value without doubles in which fewer lists and objects are nested than the depth. -/
def Value.Plain : Nat → Value → Prop
  | 0, _ => False
  | _ + 1, .null => True
  | _ + 1, .boolean _ => True
  | _ + 1, .text _ => True
  | _ + 1, .number (.counter _) => True
  | _ + 1, .number (.negative magnitude) => 1 ≤ magnitude ∧ magnitude ≤ 2 ^ 63
  | _ + 1, .number (.double _) => False
  | depth + 1, .array vs => depth ≠ 0 ∧ ∀ v ∈ vs, Plain depth v
  | depth + 1, .object members => depth ≠ 0 ∧ ∀ member ∈ members, Plain depth member.2

/-- A value without doubles is read back, if it is not nested too deep. -/
theorem Value.Plain.readValue_restores {style : Style} (hstyle : style.Blank) {depth : Nat} {v : Value}
    (h : v.Plain depth) (n : Nat) : Restores (readValue depth) (v.render style n) v := by
  intro front rest hfront hrest
  induction depth generalizing v n front rest with
  | zero => cases h
  | succ depth ih =>
      rw [readValue_blanks hfront]
      cases v with
      | null => rfl
      | boolean b => cases b <;> rfl
      | text s => exact readValue_quote depth s rest
      | number k =>
          cases k with
          | counter k => exact readValue_counter depth k hrest
          | negative magnitude => exact readValue_negative depth h.1 h.2 hrest
          | double bits => cases h
      | array vs =>
          obtain ⟨hdepth, hvs⟩ := h
          obtain ⟨depth, rfl⟩ := Nat.exists_eq_add_one_of_ne_zero hdepth
          have hread : ∀ v ∈ vs, Restores (readValue (depth + 1)) (v.render style (n + 1)) v :=
            fun v hv => ih (hvs v hv) (n + 1)
          have hstarts : ∀ v ∈ vs, StartsOutside [']'] (v.render style (n + 1)) :=
            fun v _ => render_starts foreign_bracket style (n + 1) fun h => absurd h (by decide)
          obtain ⟨behind, closing, hrender, helements, hclosing⟩ :=
            readElements_of_list id hstyle vs hread hstarts rest
          rw [List.map_id] at hrender
          rw [hrender]
          change (readElements (readValue (depth + 1)) (behind.length + 1) true behind >>= fun _ => _) = _
          rw [helements]
          change (readListEnd _ >>= fun _ => _) = _
          rw [readListEnd_blanks hclosing]
          rfl
      | object members =>
          obtain ⟨hdepth, hmembers⟩ := h
          obtain ⟨depth, rfl⟩ := Nat.exists_eq_add_one_of_ne_zero hdepth
          have hvalues : ∀ member ∈ members,
              Restores (readValue (depth + 1)) (member.2.render style (n + 1)) member.2 :=
            fun member hmember => ih (hmembers member hmember) (n + 1)
          obtain ⟨behind, hrender, hread⟩ := readMembers_of_object hstyle hvalues rest
          rw [hrender]
          change (readMembers (readValue (depth + 1)) (behind.length + 1) true behind >>= fun _ => _) = _
          rw [hread]
          rfl

/-! ### Where texts are read -/

theorem skipBlank_of_readValue_text {depth : Nat} {cs tail : List Char} {s : String}
    (h : readValue depth cs = .ok (.text s, tail)) : ∃ rest, skipBlank cs = '"' :: rest := by
  cases depth with
  | zero => cases h
  | succ depth =>
      rw [readValue] at h
      split at h
      case h_5 rest hquote => exact ⟨rest, hquote⟩
      -- Behind any other character stands a value of another form, or none.
      case h_1 => cases h
      case h_2 | h_3 | h_4 | h_6 =>
        obtain ⟨read, -, h⟩ := bind_eq_ok.mp h
        cases h
      case h_7 =>
        dsimp only at h
        split at h
        · cases h
        · obtain ⟨read, -, h⟩ := bind_eq_ok.mp h
          obtain ⟨behind, -, h⟩ := bind_eq_ok.mp h
          cases h
      case h_8 =>
        dsimp only at h
        split at h
        · cases h
        · obtain ⟨read, -, h⟩ := bind_eq_ok.mp h
          cases h
      case h_9 =>
        split at h
        · obtain ⟨read, -, h⟩ := bind_eq_ok.mp h
          cases h
        · cases h

/-- What is read as a text was written for one, whatever stands behind it. -/
theorem eq_text_of_readValue_render {style : Style} {n depth : Nat} {v : Value} {rest tail : List Char}
    {s : String} (h : readValue depth (v.render style n ++ rest) = .ok (.text s, tail)) :
    ∃ written, v = .text written := by
  by_contra hne
  rw [not_exists] at hne
  have hstarts : StartsOutside ['"'] (v.render style n) := render_starts foreign_quote style n fun _ => hne
  obtain ⟨c, cs, hrender, hblank, hc⟩ := hstarts
  obtain ⟨behind, hquote⟩ := skipBlank_of_readValue_text h
  rw [hrender, List.cons_append, skipBlank_cons hblank] at hquote
  exact hc (List.mem_singleton.mpr (List.cons.inj hquote).1)

end LiquidityTrigger.Json
