import LiquidityTrigger.Json.Variant
import LiquidityTrigger.Proofs.Json.Record

/-!
# Variants read back

A value of a sum is written under the name of its case, so it is read back when the case of that name is
found among the cases and reads back what it holds.
-/

namespace LiquidityTrigger.Json.Case

variable {α : Type} {cases : List (Case α)} {name : String}

theorem read_bare {value : α} (h : cases.find? (·.name = name) = some (bare name value)) :
    Restores (Case.read cases) (quote name) value := by
  intro front rest hfront _
  rw [quote_append, read]
  simp only [skipBlank_append_cons hfront (by decide : isBlank '"' = false), readText_quote, h, bind,
    Except.bind, pure, Except.pure]

/-- A case that holds something is read back from an object with that one member. -/
theorem read_held {c : Case α} {held : Value} {a : α} {style : Style} {depth : Nat}
    (hstyle : style.Blank) (hfind : cases.find? (·.name = name) = some c)
    (hread : Restores c.readHeld (held.render style (depth + 1)) a) :
    Restores (Case.read cases) ((Value.ofCase name held).render style depth) a := by
  intro front rest hfront _
  have hclosing := hstyle.lineBreak depth
  have hclosed : Closed (style.lineBreak depth ++ '\x7d' :: rest) :=
    closed_append_cons hclosing (by decide) rest
  obtain ⟨behind, hcolon, hvalue⟩ := hread.behind_colon hstyle hclosed
  rw [Value.ofCase, render_object_append, read]
  simp only [skipBlank_append_cons hfront (by decide : isBlank '\x7b' = false), renderMembers,
    List.nil_append, readString_quote (hstyle.lineBreak (depth + 1)), hfind, hcolon, hvalue, bind, Except.bind, pure, Except.pure,
    skipBlank_append_cons hclosing (by decide : isBlank '\x7d' = false)]

theorem ofCodec_restores {β : Type} {c : Codec β} (h : c.Inverts) (name : String) (make : β → α)
    {style : Style} (hstyle : style.Blank) (depth : Nat) (b : β) :
    Restores (ofCodec name c make).readHeld ((c.write b).render style depth) (make b) := by
  intro front rest hfront hrest
  have hread := h style hstyle depth b front rest hfront hrest
  rw [ofCodec, readHeld]
  simp only [hread, bind, Except.bind, pure, Except.pure]

theorem ofFields_restores {ts : List Type} {fields : Fields ts} (hinverts : fields.Inverts)
    (hnames : fields.names.Nodup) (name : String) (make : Row ts → α) {style : Style}
    (hstyle : style.Blank) (depth : Nat) (row : Row ts) :
    Restores (ofFields name fields make).readHeld
      ((Value.object (fields.members row)).render style depth) (make row) := by
  intro front rest hfront hrest
  have hread := Fields.read_restores hinverts hnames hstyle ("what " ++ name ++ " holds") row depth
    front rest hfront hrest
  rw [ofFields, readHeld]
  simp only [hread, bind, Except.bind, pure, Except.pure]

end LiquidityTrigger.Json.Case
