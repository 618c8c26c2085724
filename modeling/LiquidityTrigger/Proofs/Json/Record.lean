import LiquidityTrigger.Json.Record
import LiquidityTrigger.Proofs.Json.Codec

/-!
# Records read back

Reading the members of a record in their own order fills the draft from the front: before each key the
fields up to it have their values and the others have none. So no field is met twice, each member is read
by its own codec, and in front of the brace the draft is complete. All this needs of the fields is that
their names differ and their codecs read what they write.
-/

namespace LiquidityTrigger.Json

/-! ### Members -/

section

variable (style : Style) (depth : Nat)

theorem renderMembers_cons_append (key : String) (v : Value) (members : List (String × Value))
    (tail : List Char) :
    renderMembers style depth ((key, v) :: members) ++ tail =
      ',' :: (style.lineBreak depth ++ (quote key ++ (style.colon ++
        (v.render style depth ++ (renderMembers style depth members ++ tail))))) := by
  rw [renderMembers]
  simp only [List.cons_append, List.append_assoc]

theorem render_object_append (key : String) (v : Value) (members : List (String × Value))
    (tail : List Char) :
    (Value.object ((key, v) :: members)).render style depth ++ tail =
      '\x7b' :: (style.lineBreak (depth + 1) ++ (quote key ++ (style.colon ++
        (v.render style (depth + 1) ++ (renderMembers style (depth + 1) members ++
          (style.lineBreak depth ++ '\x7d' :: tail)))))) := by
  rw [Value.render]
  simp only [List.cons_append, List.append_assoc, List.nil_append]

theorem length_le_renderMembers (members : List (String × Value)) :
    members.length ≤ (renderMembers style depth members).length := by
  induction members with
  | nil => exact Nat.zero_le _
  | cons member members ih =>
      rw [renderMembers, List.length_append, List.length_cons, List.cons_append, List.cons_append,
        List.cons_append, List.length_cons]
      omega

variable {closing : List Char}

theorem closed_renderMembers (members : List (String × Value)) (hclosing : Blanks closing)
    (rest : List Char) :
    Closed (renderMembers style depth members ++ (closing ++ '\x7d' :: rest)) := by
  cases members with
  | nil => exact closed_append_cons hclosing (by decide) rest
  | cons member members =>
      rw [renderMembers_cons_append]
      exact closed_cons (by decide) _

theorem nextKey_end (first : Bool) (hclosing : Blanks closing) (rest : List Char) :
    nextKey first (closing ++ '\x7d' :: rest) = .ok (.inr rest) := by
  rw [nextKey, skipBlank_append_cons hclosing (by decide)]
  rfl

theorem nextKey_first {front : List Char} (hfront : Blanks front) (rest : List Char) :
    nextKey true (front ++ '"' :: rest) = .ok (.inl rest) := by
  rw [nextKey, skipBlank_append_cons hfront (by decide)]
  rfl

theorem nextKey_comma {front : List Char} (hfront : Blanks front) (rest : List Char) :
    nextKey false (',' :: (front ++ '"' :: rest)) = .ok (.inl rest) := by
  rw [nextKey, skipBlank_cons (by decide)]
  split
  · rename_i hnil
    cases hnil
  · rename_i hbrace
    cases hbrace
  · rename_i hcomma
    obtain ⟨rfl, rfl⟩ := List.cons.inj hcomma
    rw [if_neg Bool.false_ne_true, if_pos rfl, skipBlank_append_cons hfront (by decide)]
    rfl

end

theorem Restores.behind_colon {α : Type} {style : Style} {read : Reader α} {text : List Char} {a : α}
    (h : Restores read text a) (hstyle : style.Blank) {rest : List Char} (hrest : Closed rest) :
    ∃ behind, readColon (style.colon ++ (text ++ rest)) = .ok behind ∧ read behind = .ok (a, rest) := by
  obtain ⟨blanks, hblanks, hcolon⟩ := hstyle.colon
  refine ⟨blanks ++ (text ++ rest), ?_, h blanks rest hblanks hrest⟩
  rw [hcolon, List.cons_append, readColon, skipBlank_cons (by decide)]
  rfl

/-! ### Drafts -/

namespace Fields

def names : {ts : List Type} → Fields ts → List String
  | _, .nil => []
  | _, .cons field rest => field.name :: rest.names

def Inverts : {ts : List Type} → Fields ts → Prop
  | _, .nil => True
  | _, .cons field rest => field.codec.Inverts ∧ rest.Inverts

end Fields

/-- The draft that holds the first values of a row. -/
def Draft.upTo : {ts : List Type} → Row ts → Nat → Draft ts
  | [], _, _ => ()
  | _ :: _, (_, row), 0 => (none, upTo row 0)
  | _ :: _, (a, row), k + 1 => (some a, upTo row k)

namespace Fields

variable {ts : List Type}

theorem empty_eq (fields : Fields ts) (row : Row ts) : fields.empty = Draft.upTo row 0 := by
  induction fields with
  | nil => rfl
  | cons field rest ih =>
      obtain ⟨a, row⟩ := row
      rw [empty, ih row, Draft.upTo]

theorem length_members (fields : Fields ts) (row : Row ts) :
    (fields.members row).length = fields.count := by
  induction fields with
  | nil => rfl
  | cons field rest ih =>
      obtain ⟨a, row⟩ := row
      rw [members, List.length_cons, ih row, count]

theorem map_members (fields : Fields ts) (row : Row ts) :
    (fields.members row).map Prod.fst = fields.names := by
  induction fields with
  | nil => rfl
  | cons field rest ih =>
      obtain ⟨a, row⟩ := row
      rw [members, List.map_cons, ih row, names]

theorem complete_upTo (fields : Fields ts) (row : Row ts) {k : Nat} (h : fields.count ≤ k) :
    fields.complete (Draft.upTo row k) = .ok row := by
  induction fields generalizing k with
  | nil => rfl
  | cons field rest ih =>
      obtain ⟨a, row⟩ := row
      obtain ⟨k, rfl⟩ := Nat.exists_eq_add_one_of_ne_zero (Nat.ne_zero_of_lt h)
      have hrest := ih row (Nat.le_of_succ_le_succ h)
      rw [Draft.upTo, complete]
      change (do return (a, ← rest.complete (Draft.upTo row k))) = _
      rw [hrest]
      rfl

/-- A member in its turn fills its own field. -/
theorem readMember_restores {fields : Fields ts} (hinverts : fields.Inverts)
    (hnames : fields.names.Nodup) {style : Style} (hstyle : style.Blank) (depth : Nat) {row : Row ts}
    {k : Nat} {key : String} {v : Value} (hmember : (fields.members row)[k]? = some (key, v))
    {rest : List Char} (hrest : Closed rest) :
    fields.readMember key (Draft.upTo row k) (style.colon ++ (v.render style depth ++ rest)) =
      .ok (Draft.upTo row (k + 1), rest) := by
  induction fields generalizing k with
  | nil => cases hmember
  | cons field others ih =>
      obtain ⟨a, row⟩ := row
      obtain ⟨hfield, hothers⟩ := hinverts
      obtain ⟨hfresh, hnodup⟩ := List.nodup_cons.mp hnames
      rw [members] at hmember
      cases k with
      | zero =>
          cases hmember
          obtain ⟨behind, hcolon, hread⟩ := (hfield style hstyle depth a).behind_colon hstyle hrest
          rw [Draft.upTo, readMember, if_pos rfl]
          simp only [Option.isSome_none, Bool.false_eq_true, if_false, hcolon, hread, bind,
            Except.bind, pure, Except.pure]
          rfl
      | succ k =>
          rw [List.getElem?_cons_succ] at hmember
          have hkey : key ∈ others.names := by
            rw [← map_members others row]
            exact List.mem_map_of_mem (List.mem_of_getElem? hmember)
          have hne : field.name ≠ key := fun hsame => hfresh (hsame ▸ hkey)
          rw [Draft.upTo, readMember, if_neg hne, ih hothers hnodup hmember]
          rfl

theorem readObject_member {fields : Fields ts} {first : Bool} {key : String} {draft next : Draft ts}
    {text behind rest : List Char} (bound : Nat)
    (hkey : nextKey first text = .ok (.inl (key.toList.flatMap escape ++ '"' :: behind)))
    (hmember : fields.readMember key draft behind = .ok (next, rest)) :
    fields.readObject (bound + 1) first draft text = fields.readObject bound false next rest := by
  rw [readObject, hkey]
  simp only [readText_quote, hmember, bind, Except.bind]

theorem readObject_restores {fields : Fields ts} (hinverts : fields.Inverts)
    (hnames : fields.names.Nodup) {style : Style} (hstyle : style.Blank) {row : Row ts} {depth : Nat}
    {closing : List Char} (hclosing : Blanks closing) (rest : List Char)
    {members : List (String × Value)} {k bound : Nat} (hmembers : (fields.members row).drop k = members)
    (hbound : members.length < bound) :
    fields.readObject bound false (Draft.upTo row k)
        (renderMembers style depth members ++ (closing ++ '\x7d' :: rest)) = .ok (row, rest) := by
  induction members generalizing k bound with
  | nil =>
      obtain ⟨bound, rfl⟩ := Nat.exists_eq_add_one_of_ne_zero (Nat.ne_zero_of_lt hbound)
      have hcount : fields.count ≤ k := by
        rw [← length_members fields row]
        exact List.drop_eq_nil_iff.mp hmembers
      rw [renderMembers, List.nil_append, readObject, nextKey_end false hclosing]
      simp only [complete_upTo fields row hcount, bind, Except.bind, pure, Except.pure]
  | cons member members ih =>
      obtain ⟨key, v⟩ := member
      obtain ⟨bound, rfl⟩ := Nat.exists_eq_add_one_of_ne_zero (Nat.ne_zero_of_lt hbound)
      have hmember : (fields.members row)[k]? = some (key, v) := by
        rw [← List.head?_drop, hmembers]
        rfl
      have hothers : (fields.members row).drop (k + 1) = members := by
        rw [← List.drop_drop, hmembers]
        rfl
      have hread := readMember_restores hinverts hnames hstyle depth hmember
        (closed_renderMembers style depth members hclosing rest)
      rw [renderMembers_cons_append, quote_append,
        readObject_member bound (nextKey_comma (hstyle.lineBreak depth) _) hread]
      exact ih hothers (Nat.lt_of_succ_lt_succ hbound)

theorem read_restores {fields : Fields ts} (hinverts : fields.Inverts) (hnames : fields.names.Nodup)
    {style : Style} (hstyle : style.Blank) (wanted : String) (row : Row ts) (depth : Nat) :
    Restores (fields.read wanted) ((Value.object (fields.members row)).render style depth) row := by
  intro front rest hfront _
  have hclosing := hstyle.lineBreak depth
  cases hmembers : fields.members row with
  | nil =>
      have hcount : fields.count ≤ 0 := by
        rw [← length_members fields row, hmembers]
        exact Nat.le_refl 0
      change fields.read wanted (front ++ '\x7b' :: ([] ++ '\x7d' :: rest)) = _
      rw [read, skipBlank_append_cons hfront (by decide)]
      have hend := nextKey_end true blanks_nil rest
      simp only [readObject, hend, empty_eq fields row, complete_upTo fields row hcount, bind,
        Except.bind, pure, Except.pure]
  | cons member members =>
      obtain ⟨key, v⟩ := member
      have hmember : (fields.members row)[0]? = some (key, v) := by
        rw [hmembers]
        rfl
      have hothers : (fields.members row).drop 1 = members := by
        rw [hmembers]
        rfl
      have hread := readMember_restores hinverts hnames hstyle (depth + 1) hmember
        (closed_renderMembers style (depth + 1) members hclosing rest)
      have hlength := length_le_renderMembers style (depth + 1) members
      rw [render_object_append, read, skipBlank_append_cons hfront (by decide)]
      rw [quote_append]
      change fields.readObject (_ + 1) true fields.empty _ = _
      rw [empty_eq fields row, readObject_member _ (nextKey_first (hstyle.lineBreak (depth + 1)) _) hread]
      apply readObject_restores hinverts hnames hstyle hclosing rest hothers
      simp only [List.length_append, List.length_cons]
      omega

end Fields

theorem Codec.record_inverts {α : Type} {ts : List Type} {wanted : String} {fields : Fields ts}
    {toRow : α → Row ts} {ofRow : Row ts → α} (hinverts : fields.Inverts)
    (hnames : fields.names.Nodup) (h : ∀ a, ofRow (toRow a) = a) :
    (Codec.record wanted fields toRow ofRow).Inverts := by
  intro style hstyle depth a front rest hfront hrest
  have hread :=
    Fields.read_restores hinverts hnames hstyle wanted (toRow a) depth front rest hfront hrest
  change Codec.read _ (front ++ ((Value.object (fields.members (toRow a))).render style depth ++ rest)) =
    _
  rw [record]
  simp only [hread, bind, Except.bind, pure, Except.pure, h a]

theorem object_starts (style : Style) (depth : Nat) (members : List (String × Value)) :
    StartsOutside ['n'] ((Value.object members).render style depth) := by
  cases members with
  | nil => exact ⟨'\x7b', ['\x7d'], rfl, by decide, by decide⟩
  | cons member members =>
      have hrender := render_object_append style depth member.1 member.2 members []
      rw [List.append_nil] at hrender
      exact ⟨'\x7b', _, hrender, by decide, by decide⟩

end LiquidityTrigger.Json
