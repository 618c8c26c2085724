import LiquidityTrigger.Proofs.Result
import LiquidityTrigger.Proofs.Rlp.Reading

/-!
# What can be read was written

The converse of `Reading.lean`. A header that reads is the header that is written for its length:
the long form is refused for what fits the short one and for a leading zero. So every item that is
found in front of a byte string is written in the one possible way, and the readers of values accept
only the encoding of the value they give.

What is not fixed is where a walk over items ends. It passes over as many items as it can and leaves a
rest that does not begin with one, which need not be empty.
-/

namespace LiquidityTrigger.Rlp

open Bytes (minimalWidth)

/-! ### Headers -/

theorem longHeader_eq_ok {width : Nat} {rest : Bytes} {e : Extent} (hwidth : 0 < width)
    (h : longHeader width rest = .ok e) :
    greatestShort < e.payload ∧ e.header = 1 + width ∧ minimalWidth e.payload = width ∧
      rest.take width = Bytes.ofNatMinimal e.payload := by
  cases rest with
  | nil => cases h
  | cons next behind =>
      rw [longHeader] at h
      split at h
      · cases h
      · rename_i hzero
        split at h
        · cases h
        · rename_i hlength
          dsimp only at h
          split at h
          · cases h
          · rename_i hpayload
            cases h
            have htake : ((next :: behind).take width).length = width :=
              List.length_take_of_le (Nat.not_lt.mp hlength)
            have hhead : ((next :: behind).take width).head? ≠ some 0 := by
              rw [List.head?_take, if_neg (Nat.ne_of_gt hwidth), List.head?_cons]
              intro hnext
              exact hzero (Option.some.inj hnext)
            have hbytes := Bytes.ofNatMinimal_toNat hhead
            have hminimal : minimalWidth (Bytes.toNat ((next :: behind).take width)) = width := by
              rw [← Bytes.length_ofNatMinimal, hbytes, htake]
            exact ⟨Nat.not_le.mp hpayload, rfl, hminimal, hbytes.symm⟩

private theorem headed_of_short {base n : Nat} {first : UInt8} (rest : Bytes)
    (hn : n ≤ greatestShort) (hfirst : first.toNat = base + n) :
    first :: rest = header base n ++ rest ∧ (header base n).length = 1 := by
  have hheader : header base n = [first] := by
    rw [header, if_pos hn, ← hfirst, UInt8.ofNat_toNat]
  rw [hheader]
  exact ⟨rfl, rfl⟩

private theorem headed_of_long {base width : Nat} {first : UInt8} {rest : Bytes} {e : Extent}
    (hwidth : 0 < width) (hfirst : first.toNat = base + greatestShort + width)
    (h : longHeader width rest = .ok e) :
    first :: rest = header base e.payload ++ rest.drop width ∧
      (header base e.payload).length = e.header := by
  obtain ⟨hlong, hheader, hminimal, htake⟩ := longHeader_eq_ok hwidth h
  have hwritten : header base e.payload = first :: rest.take width := by
    rw [header, if_neg (Nat.not_le.mpr hlong), Bytes.length_ofNatMinimal, hminimal, ← hfirst,
      UInt8.ofNat_toNat, htake]
  constructor
  · rw [hwritten, List.cons_append, List.take_append_drop]
  · rw [hwritten, List.length_cons, htake, Bytes.length_ofNatMinimal, hminimal, hheader,
      Nat.add_comm]

theorem readHeader_eq_ok {bytes : Bytes} {e : Extent} (h : readHeader bytes = .ok e) :
    (∃ b rest, b < 0x80 ∧ bytes = b :: rest ∧ e = ⟨0, 1⟩) ∨
      ∃ base rest, (base = 0x80 ∨ base = 0xC0) ∧ e.payload < 2 ^ 64 ∧
        bytes = header base e.payload ++ rest ∧ (header base e.payload).length = e.header := by
  cases bytes with
  | nil => cases h
  | cons first rest =>
      have hbyte : first.toNat < 256 := first.toNat_lt
      -- A length that stands in at most eight bytes is below `2 ^ 64`.
      have hlong : ∀ base width, (base = 0x80 ∨ base = 0xC0) → 0 < width → width ≤ 8 →
          first.toNat = base + greatestShort + width → longHeader width rest = .ok e →
          ∃ base behind, (base = 0x80 ∨ base = 0xC0) ∧ e.payload < 2 ^ 64 ∧
            first :: rest = header base e.payload ++ behind ∧
            (header base e.payload).length = e.header := by
        intro base width hbase hpos hwidth hfirst hread
        obtain ⟨-, -, hminimal, -⟩ := longHeader_eq_ok hpos hread
        have hpayload : e.payload < 2 ^ 64 :=
          Bytes.minimalWidth_le_iff.mp (Nat.le_trans (Nat.le_of_eq hminimal) hwidth)
        exact ⟨base, rest.drop width, hbase, hpayload, headed_of_long hpos hfirst hread⟩
      rw [readHeader] at h
      split at h
      · rename_i hplain
        cases h
        exact .inl ⟨first, rest, Nat.lt_succ_of_le hplain, rfl, rfl⟩
      · right
        split at h
        · cases h
          have hfits : first.toNat - 0x80 ≤ greatestShort := by
            rw [greatestShort]
            omega
          have hfirst : first.toNat = 0x80 + (first.toNat - 0x80) := by omega
          refine ⟨0x80, rest, .inl rfl, ?_, headed_of_short rest hfits hfirst⟩
          change first.toNat - 0x80 < 2 ^ 64
          omega
        · split at h
          · refine hlong 0x80 _ (.inl rfl) ?_ ?_ ?_ h <;> rw [greatestShort] at * <;> omega
          · split at h
            · cases h
              have hfits : first.toNat - 0xC0 ≤ greatestShort := by
                rw [greatestShort]
                omega
              have hfirst : first.toNat = 0xC0 + (first.toNat - 0xC0) := by omega
              refine ⟨0xC0, rest, .inr rfl, ?_, headed_of_short rest hfits hfirst⟩
              change first.toNat - 0xC0 < 2 ^ 64
              omega
            · refine hlong 0xC0 _ (.inr rfl) ?_ ?_ ?_ h <;> rw [greatestShort] at * <;> omega

/-! ### Items -/

/-- The two ways to write an item. -/
inductive Written : Bytes → Prop where
  | plain {b : UInt8} (h : b < 0x80) : Written [b]
  | headed {base : Nat} {content : Bytes} (hbase : base = 0x80 ∨ base = 0xC0)
      (h : content.length < 2 ^ 64) : Written (header base content.length ++ content)

theorem Written.isItem {encoding : Bytes} (h : Written encoding) : IsItem encoding := by
  cases h with
  | @plain b hb =>
      have hlength : [b].length < 2 ^ 64 := Nat.one_lt_two_pow (by decide)
      have hcarries := carries_encodeBytes hlength
      rw [encodeBytes_of_plain hb] at hcarries
      exact ⟨[b], hcarries⟩
  | headed hbase h => exact ⟨_, carries_of_header hbase h⟩

theorem exists_written_of_extent {bytes : Bytes} {e : Extent} (h : extent bytes = .ok e) :
    ∃ encoding rest, Written encoding ∧ bytes = encoding ++ rest ∧ e.total = encoding.length := by
  have hread : readHeader bytes = .ok e ∧ e.total ≤ bytes.length := by
    rw [extent, bind_eq_ok] at h
    obtain ⟨found, hheader, h⟩ := h
    split at h
    · rename_i hfits
      cases h
      exact ⟨hheader, hfits⟩
    · cases h
  obtain ⟨hheader, hfits⟩ := hread
  rcases readHeader_eq_ok hheader with ⟨b, rest, hb, rfl, rfl⟩ |
    ⟨base, rest, hbase, hpayload, rfl, hlength⟩
  · exact ⟨[b], rest, .plain hb, rfl, rfl⟩
  · rw [Extent.total, List.length_append, hlength] at hfits
    have hcontent : (rest.take e.payload).length = e.payload :=
      List.length_take_of_le (Nat.le_of_add_le_add_left hfits)
    have hwritten := Written.headed hbase (hcontent.symm ▸ hpayload)
    rw [hcontent] at hwritten
    refine ⟨_, rest.drop e.payload, hwritten, ?_, ?_⟩
    · rw [List.append_assoc, List.take_append_drop]
    · rw [Extent.total, List.length_append, hlength, hcontent]

theorem IsItem.written {encoding : Bytes} (h : IsItem encoding) : Written encoding := by
  obtain ⟨content, e, hextent, htotal, -⟩ := h
  have hfound := hextent []
  rw [List.append_nil] at hfound
  obtain ⟨item, rest, hwritten, hsplit, hlength⟩ := exists_written_of_extent hfound
  have hrest : rest = [] := by
    rw [hsplit, List.length_append] at htotal
    apply List.eq_nil_of_length_eq_zero
    omega
  rwa [hsplit, hrest, List.append_nil]

theorem exists_of_extent {bytes : Bytes} {e : Extent} (h : extent bytes = .ok e) :
    ∃ encoding rest, IsItem encoding ∧ bytes = encoding ++ rest ∧ e.total = encoding.length := by
  obtain ⟨encoding, rest, hwritten, hsplit, htotal⟩ := exists_written_of_extent h
  exact ⟨encoding, rest, hwritten.isItem, hsplit, htotal⟩

/-- No item is the beginning of another. -/
theorem item_unique {x y s t : Bytes} (hx : IsItem x) (hy : IsItem y) (h : x ++ s = y ++ t) :
    x = y ∧ s = t := by
  obtain ⟨cx, ex, hex, htotalx, -⟩ := hx
  obtain ⟨cy, ey, hey, htotaly, -⟩ := hy
  have hextent : ex = ey := by
    have hfound := hex s
    rw [h, hey] at hfound
    exact (Except.ok.inj hfound).symm
  apply List.append_inj h
  rw [← htotalx, ← htotaly, hextent]

section

variable {items : List Bytes} (hitems : ∀ encoding ∈ items, IsItem encoding)

include hitems

/-- Items that begin one byte string are the same, as far as both lists go. -/
theorem items_prefix {others : List Bytes} {s t : Bytes}
    (hothers : ∀ encoding ∈ others, IsItem encoding) (hle : others.length ≤ items.length)
    (h : items.flatten ++ s = others.flatten ++ t) : others = items.take others.length := by
  induction others generalizing items with
  | nil => rfl
  | cons other others ih =>
      cases items with
      | nil => exact absurd hle (Nat.not_succ_le_zero _)
      | cons first items =>
          rw [List.flatten_cons, List.flatten_cons, List.append_assoc, List.append_assoc] at h
          obtain ⟨rfl, hrest⟩ := item_unique (hitems first List.mem_cons_self)
            (hothers other List.mem_cons_self) h
          have hbehind := ih (fun e he => hitems e (List.mem_cons_of_mem _ he))
            (fun e he => hothers e (List.mem_cons_of_mem _ he)) (Nat.le_of_succ_le_succ hle) hrest
          rw [List.length_cons, List.take_succ_cons, ← hbehind]

end

theorem exists_of_countItems {bound : Nat} {bytes : Bytes} (hbound : bytes.length ≤ bound) :
    ∃ (items : List Bytes) (tail : Bytes), (∀ encoding ∈ items, IsItem encoding) ∧
      items.length = countItems bound bytes ∧
      bytes = items.flatten ++ tail ∧ Broken tail := by
  induction bound generalizing bytes with
  | zero =>
      have hnil : bytes = [] := List.eq_nil_of_length_eq_zero (Nat.le_zero.mp hbound)
      exact ⟨[], [], List.forall_mem_nil _, rfl, hnil, broken_nil⟩
  | succ bound ih =>
      cases hextent : extent bytes with
      | error fault =>
          refine ⟨[], bytes, List.forall_mem_nil _, ?_, rfl, ?_⟩
          · rw [countItems, hextent]
            rfl
          · intro e he
            rw [hextent] at he
            cases he
      | ok e =>
          obtain ⟨encoding, rest, hitem, rfl, htotal⟩ := exists_of_extent hextent
          obtain ⟨content, hcarries⟩ := hitem
          have hpos := List.length_pos_iff.mpr hcarries.ne_nil
          rw [List.length_append] at hbound
          have hshorter : rest.length ≤ bound := by omega
          obtain ⟨items, tail, hitems, hcount, hrest, hbroken⟩ := ih hshorter
          refine ⟨encoding :: items, tail, ?_, ?_, ?_, hbroken⟩
          · intro other hother
            rcases List.mem_cons.mp hother with rfl | hother
            · exact ⟨content, hcarries⟩
            · exact hitems other hother
          · rw [countItems, hextent]
            change (encoding :: items).length =
              countItems bound ((encoding ++ rest).drop e.total) + 1
            rw [htotal, List.drop_left, List.length_cons, hcount]
          · rw [List.flatten_cons, List.append_assoc, hrest]

theorem exists_of_skip {count : Nat} {bytes rest : Bytes} (h : skip count bytes = .ok rest) :
    ∃ items : List Bytes, (∀ encoding ∈ items, IsItem encoding) ∧ items.length = count ∧
      bytes = items.flatten ++ rest := by
  induction count generalizing bytes with
  | zero =>
      cases h
      exact ⟨[], List.forall_mem_nil _, rfl, rfl⟩
  | succ count ih =>
      rw [skip, bind_eq_ok] at h
      obtain ⟨e, hextent, h⟩ := h
      obtain ⟨encoding, behind, hitem, rfl, htotal⟩ := exists_of_extent hextent
      rw [htotal, List.drop_left] at h
      obtain ⟨items, hitems, hlength, hbehind⟩ := ih h
      refine ⟨encoding :: items, List.forall_mem_cons.mpr ⟨hitem, hitems⟩, ?_, ?_⟩
      · rw [List.length_cons, hlength]
      · rw [List.flatten_cons, List.append_assoc, hbehind]

theorem exists_of_item {index : Nat} {bytes encoding : Bytes} (h : item index bytes = .ok encoding) :
    ∃ (items : List Bytes) (rest : Bytes), (∀ other ∈ items, IsItem other) ∧
      items.length = index + 1 ∧ bytes = items.flatten ++ rest := by
  rw [item, bind_eq_ok] at h
  obtain ⟨behind, hskip, h⟩ := h
  rw [bind_eq_ok] at h
  obtain ⟨e, hextent, -⟩ := h
  obtain ⟨items, hitems, hlength, hbytes⟩ := exists_of_skip hskip
  obtain ⟨last, rest, hlast, hbehind, -⟩ := exists_of_extent hextent
  refine ⟨items ++ [last], rest, ?_, ?_, ?_⟩
  · intro other hother
    rcases List.mem_append.mp hother with hother | hother
    · exact hitems other hother
    · rw [List.mem_singleton.mp hother]
      exact hlast
  · rw [List.length_append, hlength, List.length_singleton]
  · rw [hbytes, hbehind, List.flatten_append, List.append_assoc, List.flatten_singleton]

/-! ### Lists -/

section

variable {announced : Nat} {behind : Bytes} (hcountable : announced < 2 ^ 64)
  (hpresent : announced ≤ behind.length)

include hcountable hpresent

theorem inside_headed : inside (header 0xC0 announced ++ behind) = .ok (behind.take announced) := by
  rw [inside, extent_headed (.inr rfl) hcountable hpresent]
  dsimp only [bind, Except.bind, pure, Except.pure]
  rw [List.drop_left]

theorem onward_headed : onward (header 0xC0 announced ++ behind) = .ok behind := by
  rw [onward, extent_headed (.inr rfl) hcountable hpresent]
  dsimp only [bind, Except.bind, pure, Except.pure]
  rw [List.drop_left]

/-- The items of a list are counted onward if the first one lies inside. -/
theorem itemCount_headed {first : Bytes} (hfirst : item 0 (behind.take announced) = .ok first) :
    itemCount (header 0xC0 announced ++ behind) = countItems behind.length behind := by
  rw [itemCount, inside_headed hcountable hpresent, onward_headed hcountable hpresent]
  dsimp only [bind, Except.bind]
  rw [hfirst]

end

theorem length_take_le_of_item {items : List Bytes} {behind tail encoding : Bytes}
    {announced index : Nat} (hpresent : announced ≤ behind.length)
    (hitems : ∀ other ∈ items, IsItem other)
    (hlt : index < items.length) (hbehind : behind = items.flatten ++ tail)
    (h : item index (behind.take announced) = .ok encoding) :
    (items.take (index + 1)).flatten.length ≤ announced := by
  obtain ⟨inner, rest, hinner, hlength, htake⟩ := exists_of_item h
  have hsame : items.flatten ++ tail = inner.flatten ++ (rest ++ behind.drop announced) := by
    rw [← hbehind, ← List.append_assoc, ← htake, List.take_append_drop]
  have hprefix := items_prefix hitems hinner (by omega) hsame
  have htotal := congrArg List.length htake
  rw [List.length_take_of_le hpresent, List.length_append] at htotal
  rw [← hlength, ← hprefix]
  omega

/-- Items that are announced are found inside, whatever else is. -/
theorem item_announced {items : List Bytes} {announced count index : Nat} {encoding : Bytes}
    (tail : Bytes) (hitems : ∀ other ∈ items, IsItem other)
    (hcovers : (items.take count).flatten.length ≤ announced) (hlt : index < count)
    (h : items[index]? = some encoding) :
    item index ((items.flatten ++ tail).take announced) = .ok encoding := by
  have hsplit : items.flatten ++ tail =
      (items.take count).flatten ++ ((items.drop count).flatten ++ tail) := by
    rw [← List.append_assoc, ← List.flatten_append, List.take_append_drop]
  have hfront : ∀ other ∈ items.take count, IsItem other :=
    fun other hother => hitems other (List.mem_of_mem_take hother)
  rw [hsplit, List.take_append, List.take_of_length_le hcovers]
  apply item_flatten_append hfront
  rw [List.getElem?_take_of_lt hlt, h]

theorem isList_string {n : Nat} (h : n < 2 ^ 64) (behind : Bytes) :
    isList (header 0x80 n ++ behind) = false := by
  have hlead := lead_le_of_lt h
  rw [header_eq, List.cons_append, isList, decide_eq_false_iff_not, UInt8.le_iff_toNat_le,
    toNat_first (by decide) h]
  change ¬ 0xC0 ≤ _
  omega

theorem exists_of_isList {raw : Bytes} {e : Extent} (hlist : isList raw = true)
    (h : extent raw = .ok e) :
    ∃ (announced : Nat) (behind : Bytes), announced < 2 ^ 64 ∧ announced ≤ behind.length ∧
      raw = header 0xC0 announced ++ behind := by
  obtain ⟨encoding, rest, hwritten, rfl, -⟩ := exists_written_of_extent h
  cases hwritten with
  | @plain b hb =>
      rw [List.singleton_append, isList, decide_eq_true_eq] at hlist
      exact absurd hlist (UInt8.not_le.mpr (UInt8.lt_trans hb (by decide)))
  | @headed base content hbase hcontent =>
      rcases hbase with rfl | rfl
      · rw [List.append_assoc, isList_string hcontent] at hlist
        cases hlist
      · refine ⟨content.length, content ++ rest, hcontent, ?_, List.append_assoc _ _ _⟩
        rw [List.length_append]
        exact Nat.le_add_right _ _

theorem exists_of_itemCount {raw : Bytes} (hlist : isList raw = true) (hcount : itemCount raw ≠ 0) :
    ∃ (announced : Nat) (items : List Bytes) (tail : Bytes),
      (∀ encoding ∈ items, IsItem encoding) ∧ items.length = itemCount raw ∧ Broken tail ∧
        announced < 2 ^ 64 ∧ announced ≤ (items.flatten ++ tail).length ∧
        raw = header 0xC0 announced ++ (items.flatten ++ tail) := by
  cases hfirst : inside raw >>= item 0 with
  | error fault =>
      rw [itemCount, hfirst] at hcount
      exact absurd rfl hcount
  | ok first =>
      obtain ⟨within, hinside, hitem⟩ := bind_eq_ok.mp hfirst
      obtain ⟨e, hextent, -⟩ := bind_eq_ok.mp hinside
      obtain ⟨announced, behind, hcountable, hpresent, rfl⟩ := exists_of_isList hlist hextent
      rw [inside_headed hcountable hpresent] at hinside
      cases hinside
      obtain ⟨items, tail, hitems, hlength, rfl, hbroken⟩ :=
        exists_of_countItems (Nat.le_refl behind.length)
      rw [← itemCount_headed hcountable hpresent hitem] at hlength
      exact ⟨announced, items, tail, hitems, hlength, hbroken, hcountable, hpresent, rfl⟩

theorem isItem_emptyString : IsItem [0x80] := by
  have hencoding : encodeBytes [] = [0x80] := by decide
  have hcarries := @carries_encodeBytes [] (Nat.two_pow_pos 64)
  rw [hencoding] at hcarries
  exact ⟨[], hcarries⟩

theorem isItem_emptyList : IsItem [0xC0] := by
  have hencoding : encodeList [] = [0xC0] := by decide
  have hcarries := @carries_encodeList [] (Nat.two_pow_pos 64)
  rw [hencoding] at hcarries
  exact ⟨_, hcarries⟩

theorem eq_of_isEmptyItem {encoding : Bytes} (hitem : IsItem encoding)
    (h : isEmptyItem encoding = true) : encoding = [0x80] ∨ encoding = [0xC0] := by
  cases encoding with
  | nil => cases h
  | cons first rest =>
      rw [isEmptyItem, Bool.or_eq_true, decide_eq_true_eq, decide_eq_true_eq] at h
      have hsplit : first :: rest ++ [] = [first] ++ rest := List.append_nil _
      rcases h with rfl | rfl
      · exact .inl (item_unique hitem isItem_emptyString hsplit).1
      · exact .inr (item_unique hitem isItem_emptyList hsplit).1

/-! ### Values -/

theorem readBytes_headed_plain {b : UInt8} (hb : b < 0x80) :
    readBytes (header 0x80 [b].length ++ [b]) = .error .invalidIndirection := by
  have hlength : [b].length < 2 ^ 64 := Nat.one_lt_two_pow (by decide)
  obtain ⟨e, hextent, hcontent⟩ := (carries_of_header (.inl rfl) hlength).extent_eq
  have hheader : header 0x80 1 = [0x81] := by decide
  rw [List.length_singleton, hheader, List.singleton_append] at hextent hcontent ⊢
  rw [readBytes, if_neg (by decide), if_neg (by decide), hextent]
  dsimp only [bind, Except.bind]
  rw [hcontent]
  exact if_pos hb

theorem readBytes_list {payload : Bytes} (h : payload.length < 2 ^ 64) :
    readBytes (header 0xC0 payload.length ++ payload) = .error .expectedToBeData := by
  have hfirst := toNat_first (Nat.le_refl 0xC0) h
  rw [header_eq, List.cons_append, readBytes, if_neg, if_pos]
  · rfl
  · rw [UInt8.le_iff_toNat_le, hfirst]
    exact Nat.le_add_right _ _
  · rw [UInt8.lt_iff_toNat_lt, hfirst]
    exact Nat.not_lt.mpr (Nat.le_trans (by decide) (Nat.le_add_right 0xC0 _))

theorem readBytes_eq_ok_iff {encoding content : Bytes} (hitem : IsItem encoding) :
    readBytes encoding = .ok content ↔
      encoding = encodeBytes content ∧ content.length < 2 ^ 64 := by
  constructor
  · intro h
    cases hitem.written with
    | @plain b hb =>
        rw [readBytes, if_pos hb] at h
        cases h
        exact ⟨(encodeBytes_of_plain hb).symm, Nat.one_lt_two_pow (by decide)⟩
    | @headed base payload hbase hpayload =>
        rcases hbase with rfl | rfl
        · by_cases hplain : isPlain payload
          · obtain ⟨b, hb, rfl⟩ := exists_of_isPlain hplain
            rw [readBytes_headed_plain hb] at h
            cases h
          · rw [← encodeBytes_of_not_plain hplain] at h ⊢
            rw [readBytes_encodeBytes hpayload] at h
            cases h
            exact ⟨rfl, hpayload⟩
        · rw [readBytes_list hpayload] at h
          cases h
  · rintro ⟨rfl, hlength⟩
    exact readBytes_encodeBytes hlength

/-- The content of an item that is read as a number is the writing of that number. -/
theorem readNat_eq_ok_iff {encoding : Bytes} {width n : Nat} (hitem : IsItem encoding)
    (hwidth : width ≤ 32) :
    readNat width encoding = .ok n ↔ encoding = encodeNat n ∧ n < 256 ^ width := by
  constructor
  · intro h
    rw [readNat, bind_eq_ok] at h
    obtain ⟨content, hbytes, h⟩ := h
    split at h
    · cases h
    · rename_i hhead
      split at h
      · cases h
      · rename_i hfits
        cases h
        obtain ⟨hencoding, -⟩ := (readBytes_eq_ok_iff hitem).mp hbytes
        constructor
        · rw [encodeNat, Bytes.ofNatMinimal_toNat hhead]
          exact hencoding
        · apply Nat.lt_of_lt_of_le (Bytes.toNat_lt content)
          exact Nat.pow_le_pow_right (by decide) (Nat.not_lt.mp hfits)
  · rintro ⟨rfl, hn⟩
    exact readNat_encodeNat hn hwidth

theorem readCounter_eq_ok_iff {encoding : Bytes} {v : UInt64} (hitem : IsItem encoding) :
    readCounter encoding = .ok v ↔ encoding = encodeNat v.toNat := by
  constructor
  · intro h
    rw [readCounter, bind_eq_ok] at h
    obtain ⟨content, hbytes, h⟩ := h
    split at h
    · cases h
    · rename_i hfits
      split at h
      · cases h
      · rename_i hhead
        cases h
        obtain ⟨hencoding, -⟩ := (readBytes_eq_ok_iff hitem).mp hbytes
        have hvalue : Bytes.toNat content < 2 ^ 64 := by
          apply Nat.lt_of_lt_of_le (Bytes.toNat_lt content)
          exact Nat.pow_le_pow_right (by decide) (Nat.not_lt.mp hfits)
        rw [UInt64.toNat_ofNat_of_lt' hvalue, encodeNat, Bytes.ofNatMinimal_toNat hhead]
        exact hencoding
  · rintro rfl
    exact readCounter_encodeNat v

theorem readExact_eq_ok_iff {encoding content : Bytes} {width : Nat} (hitem : IsItem encoding)
    (hwidth : width < 2 ^ 64) :
    readExact width encoding = .ok content ↔
      encoding = encodeBytes content ∧ content.length = width := by
  constructor
  · intro h
    rw [readExact, bind_eq_ok] at h
    obtain ⟨found, hbytes, h⟩ := h
    split at h
    · cases h
    · rename_i hshort
      split at h
      · cases h
      · rename_i hlong
        cases h
        obtain ⟨hencoding, -⟩ := (readBytes_eq_ok_iff hitem).mp hbytes
        exact ⟨hencoding, Nat.le_antisymm (Nat.not_lt.mp hlong) (Nat.not_lt.mp hshort)⟩
  · rintro ⟨rfl, hlength⟩
    exact readExact_encodeBytes hlength hwidth

end LiquidityTrigger.Rlp
