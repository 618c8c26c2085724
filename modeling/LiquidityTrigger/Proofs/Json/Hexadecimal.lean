import LiquidityTrigger.Json.Forms
import LiquidityTrigger.Proofs.Bytes
import LiquidityTrigger.Proofs.Text.Hex

/-!
# Hexadecimal texts read back

The lenient reader of hexadecimal texts meets no blank in a text that was written, so it takes the digits
as they stand. An amount may have an odd number of them: then a zero stands in front, which changes the
bytes but not their number. An address or a digest has all its digits, so nothing is filled up.
-/

namespace LiquidityTrigger.Json

/-! ### Digits and their values -/

/-- A run of digits with these values. -/
structure Spells (cs : List Char) (ds : List Nat) : Prop where
  values : cs.map Hex.digitValue? = ds.map some
  bounded : ∀ d ∈ ds, d < 16

/-- The number of a run of digits, behind a number already there. -/
def valueFrom (n : Nat) (ds : List Nat) : Nat := ds.foldl (fun n d => n * 16 + d) n

theorem valueFrom_append (n : Nat) (ds ds' : List Nat) :
    valueFrom n (ds ++ ds') = valueFrom (valueFrom n ds) ds' := List.foldl_append

theorem Spells.length_eq {cs : List Char} {ds : List Nat} (h : Spells cs ds) :
    cs.length = ds.length := by
  simpa using congrArg List.length h.values

theorem spells_digit {d : Nat} (h : d < 16) : Spells [Hex.digit d] [d] where
  values := by rw [List.map_singleton, List.map_singleton, Hex.digitValue?_digit h]
  bounded := by
    intro e he
    rw [List.mem_singleton.mp he]
    exact h

theorem Spells.append {cs cs' : List Char} {ds ds' : List Nat} (h : Spells cs ds)
    (h' : Spells cs' ds') : Spells (cs ++ cs') (ds ++ ds') where
  values := by rw [List.map_append, List.map_append, h.values, h'.values]
  bounded := by
    intro d hd
    rcases List.mem_append.mp hd with hd | hd
    · exact h.bounded d hd
    · exact h'.bounded d hd

theorem isBlank_of_digitValue? {c : Char} {d : Nat} (h : Hex.digitValue? c = some d) :
    isBlank c = false := by
  by_contra hblank
  rw [Bool.not_eq_false] at hblank
  simp only [isBlank, Bool.or_eq_true, decide_eq_true_eq] at hblank
  rcases hblank with ((rfl | rfl) | rfl) | rfl <;> cases h

theorem Spells.mapM_eq {cs : List Char} {ds : List Nat} (h : Spells cs ds) :
    cs.mapM Hex.digitValue? = some ds := by
  obtain ⟨hvalues, -⟩ := h
  induction cs generalizing ds with
  | nil =>
      rw [List.map_nil, eq_comm, List.map_eq_nil_iff] at hvalues
      rw [hvalues]
      rfl
  | cons c cs ih =>
      cases ds with
      | nil => cases hvalues
      | cons d ds =>
          obtain ⟨hd, hrest⟩ := List.cons.inj hvalues
          rw [List.mapM_cons, hd, ih hrest]
          rfl

theorem Spells.filter_eq {cs : List Char} {ds : List Nat} (h : Spells cs ds) :
    cs.filter (fun c => !isBlank c) = cs := by
  rw [List.filter_eq_self]
  intro c hc
  have hmem : Hex.digitValue? c ∈ ds.map some := by
    rw [← h.values]
    exact List.mem_map_of_mem hc
  obtain ⟨d, -, hd⟩ := List.mem_map.mp hmem
  rw [isBlank_of_digitValue? hd.symm]
  rfl

/-- An even number of digits denotes what its bytes do. -/
theorem foldl_bytesOfDigits {ds : List Nat} (hbounded : ∀ d ∈ ds, d < 16) (heven : ds.length % 2 = 0)
    (n : Nat) : (bytesOfDigits ds).foldl (fun n b => n * 256 + b.toNat) n = valueFrom n ds := by
  induction ds using bytesOfDigits.induct generalizing n with
  | case1 hi lo rest ih =>
      have hhi : hi < 16 := hbounded hi List.mem_cons_self
      have hlo : lo < 16 := hbounded lo (List.mem_cons_of_mem _ List.mem_cons_self)
      have hbyte : (UInt8.ofNat (hi * 16 + lo)).toNat = hi * 16 + lo := by
        rw [UInt8.toNat_ofNat', Nat.mod_eq_of_lt (by omega)]
      have hrest : rest.length % 2 = 0 := by
        rw [List.length_cons, List.length_cons] at heven
        omega
      have hfrom : n * 256 + (hi * 16 + lo) = (n * 16 + hi) * 16 + lo := by omega
      rw [bytesOfDigits, List.foldl_cons, hbyte, hfrom,
        ih (fun d hd => hbounded d (List.mem_cons_of_mem _ (List.mem_cons_of_mem _ hd))) hrest]
      rfl
  | case2 ds hshort =>
      rcases ds with _ | ⟨d, _ | ⟨e, rest⟩⟩
      · rfl
      · cases heven
      · exact absurd rfl (hshort d e rest)

theorem toNat_bytesOfDigits {ds : List Nat} (hbounded : ∀ d ∈ ds, d < 16)
    (heven : ds.length % 2 = 0) : Bytes.toNat (bytesOfDigits ds) = valueFrom 0 ds :=
  foldl_bytesOfDigits hbounded heven 0

theorem hexBytes?_marked {cs : List Char} {ds : List Nat} {allowed : Nat → Bool} (h : Spells cs ds)
    (hallowed : allowed cs.length = true) :
    hexBytes? allowed (Hex.marked cs) =
      some (bytesOfDigits (if ds.length % 2 = 1 then 0 :: ds else ds)) := by
  rw [hexBytes?, Hex.marked, String.toList_ofList, Hex.stripMarker, if_pos hallowed,
    spacedBytes?, h.filter_eq, h.mapM_eq, h.length_eq]
  rfl

/-! ### Amounts -/

theorem exists_spells_ofNat (n : Nat) : ∃ ds, Spells (Hex.ofNat n) ds ∧ valueFrom 0 ds = n := by
  induction n using Nat.strongRecOn with
  | ind n ih =>
      rcases Nat.lt_or_ge n 16 with hsmall | hlarge
      · refine ⟨[n], ?_, ?_⟩
        · rw [Hex.ofNat, Nat.toDigits_of_lt_base hsmall]
          exact spells_digit hsmall
        · exact Nat.zero_add n
      · obtain ⟨ds, hspells, hvalue⟩ := ih (n / 16) (by omega)
        refine ⟨ds ++ [n % 16], ?_, ?_⟩
        · rw [Hex.ofNat, Nat.toDigits_of_base_le (by decide) hlarge]
          exact hspells.append (spells_digit (Nat.mod_lt n (by decide)))
        · rw [valueFrom_append, hvalue]
          exact Nat.div_add_mod' n 16

theorem wordOfText?_hex (w : Word) : wordOfText? w.hex = some w := by
  obtain ⟨ds, hspells, hvalue⟩ := exists_spells_ofNat w.toNat
  have hshortest : 1 ≤ (Hex.ofNat w.toNat).length := Nat.length_toDigits_pos
  have hlongest : (Hex.ofNat w.toNat).length ≤ 64 :=
    (Nat.length_toDigits_le_iff (by decide) (by decide)).mpr w.isLt
  have hbytes : Bytes.toNat (bytesOfDigits (if ds.length % 2 = 1 then 0 :: ds else ds)) =
      w.toNat := by
    split
    · rename_i hodd
      have heven : (0 :: ds).length % 2 = 0 := by
        rw [List.length_cons]
        omega
      have hbounded : ∀ d ∈ 0 :: ds, d < 16 :=
        List.forall_mem_cons.mpr ⟨by decide, hspells.bounded⟩
      rw [toNat_bytesOfDigits hbounded heven]
      exact hvalue
    · rw [toNat_bytesOfDigits hspells.bounded (by omega), hvalue]
  rw [wordOfText?, Word.hex, hexBytes?_marked hspells (by simp [hshortest, hlongest]), Option.map_some,
    Word.ofBytes, hbytes, BitVec.ofNat_toNat, BitVec.setWidth_eq]

/-! ### Addresses and digests -/

theorem spells_ofBytes (bytes : Bytes) :
    Spells (Hex.ofBytes bytes) (bytes.flatMap fun b => [b.toNat / 16, b.toNat % 16]) := by
  induction bytes with
  | nil => exact ⟨rfl, List.forall_mem_nil _⟩
  | cons b rest ih =>
      have hb : b.toNat < 256 := b.toNat_lt
      have hhigh := spells_digit (d := b.toNat / 16) (by omega)
      have hlow := spells_digit (Nat.mod_lt b.toNat (by decide : 0 < 16))
      exact (hhigh.append hlow).append ih

theorem bytesOfDigits_halves (bytes : Bytes) :
    bytesOfDigits (bytes.flatMap fun b => [b.toNat / 16, b.toNat % 16]) = bytes := by
  induction bytes with
  | nil => rfl
  | cons b rest ih =>
      rw [List.flatMap_cons, List.cons_append, List.singleton_append, bytesOfDigits, ih,
        Nat.div_add_mod', UInt8.ofNat_toNat]

/-- The text of a byte string gives it back, if its length is allowed. -/
theorem hexBytes?_hex {bytes : Bytes} {allowed : Nat → Bool}
    (hallowed : allowed (2 * bytes.length) = true) : hexBytes? allowed bytes.hex = some bytes := by
  have hspells := spells_ofBytes bytes
  have hlength := Hex.length_ofBytes bytes
  have hdigits := hspells.length_eq
  rw [Bytes.hex, hexBytes?_marked hspells (hlength ▸ hallowed), if_neg (by omega),
    bytesOfDigits_halves]

theorem fillUp_of_length {width : Nat} {bytes : Bytes} (h : bytes.length = width) :
    fillUp width bytes = bytes := by
  rw [fillUp, h, Nat.sub_self]
  exact List.append_nil bytes

theorem addressOfText?_hex (a : Address) : addressOfText? a.hex = some a := by
  have hlength := a.length_toBytes
  rw [addressOfText?, Address.hex, hexBytes?_hex (by simp [hlength]), Option.map_some,
    fillUp_of_length hlength, Address.ofBytes_toBytes]

theorem digestOfText?_hex (d : Digest) : digestOfText? d.hex = some d := by
  have hlength := d.length_toBytes
  rw [digestOfText?, Digest.hex, hexBytes?_hex (by simp [hlength]), Option.map_some,
    fillUp_of_length hlength, Digest.ofBytes_toBytes]

end LiquidityTrigger.Json
