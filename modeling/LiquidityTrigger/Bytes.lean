/-!
# Bytes and the numbers they spell

Byte strings are lists of bytes, and every number on the wire is big-endian. Three functions carry
the whole project: `Bytes.toNat` reads a byte string of any length, `Bytes.ofNat` writes a number
into a fixed width, and `Bytes.ofNatMinimal` writes it without leading zeros. Reading back what
either writer wrote gives the number (`toNat_ofNat`).
-/

namespace LiquidityTrigger

-- Powers of numbers are the core library's, also where other instances are in scope.
@[default_instance 20000]
instance (priority := 1100) natPow : Pow Nat Nat := instPowNat

abbrev Bytes := List UInt8

namespace Bytes

/-- The number a byte string spells, most significant byte first. The empty string spells zero. -/
def toNat (bytes : Bytes) : Nat := bytes.foldl (fun n b => n * 256 + b.toNat) 0

/-- The low `width` bytes of a number, most significant byte first. -/
def ofNat : Nat → Nat → Bytes
  | 0, _ => []
  | width + 1, n => ofNat width (n / 256) ++ [UInt8.ofNat (n % 256)]

/-- The least number of bytes that can hold a number; zero needs none. -/
def minimalWidth (n : Nat) : Nat := if n = 0 then 0 else n.log2 / 8 + 1

/-- A number without leading zero bytes; zero is the empty string. -/
def ofNatMinimal (n : Nat) : Bytes := ofNat (minimalWidth n) n

@[simp] theorem toNat_nil : toNat [] = 0 := rfl

@[simp] theorem toNat_append_singleton (bytes : Bytes) (b : UInt8) :
    toNat (bytes ++ [b]) = toNat bytes * 256 + b.toNat := by
  simp [toNat, List.foldl_append]

@[simp] theorem length_ofNat (width n : Nat) : (ofNat width n).length = width := by
  induction width generalizing n with
  | zero => rfl
  | succ w ih => simp [ofNat, ih]

theorem toNat_ofNat (width n : Nat) : toNat (ofNat width n) = n % 256 ^ width := by
  induction width generalizing n with
  | zero => simp [ofNat, Nat.mod_one]
  | succ w ih =>
      have hbyte : (UInt8.ofNat (n % 256)).toNat = n % 256 := by
        rw [UInt8.toNat_ofNat']
        exact Nat.mod_eq_of_lt (Nat.mod_lt _ (by decide))
      rw [ofNat, toNat_append_singleton, ih, hbyte, Nat.pow_succ', Nat.mod_mul]
      omega

end Bytes

end LiquidityTrigger
