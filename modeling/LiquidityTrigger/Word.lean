import LiquidityTrigger.Bytes

/-!
# Words, addresses and digests

Amounts are 256-bit words, compared as unsigned numbers. An account or contract is a 20-byte
address and a hash is a 32-byte digest; both are kept as bit vectors behind a type of their own, so
that an amount is never taken for an address.
-/

namespace LiquidityTrigger

abbrev Word := BitVec 256

namespace Word

/-- The word that a big-endian byte string spells, reduced to 256 bits. -/
def ofBytes (bytes : Bytes) : Word := BitVec.ofNat 256 (Bytes.toNat bytes)

def toBytes (w : Word) : Bytes := Bytes.ofNat 32 w.toNat

@[simp] theorem length_toBytes (w : Word) : w.toBytes.length = 32 := by simp [toBytes]

@[simp] theorem ofBytes_toBytes (w : Word) : ofBytes w.toBytes = w := by
  apply BitVec.eq_of_toNat_eq
  rw [ofBytes, toBytes, BitVec.toNat_ofNat, Bytes.toNat_ofNat]
  have := w.isLt
  omega

end Word

/-- The 20 bytes that name an account or a contract. -/
structure Address where
  bits : BitVec 160
  deriving DecidableEq, Repr

namespace Address

/-- The address that a byte string spells, reduced to its last 20 bytes. -/
def ofBytes (bytes : Bytes) : Address := ⟨BitVec.ofNat 160 (Bytes.toNat bytes)⟩

def toBytes (a : Address) : Bytes := Bytes.ofNat 20 a.bits.toNat

/-- An address in the low 160 bits of a word; the high bits are dropped. -/
def ofWord (w : Word) : Address := ⟨w.setWidth 160⟩

def toWord (a : Address) : Word := a.bits.setWidth 256

@[simp] theorem length_toBytes (a : Address) : a.toBytes.length = 20 := by simp [toBytes]

@[simp] theorem ofBytes_toBytes (a : Address) : ofBytes a.toBytes = a := by
  cases a with
  | mk bits =>
      simp only [ofBytes, toBytes, mk.injEq]
      apply BitVec.eq_of_toNat_eq
      rw [BitVec.toNat_ofNat, Bytes.toNat_ofNat]
      have := bits.isLt
      omega

@[simp] theorem ofWord_toWord (a : Address) : ofWord a.toWord = a := by
  cases a with
  | mk bits => simp [ofWord, toWord]

end Address

structure Digest where
  bits : BitVec 256
  deriving DecidableEq, Repr

namespace Digest

/-- The digest that a byte string spells, reduced to its last 32 bytes. -/
def ofBytes (bytes : Bytes) : Digest := ⟨BitVec.ofNat 256 (Bytes.toNat bytes)⟩

def toBytes (d : Digest) : Bytes := Bytes.ofNat 32 d.bits.toNat

def zero : Digest := ⟨0⟩

@[simp] theorem length_toBytes (d : Digest) : d.toBytes.length = 32 := by simp [toBytes]

end Digest

end LiquidityTrigger
