import Mathlib.Algebra.Group.Nat.Defs

/-!
# Words in memory

A machine word and the bytes that hold it are different things, and the order
that relates them belongs to the host.  `load` and `store` are the two native
accesses; they are inverse to each other for either order, and using one order
to write and the other to read reverses the bytes.
-/

namespace Vortex.Lib

/-- Byte order of a host. -/
inductive Endian where
  | little
  | big
  deriving DecidableEq, Repr

/-- Four consecutive bytes of memory, lowest address first. -/
structure Bytes4 where
  b0 : UInt8
  b1 : UInt8
  b2 : UInt8
  b3 : UInt8
  deriving DecidableEq, Repr

namespace Bytes4

/-- The same bytes at the opposite addresses. -/
def reverse (bytes : Bytes4) : Bytes4 where
  b0 := bytes.b3
  b1 := bytes.b2
  b2 := bytes.b1
  b3 := bytes.b0

@[simp] theorem reverse_reverse (bytes : Bytes4) : bytes.reverse.reverse = bytes := rfl

/-- The number whose most significant byte comes first. -/
def bigEndian (bytes : Bytes4) : Nat :=
  ((bytes.b0.toNat * 256 + bytes.b1.toNat) * 256 + bytes.b2.toNat) * 256 +
    bytes.b3.toNat

theorem bigEndian_lt (bytes : Bytes4) : bytes.bigEndian < 2 ^ 32 := by
  have h0 := bytes.b0.toNat_lt
  have h1 := bytes.b1.toNat_lt
  have h2 := bytes.b2.toNat_lt
  have h3 := bytes.b3.toNat_lt
  unfold bigEndian
  omega

/-- The bytes of a number, most significant first. -/
def ofBigEndian (value : Nat) : Bytes4 where
  b0 := .ofNat (value / 256 ^ 3)
  b1 := .ofNat (value / 256 ^ 2)
  b2 := .ofNat (value / 256)
  b3 := .ofNat value

@[simp] theorem ofBigEndian_bigEndian (bytes : Bytes4) :
    ofBigEndian bytes.bigEndian = bytes := by
  have h0 := bytes.b0.toNat_lt
  have h1 := bytes.b1.toNat_lt
  have h2 := bytes.b2.toNat_lt
  have h3 := bytes.b3.toNat_lt
  cases bytes with
  | mk b0 b1 b2 b3 =>
      simp only [ofBigEndian, bigEndian, mk.injEq] at *
      refine ⟨?_, ?_, ?_, ?_⟩ <;>
        apply UInt8.toNat.inj <;>
        simp only [UInt8.toNat_ofNat'] <;>
        omega

end Bytes4

namespace Endian

/-- Native load of a 32-bit word. -/
def load32 : Endian → Bytes4 → UInt32
  | .big, bytes => .ofNat bytes.bigEndian
  | .little, bytes => .ofNat bytes.reverse.bigEndian

/-- Native store of a 32-bit word. -/
def store32 : Endian → UInt32 → Bytes4
  | .big, word => .ofBigEndian word.toNat
  | .little, word => (Bytes4.ofBigEndian word.toNat).reverse

/-- Native load of a 16-bit word from two consecutive bytes. -/
def load16 : Endian → UInt8 → UInt8 → UInt16
  | .big, first, second => .ofNat (first.toNat * 256 + second.toNat)
  | .little, first, second => .ofNat (second.toNat * 256 + first.toNat)

@[simp] theorem toNat_load32_big (bytes : Bytes4) :
    (big.load32 bytes).toNat = bytes.bigEndian := by
  simp only [load32, UInt32.toNat_ofNat']
  exact Nat.mod_eq_of_lt bytes.bigEndian_lt

@[simp] theorem toNat_load32_little (bytes : Bytes4) :
    (little.load32 bytes).toNat = bytes.reverse.bigEndian :=
  toNat_load32_big bytes.reverse

/-- Storing what was loaded leaves memory as it was. -/
@[simp] theorem store32_load32 (endian : Endian) (bytes : Bytes4) :
    endian.store32 (endian.load32 bytes) = bytes := by
  cases endian with
  | big => simp [store32]
  | little => simp [store32]

/-- A word assembled most significant byte first lies reversed in the memory
of a little-endian host. -/
theorem store32_little_load32_big (bytes : Bytes4) :
    little.store32 (big.load32 bytes) = bytes.reverse := by
  simp [store32]

end Endian

end Vortex.Lib
