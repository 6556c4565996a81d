import Mathlib.Data.List.Basic
import Mathlib.Algebra.Group.Nat.Basic

/-!
# Fixed-width integer lemmas

Comparisons of `UInt8` and `UInt32` values are comparisons of their `toNat`s, and the byte
arithmetic of Lean's UTF-8 encoder (`String.utf8EncodeChar`: a shift, a truncation to a byte, a
mask and a tag) reduces to division and remainder. A statement about every `UInt8` is checked
over the 256 values by `uint8_forall`.
-/

namespace ValidateSedp

/-- `<` on bytes is `<` on their values. -/
theorem uint8_lt_iff (a b : UInt8) : a < b ↔ a.toNat < b.toNat := Iff.rfl

/-- `≤` on bytes is `≤` on their values. -/
theorem uint8_le_iff (a b : UInt8) : a ≤ b ↔ a.toNat ≤ b.toNat := Iff.rfl

/-- Two bytes are equal exactly when their values are. -/
theorem uint8_eq_iff (a b : UInt8) : a = b ↔ a.toNat = b.toNat := ⟨congrArg _, UInt8.toNat.inj⟩

/-- `≤` on 32-bit words is `≤` on their values. -/
theorem uint32_le_iff (a b : UInt32) : a ≤ b ↔ a.toNat ≤ b.toNat := Iff.rfl

/-- `UInt8.ofNat` keeps the value modulo 256. -/
theorem toNat_uint8_ofNat (n : Nat) : (UInt8.ofNat n).toNat = n % 256 := BitVec.toNat_ofNat _ _

/-- Truncating a 32-bit word to a byte keeps its value modulo 256. -/
theorem toNat_toUInt8 (v : UInt32) : v.toUInt8.toNat = v.toNat % 256 := toNat_uint8_ofNat _

/-- A right shift by 6 divides by `2 ^ 6`. -/
theorem toNat_shiftRight_6 (v : UInt32) : (v >>> 6).toNat = v.toNat / 64 := by
  show (v.toBitVec >>> (6 % 32 : UInt32).toBitVec).toNat = v.toBitVec.toNat / 64
  simp [BitVec.toNat_ushiftRight, Nat.shiftRight_eq_div_pow]

/-- A right shift by 12 divides by `2 ^ 12`. -/
theorem toNat_shiftRight_12 (v : UInt32) : (v >>> 12).toNat = v.toNat / 4096 := by
  show (v.toBitVec >>> (12 % 32 : UInt32).toBitVec).toNat = v.toBitVec.toNat / 4096
  simp [BitVec.toNat_ushiftRight, Nat.shiftRight_eq_div_pow]

/-- A right shift by 18 divides by `2 ^ 18`. -/
theorem toNat_shiftRight_18 (v : UInt32) : (v >>> 18).toNat = v.toNat / 262144 := by
  show (v.toBitVec >>> (18 % 32 : UInt32).toBitVec).toNat = v.toBitVec.toNat / 262144
  simp [BitVec.toNat_ushiftRight, Nat.shiftRight_eq_div_pow]

/-- A property of every `UInt8` from the property of the 256 values `UInt8.ofNat n`, `n < 256`,
    which `decide` can check. -/
theorem uint8_forall {P : UInt8 → Prop} (h : ∀ n, n < 256 → P (UInt8.ofNat n)) (v : UInt8) :
    P v := by
  have e : UInt8.ofNat v.toNat = v :=
    UInt8.toNat.inj (by rw [toNat_uint8_ofNat, Nat.mod_eq_of_lt v.toNat_lt_size])
  exact e ▸ h v.toNat v.toNat_lt_size

/-! ### Masks and tags: the low bits of a byte under a tag above them -/

section Masks

set_option maxRecDepth 4096

/-- The lead byte of a two-byte sequence: five payload bits under the tag `110`. -/
theorem toNat_and_1f_or_c0 : ∀ x : UInt8, (x &&& 0x1f ||| 0xc0).toNat = x.toNat % 32 + 0xc0 :=
  uint8_forall (by decide)

/-- The lead byte of a three-byte sequence: four payload bits under the tag `1110`. -/
theorem toNat_and_0f_or_e0 : ∀ x : UInt8, (x &&& 0x0f ||| 0xe0).toNat = x.toNat % 16 + 0xe0 :=
  uint8_forall (by decide)

/-- The lead byte of a four-byte sequence: three payload bits under the tag `11110`. -/
theorem toNat_and_07_or_f0 : ∀ x : UInt8, (x &&& 0x07 ||| 0xf0).toNat = x.toNat % 8 + 0xf0 :=
  uint8_forall (by decide)

/-- A continuation byte: six payload bits under the tag `10`. -/
theorem toNat_and_3f_or_80 : ∀ x : UInt8, (x &&& 0x3f ||| 0x80).toNat = x.toNat % 64 + 0x80 :=
  uint8_forall (by decide)

end Masks

end ValidateSedp
