import ValidateSedp.Native.Bytes

/-!
# Writing integers

The round-trip statements about the tool's decoders start from bytes laid out by a writer: the
capture's record headers, the submessage headers, the parameter headers. `encodeUInt e w n`
writes the `w` bytes of `n` in byte order `e`; `decodeUInt_encodeUInt` says that the tool's
reader `decodeUInt` inverts it below `256 ^ w`, and `readUInt_append_encodeUInt` is the form
the decoders' proofs use: reading `w` bytes where an encoded integer begins.
-/

namespace ValidateSedp

/-- The `w` little-endian bytes of `n`. -/
def encodeLE : Nat → Nat → Bytes
  | 0, _ => []
  | w + 1, n => UInt8.ofNat n :: encodeLE w (n / 256)

/-- The `w` bytes of `n` in byte order `e`. -/
def encodeUInt : Endian → Nat → Nat → Bytes
  | .little, w, n => encodeLE w n
  | .big, w, n => (encodeLE w n).reverse

/-- `encodeLE w n` has `w` bytes. -/
@[simp] theorem length_encodeLE (w n : Nat) : (encodeLE w n).length = w := by
  induction w generalizing n with
  | zero => rfl
  | succ w ih => simp [encodeLE, ih]

/-- `encodeUInt e w n` has `w` bytes. -/
@[simp] theorem length_encodeUInt (e : Endian) (w n : Nat) : (encodeUInt e w n).length = w := by
  cases e <;> simp [encodeUInt]

/-- Reading back `w` written bytes gives the number modulo `256 ^ w`. -/
theorem decodeLE_encodeLE (w n : Nat) : decodeLE (encodeLE w n) = n % 256 ^ w := by
  induction w generalizing n with
  | zero => simp [encodeLE, decodeLE, Nat.mod_one]
  | succ w ih =>
    have hb : (UInt8.ofNat n).toNat = n % 256 := rfl
    rw [encodeLE, decodeLE, ih, hb, Nat.pow_succ, Nat.mul_comm _ 256, Nat.mod_mul]

/-- The bytes of `a` are the low digits of `a ++ b` in base 256. -/
theorem decodeLE_append (a b : Bytes) : decodeLE (a ++ b) = decodeLE a + 256 ^ a.length * decodeLE b := by
  induction a with
  | nil => simp [decodeLE]
  | cons x a ih =>
    rw [List.cons_append, decodeLE, decodeLE, ih, List.length_cons, Nat.pow_succ, Nat.mul_add,
      Nat.mul_comm (256 ^ a.length) 256, Nat.mul_assoc, Nat.add_assoc]

/-- The reader inverts the writer below `256 ^ w`. -/
theorem decodeUInt_encodeUInt (e : Endian) {w n : Nat} (h : n < 256 ^ w) :
    decodeUInt e (encodeUInt e w n) = n := by
  cases e <;> simp [decodeUInt, encodeUInt, decodeLE_encodeLE, Nat.mod_eq_of_lt h]

/-- Writing the value of `w` little-endian bytes gives the bytes back. -/
theorem encodeLE_decodeLE (bs : Bytes) : encodeLE bs.length (decodeLE bs) = bs := by
  induction bs with
  | nil => rfl
  | cons b bs ih =>
    have hb : b.toNat < 256 := b.toNat_lt_size
    have hlow : UInt8.ofNat (b.toNat + 256 * decodeLE bs) = b :=
      UInt8.toNat.inj (show (b.toNat + 256 * decodeLE bs) % 256 = b.toNat by omega)
    rw [List.length_cons, encodeLE, decodeLE, hlow,
      show (b.toNat + 256 * decodeLE bs) / 256 = decodeLE bs by omega, ih]

/-- Writing the value of `w` bytes in either byte order gives the bytes back. -/
theorem encodeUInt_decodeUInt (e : Endian) (bs : Bytes) :
    encodeUInt e bs.length (decodeUInt e bs) = bs := by
  cases e
  · exact encodeLE_decodeLE bs
  · simpa [encodeUInt, decodeUInt] using congrArg List.reverse (encodeLE_decodeLE bs.reverse)

/-- Writing the integer read from `w` bytes of a buffer gives those bytes back. -/
theorem encodeUInt_readUInt (e : Endian) {d : Bytes} {k w : Nat} (h : k + w ≤ d.length) :
    encodeUInt e w (readUInt e d k w) = slice d k (k + w) := by
  conv_rhs => rw [← encodeUInt_decodeUInt e (slice d k (k + w))]
  rw [length_slice_of_le (by omega) h, Nat.add_sub_cancel_left]
  rfl

/-- Reading `w` bytes where `bs` (of length `w`) begins decodes `bs`. -/
theorem readUInt_append_of_length (e : Endian) {bs : Bytes} (r : Bytes) {w : Nat}
    (h : bs.length = w) : readUInt e (bs ++ r) 0 w = decodeUInt e bs := by
  subst h
  simp [readUInt, slice_zero, List.take_left]

/-- Reading `w` bytes where an encoded integer `n < 256 ^ w` begins gives `n`. -/
theorem readUInt_append_encodeUInt (e : Endian) (r : Bytes) {w n : Nat} (h : n < 256 ^ w) :
    readUInt e (encodeUInt e w n ++ r) 0 w = n := by
  rw [readUInt_append_of_length e r (length_encodeUInt e w n), decodeUInt_encodeUInt e h]

end ValidateSedp
