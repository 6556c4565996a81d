import ValidateSedp.ForStd.Except

/-!
# Python byte strings and `struct.unpack`

`validate_sedp.py` works on Python `bytes` throughout. We model a byte string as a
`List UInt8` and give the three operations the tool applies to it their Python meaning:

* `slice d a b` is `d[a:b]` for non-negative `a` and `b`; it never fails, and clamps at the
  end of the buffer (the tool never forms a negative index: its smallest stop is `4 + 0 - 1`).
* `getItem d i` is `d[i]`, which raises `IndexError` past the end.
* `unpack e w buf` is `struct.unpack` of one unsigned integer of `w` bytes in byte order `e`;
  it raises `struct.error` unless `buf` holds exactly `w` bytes.

The fallible operations return `Except PyError`, so that a model of a function of the tool
fails exactly where the Python function raises. The text the tool prints of bytes is
`format(n, "0wx")` (`formatHex`) and `bytes.hex()` (`hexlify`); `hexlify_eq` spells the latter
out as two lower-case digits per byte.
-/

namespace ValidateSedp

/-- A Python `bytes` value. -/
abbrev Bytes := List UInt8

/-- The exceptions the tool's code can raise. -/
inductive PyError where
  | valueError (msg : String)
  | structError (msg : String)
  | indexError (msg : String)
  deriving Repr, DecidableEq

/-- `d[a:b]` for `0 ≤ a` and `0 ≤ b`. -/
def slice (d : Bytes) (a b : Nat) : Bytes := (d.drop a).take (b - a)

/-- `d[i]`: the byte at `i`, or `IndexError`. -/
def getItem (d : Bytes) (i : Nat) : Except PyError UInt8 :=
  match d[i]? with
  | some b => .ok b
  | none => .error (.indexError "index out of range")

/-- The byte at `i`, or `0` past the end: the total reading of `getItem`. -/
def byteAt (d : Bytes) (i : Nat) : UInt8 := d.getD i 0

/-- The byte orders of `struct` format strings: `<` and `>`. -/
inductive Endian where
  | little
  | big
  deriving Repr, DecidableEq

/-- The unsigned integer whose little-endian bytes are `bs`. -/
def decodeLE : Bytes → Nat
  | [] => 0
  | b :: bs => b.toNat + 256 * decodeLE bs

/-- The unsigned integer with bytes `bs` in byte order `e`. -/
def decodeUInt : Endian → Bytes → Nat
  | .little, bs => decodeLE bs
  | .big, bs => decodeLE bs.reverse

/-- `struct.unpack` of one unsigned integer of `width` bytes (`H`, `I` or `Q`). -/
def unpack (e : Endian) (width : Nat) (buf : Bytes) : Except PyError Nat :=
  if buf.length = width then .ok (decodeUInt e buf)
  else .error (.structError s!"unpack requires a buffer of {width} bytes")

/-- The unsigned integer of `width` bytes at `off`: the total reading of
    `unpack e width (slice d off (off + width))`. -/
def readUInt (e : Endian) (d : Bytes) (off width : Nat) : Nat :=
  decodeUInt e (slice d off (off + width))

/-- Python's `format(n, "0wx")` (or `"0wX"` when `upper`): hexadecimal, zero-padded to `width`. -/
def formatHex (upper : Bool) (width n : Nat) : String :=
  let digits := Nat.toDigits 16 n
  let digits := if upper then digits.map Char.toUpper else digits
  String.mk (List.replicate (width - digits.length) '0' ++ digits)

/-- `bytes.hex()`: two lower-case hexadecimal digits per byte. -/
def hexlify (d : Bytes) : String := String.join (d.map fun b => formatHex false 2 b.toNat)

/-! ### Slices -/

/-- A slice holds the bytes between its bounds that the buffer has. -/
@[simp] theorem length_slice (d : Bytes) (a b : Nat) :
    (slice d a b).length = min (b - a) (d.length - a) := by
  simp [slice]

/-- A slice inside the buffer holds `b - a` bytes. -/
theorem length_slice_of_le {d : Bytes} {a b : Nat} (hab : a ≤ b) (hb : b ≤ d.length) :
    (slice d a b).length = b - a := by
  simp only [length_slice]; omega

/-- Slicing past a prefix reads the rest. -/
theorem slice_append_right (p r : Bytes) (a b : Nat) :
    slice (p ++ r) (p.length + a) (p.length + b) = slice r a b := by
  simp only [slice, List.drop_append, Nat.add_sub_add_left]

/-- A slice that starts past a prefix is a slice of the rest. -/
theorem slice_append_of_le {p : Bytes} (r : Bytes) {a : Nat} (b : Nat) (h : p.length ≤ a) :
    slice (p ++ r) a b = slice r (a - p.length) (b - p.length) := by
  simp only [slice, List.drop_append_eq_append_drop, List.drop_eq_nil_of_le h, List.nil_append]
  congr 1; omega

/-- A slice that ends inside the first part does not see the second. -/
theorem slice_append_left {p : Bytes} (r : Bytes) {a b : Nat} (hb : b ≤ p.length) :
    slice (p ++ r) a b = slice p a b := by
  simp only [slice, List.drop_append_eq_append_drop, List.take_append_eq_append_take]
  have : b - a - (p.length - a) = 0 := by omega
  simp [this]

/-- A slice that ends inside a prefix of the buffer reads the buffer itself. -/
theorem slice_take (d : Bytes) {a b n : Nat} (h : b ≤ n) : slice (d.take n) a b = slice d a b := by
  simp only [slice, List.drop_take, List.take_take]
  congr 1; omega

/-- A slice of a prefix of the buffer is the buffer's slice cut where the prefix ends. -/
theorem slice_take_eq_take (d : Bytes) (a b n : Nat) :
    slice (d.take n) a b = (slice d a b).take (n - a) := by
  simp only [slice, List.drop_take, List.take_take, Nat.min_comm]

/-- A slice of the bytes from `a` on is the buffer's slice moved by `a`. -/
theorem slice_drop (d : Bytes) (a b c : Nat) : slice (d.drop a) b c = slice d (a + b) (a + c) := by
  simp [slice, List.drop_drop, Nat.add_sub_add_left, Nat.add_comm]

/-- `d[0:n]` is the first `n` bytes. -/
theorem slice_zero (d : Bytes) (n : Nat) : slice d 0 n = d.take n := by
  simp [slice]

/-- Two adjacent slices make up the slice that spans them. -/
theorem slice_append_slice (d : Bytes) {a b c : Nat} (hab : a ≤ b) (hbc : b ≤ c) :
    slice d a b ++ slice d b c = slice d a c := by
  rw [slice, slice, slice, show c - a = (b - a) + (c - b) by omega, List.take_add,
    List.drop_drop, Nat.add_sub_cancel' hab]

/-- The bytes from `a` on are the slice up to `b` and the bytes from `b` on. -/
theorem drop_eq_slice_append_drop (d : Bytes) {a b : Nat} (h : a ≤ b) :
    d.drop a = slice d a b ++ d.drop b := by
  conv_lhs => rw [← List.take_append_drop (b - a) (d.drop a)]
  rw [List.drop_drop, Nat.add_sub_cancel' h]
  rfl

/-- The first `n` bytes, where a part of length `n` begins, are that part. -/
theorem slice_append_of_length {x : Bytes} (r : Bytes) {n : Nat} (h : x.length = n) :
    slice (x ++ r) 0 n = x := by
  subst h; rw [slice_zero, List.take_left]

/-- The whole of a buffer is the slice of its own length. -/
@[simp] theorem slice_self (d : Bytes) : slice d 0 d.length = d := by
  simp [slice]

/-- A slice that starts at or past the end is empty. -/
theorem slice_of_length_le {d : Bytes} {a : Nat} (b : Nat) (h : d.length ≤ a) : slice d a b = [] := by
  simp [slice, List.drop_eq_nil_of_le h]

/-! ### Items and integers -/

/-- `d[i]` inside the buffer does not raise, and reads `byteAt`. -/
theorem getItem_of_lt {d : Bytes} {i : Nat} (h : i < d.length) : getItem d i = .ok (byteAt d i) := by
  simp [getItem, byteAt, List.getElem?_eq_getElem h]

/-- A byte before the end of a prefix of the buffer is the buffer's byte. -/
theorem byteAt_take (d : Bytes) {i n : Nat} (h : i < n) : byteAt (d.take n) i = byteAt d i := by
  simp only [byteAt, List.getD_eq_getElem?_getD, List.getElem?_take_of_lt h]

/-- A byte past a prefix is a byte of the rest. -/
@[simp] theorem byteAt_append_right (p r : Bytes) (i : Nat) :
    byteAt (p ++ r) (p.length + i) = byteAt r i := by
  simp [byteAt, List.getElem?_append_right]

/-- A byte at or past the end of a prefix is a byte of the rest. -/
theorem byteAt_append_of_le {p : Bytes} (r : Bytes) {i : Nat} (h : p.length ≤ i) :
    byteAt (p ++ r) i = byteAt r (i - p.length) := by
  simp [byteAt, List.getElem?_append_right h]

/-- A byte of the bytes from `a` on is the buffer's byte `a` further. -/
theorem byteAt_drop (d : Bytes) (a i : Nat) : byteAt (d.drop a) i = byteAt d (a + i) := by
  simp only [byteAt, List.getD_eq_getElem?_getD, List.getElem?_drop]

/-- Four bytes inside the buffer, one by one. -/
theorem slice_four {d : Bytes} {a : Nat} (h : a + 4 ≤ d.length) :
    slice d a (a + 4) = [byteAt d a, byteAt d (a + 1), byteAt d (a + 2), byteAt d (a + 3)] := by
  have hlen : 4 ≤ (d.drop a).length := by simp only [List.length_drop]; omega
  rw [slice, Nat.add_sub_cancel_left, ← Nat.add_zero a, ← byteAt_drop, ← byteAt_drop,
    ← byteAt_drop, ← byteAt_drop, Nat.add_zero]
  generalize d.drop a = t at hlen ⊢
  match t, hlen with
  | _ :: _ :: _ :: _ :: _, _ => rfl

/-- `struct.unpack` of a buffer of the right size does not raise. -/
theorem unpack_of_length {e : Endian} {w : Nat} {buf : Bytes} (h : buf.length = w) :
    unpack e w buf = .ok (decodeUInt e buf) := by
  simp [unpack, h]

/-- An `unpack` of a slice that lies inside the buffer succeeds with `readUInt`. -/
theorem unpack_slice {e : Endian} {d : Bytes} {off stop w : Nat} (hw : off + w = stop)
    (h : stop ≤ d.length) : unpack e w (slice d off stop) = .ok (readUInt e d off w) := by
  subst hw
  exact unpack_of_length (by rw [length_slice_of_le (by omega) h]; omega)

/-- A field past a prefix is a field of the rest. -/
@[simp] theorem readUInt_append_right (e : Endian) (p r : Bytes) (off w : Nat) :
    readUInt e (p ++ r) (p.length + off) w = readUInt e r off w := by
  simp only [readUInt, Nat.add_assoc, slice_append_right]

/-- A field that ends inside a prefix of the buffer reads the buffer itself. -/
theorem readUInt_take (e : Endian) (d : Bytes) {off w n : Nat} (h : off + w ≤ n) :
    readUInt e (d.take n) off w = readUInt e d off w := by
  rw [readUInt, slice_take _ h, readUInt]

/-- Reading past a prefix of the buffer reads the rest. -/
theorem readUInt_append_of_le (e : Endian) {p : Bytes} (r : Bytes) {off : Nat} (w : Nat)
    (h : p.length ≤ off) : readUInt e (p ++ r) off w = readUInt e r (off - p.length) w := by
  conv_lhs => rw [show off = p.length + (off - p.length) by omega]
  exact readUInt_append_right e p r _ w

/-- `n` bytes hold an integer below `256 ^ n`. -/
theorem decodeLE_lt (bs : Bytes) : decodeLE bs < 256 ^ bs.length := by
  induction bs with
  | nil => simp [decodeLE]
  | cons b bs ih =>
    have hb : b.toNat < 256 := b.toNat_lt_size
    simp only [decodeLE, List.length_cons, Nat.pow_succ]
    omega

/-- `n` bytes hold an integer below `256 ^ n`, in either byte order. -/
theorem decodeUInt_lt (e : Endian) (bs : Bytes) : decodeUInt e bs < 256 ^ bs.length := by
  cases e
  · exact decodeLE_lt bs
  · simpa using decodeLE_lt bs.reverse

/-- A field of `w` bytes is below `256 ^ w`, also where the end of the buffer cuts it. -/
theorem readUInt_lt (e : Endian) (d : Bytes) (off w : Nat) : readUInt e d off w < 256 ^ w :=
  Nat.lt_of_lt_of_le (decodeUInt_lt e _)
    (Nat.pow_le_pow_right (by decide) (by simp only [length_slice]; omega))

/-- A byte is zero exactly when its value is. -/
private theorem uint8_eq_zero_iff (b : UInt8) : b = 0 ↔ b.toNat = 0 :=
  ⟨fun h => h ▸ rfl, fun h => UInt8.toNat.inj h⟩

/-- A little-endian integer is zero exactly when all its bytes are. -/
theorem decodeLE_eq_zero_iff (bs : Bytes) : decodeLE bs = 0 ↔ ∀ b ∈ bs, b = 0 := by
  induction bs with
  | nil => simp [decodeLE]
  | cons b bs ih =>
    rw [decodeLE, List.forall_mem_cons, ← ih, uint8_eq_zero_iff]
    omega

/-! ### Text -/

/-- The two hexadecimal digits of a byte, high half first, in lower case. -/
def hexPair (b : UInt8) : List Char := [Nat.digitChar (b.toNat / 16), Nat.digitChar (b.toNat % 16)]

/-- `format(b, "02x")` of a byte is its two digits. -/
theorem formatHex_two (b : UInt8) : formatHex false 2 b.toNat = String.mk (hexPair b) := by
  have h : b.toNat < 256 := b.toNat_lt_size
  rw [hexPair]
  generalize b.toNat = n at h ⊢
  -- the first turn of `Nat.toDigits`: the low digit, and the rest of the number
  have hlow : Nat.toDigits 16 n = if n / 16 = 0 then [Nat.digitChar (n % 16)]
      else Nat.toDigitsCore 16 n (n / 16) [Nat.digitChar (n % 16)] := rfl
  by_cases h16 : n < 16
  · rw [formatHex, hlow, if_pos (Nat.div_eq_of_lt h16), Nat.div_eq_of_lt h16]
    rfl
  · obtain ⟨k, rfl⟩ : ∃ k, n = k + 1 := ⟨n - 1, by omega⟩
    -- the second turn: the high digit, and nothing left
    have hhigh : Nat.toDigitsCore 16 (k + 1) ((k + 1) / 16) [Nat.digitChar ((k + 1) % 16)] =
        if (k + 1) / 16 / 16 = 0 then [Nat.digitChar ((k + 1) / 16 % 16), Nat.digitChar ((k + 1) % 16)]
        else Nat.toDigitsCore 16 k ((k + 1) / 16 / 16)
          [Nat.digitChar ((k + 1) / 16 % 16), Nat.digitChar ((k + 1) % 16)] := rfl
    rw [formatHex, hlow, if_neg (show ¬ (k + 1) / 16 = 0 by omega), hhigh,
      if_pos (show (k + 1) / 16 / 16 = 0 by omega), Nat.mod_eq_of_lt (show (k + 1) / 16 < 16 by omega)]
    rfl

/-- `bytes.hex()` writes the two digits of each byte in turn. -/
theorem hexlify_eq (d : Bytes) : hexlify d = String.mk (d.flatMap hexPair) := by
  suffices h : ∀ acc : String, (d.map fun b => formatHex false 2 b.toNat).foldl (· ++ ·) acc =
      acc ++ String.mk (d.flatMap hexPair) from (h "").trans (String.ext (by simp))
  induction d with
  | nil => intro acc; exact String.ext (by simp)
  | cons b d ih =>
    intro acc
    rw [List.map_cons, List.foldl_cons, ih, formatHex_two]
    exact String.ext (by simp [String.data_append])

/-- `bytes.hex()` has two characters per byte. -/
theorem length_hexlify (d : Bytes) : (hexlify d).length = 2 * d.length := by
  rw [hexlify_eq, String.length]
  induction d with
  | nil => rfl
  | cons b d ih => simp [hexPair, ih]; omega

/-- The sixteen digits `Nat.digitChar` writes are the lower-case hexadecimal ones. -/
private theorem digitChar_mem : ∀ n, n < 16 → Nat.digitChar n ∈ "0123456789abcdef".data := by
  decide

/-- Every character of `bytes.hex()` is a lower-case hexadecimal digit. -/
theorem mem_hexlify {d : Bytes} {c : Char} (h : c ∈ (hexlify d).data) :
    c ∈ "0123456789abcdef".data := by
  simp only [hexlify_eq, List.mem_flatMap, hexPair, List.mem_cons, List.mem_singleton,
    List.not_mem_nil, or_false] at h
  obtain ⟨b, -, rfl | rfl⟩ := h
  · exact digitChar_mem _ (by have := b.toNat_lt_size; simp only [UInt8.size] at this; omega)
  · exact digitChar_mem _ (Nat.mod_lt _ (by decide))

end ValidateSedp
