import ValidateSedp.Native.Utf8
import ValidateSedp.ForStd.UInt

/-!
# UTF-8 decoding correctness

The decoder's tests on a byte (`seqLength`, `isContinuation`, `secondByteOk`) and the code point
it assembles (`codePoint`) are first restated on the bytes' values. A well-formed sequence of
two, three or four bytes then decodes to the character of its payload bits
(`foldl_utf8Step_two`, `_three`, `_four`). Lean's encoder `String.utf8EncodeChar` writes such a
sequence for every character, with the character's code point as payload, and conversely such a
sequence is what the encoder writes for the character it decodes to (`utf8EncodeChar_two`,
`_three`, `_four`).

## Key results

- `foldl_utf8Step_encodeChar`: the decoder reads the encoding of a character back as that
  character, from any decoded prefix.
- `utf8DecodeIgnore_toUTF8`: `bytes.decode('utf-8', errors='ignore')` inverts
  `str.encode('utf-8')`: decoding the UTF-8 bytes of a string gives back its characters.
- `decodeUtf8Ignore_toUTF8_sublist`: in the other direction, every sequence the decoder completes
  is the encoding of the character it emits (`utf8EncodeChar_codePoint`), so the decoder only
  drops bytes: the encoding of its output is a subsequence of its input.
-/

namespace ValidateSedp

/-! ### The decoder's tests on byte values -/

/-- The sequence length by the lead byte's value. -/
theorem seqLength_eq (b : UInt8) : seqLength b =
    if b.toNat < 0x80 then 1 else if b.toNat < 0xC2 then 0 else if b.toNat < 0xE0 then 2
    else if b.toNat < 0xF0 then 3 else if b.toNat < 0xF5 then 4 else 0 := by
  simp [seqLength, uint8_lt_iff, UInt8.size]

/-- A continuation byte by its value. -/
theorem isContinuation_iff (b : UInt8) :
    isContinuation b = true ↔ 0x80 ≤ b.toNat ∧ b.toNat ≤ 0xBF := by
  simp [isContinuation, uint8_le_iff, UInt8.size]

/-- The second byte's range by the values of both bytes. -/
theorem secondByteOk_iff (lead c : UInt8) : secondByteOk lead c = true ↔
    if lead.toNat = 0xE0 then 0xA0 ≤ c.toNat ∧ c.toNat ≤ 0xBF
    else if lead.toNat = 0xED then 0x80 ≤ c.toNat ∧ c.toNat ≤ 0x9F
    else if lead.toNat = 0xF0 then 0x90 ≤ c.toNat ∧ c.toNat ≤ 0xBF
    else if lead.toNat = 0xF4 then 0x80 ≤ c.toNat ∧ c.toNat ≤ 0x8F
    else 0x80 ≤ c.toNat ∧ c.toNat ≤ 0xBF := by
  simp only [secondByteOk, isContinuation, uint8_eq_iff, uint8_le_iff, UInt8.reduceToNat,
    Bool.ite_eq_true_distrib, Bool.and_eq_true, decide_eq_true_eq]

/-- The code point of a two-byte sequence. -/
theorem codePoint_two (a b : UInt8) : codePoint a [b] = a.toNat % 32 * 64 + b.toNat % 64 := rfl

/-- The code point of a three-byte sequence. -/
theorem codePoint_three (a b c : UInt8) :
    codePoint a [b, c] = (a.toNat % 16 * 64 + b.toNat % 64) * 64 + c.toNat % 64 := by
  simp [codePoint, contBits]

/-- The code point of a four-byte sequence. -/
theorem codePoint_four (a b c d : UInt8) :
    codePoint a [b, c, d] =
      ((a.toNat % 8 * 64 + b.toNat % 64) * 64 + c.toNat % 64) * 64 + d.toNat % 64 := by
  simp [codePoint, contBits]

/-! ### Well-formed sequences -/

/-- A lead byte `C2`–`DF` and a continuation byte decode to the character of their payloads. -/
theorem foldl_utf8Step_two (out : List Char) {b1 b2 : UInt8} {p1 p2 : Nat}
    (h1 : b1.toNat = 0xC0 + p1) (hp1 : 2 ≤ p1 ∧ p1 < 32) (h2 : b2.toNat = 0x80 + p2)
    (hp2 : p2 < 64) :
    [b1, b2].foldl utf8Step (out, none) = (out ++ [Char.ofNat (p1 * 64 + p2)], none) := by
  have hs : seqLength b1 = 2 := by
    rw [seqLength_eq, if_neg (by omega), if_neg (by omega), if_pos (by omega)]
  have hc : continues b1 1 b2 = true := by
    rw [continues, if_pos rfl, secondByteOk_iff, if_neg (by omega), if_neg (by omega),
      if_neg (by omega), if_neg (by omega)]
    omega
  simp [utf8Step, utf8Start, hs, hc, codePoint_two, h1, h2]
  congr 1
  omega

/-- A lead byte `E0`–`EF`, a second byte in its range, and a continuation byte. -/
theorem foldl_utf8Step_three (out : List Char) {b1 b2 b3 : UInt8} {p1 p2 p3 : Nat}
    (h1 : b1.toNat = 0xE0 + p1) (hp1 : p1 < 16) (h2 : b2.toNat = 0x80 + p2) (hp2 : p2 < 64)
    (hok : secondByteOk b1 b2 = true) (h3 : b3.toNat = 0x80 + p3) (hp3 : p3 < 64) :
    [b1, b2, b3].foldl utf8Step (out, none) =
      (out ++ [Char.ofNat ((p1 * 64 + p2) * 64 + p3)], none) := by
  have hs : seqLength b1 = 3 := by
    rw [seqLength_eq, if_neg (by omega), if_neg (by omega), if_neg (by omega), if_pos (by omega)]
  have hc3 : isContinuation b3 = true := (isContinuation_iff b3).2 (by omega)
  simp [utf8Step, utf8Start, hs, continues, hok, hc3, codePoint_three, h1, h2, h3]
  congr 1
  omega

/-- A lead byte `F0`–`F4`, a second byte in its range, and two continuation bytes. -/
theorem foldl_utf8Step_four (out : List Char) {b1 b2 b3 b4 : UInt8} {p1 p2 p3 p4 : Nat}
    (h1 : b1.toNat = 0xF0 + p1) (hp1 : p1 < 5) (h2 : b2.toNat = 0x80 + p2) (hp2 : p2 < 64)
    (hok : secondByteOk b1 b2 = true) (h3 : b3.toNat = 0x80 + p3) (hp3 : p3 < 64)
    (h4 : b4.toNat = 0x80 + p4) (hp4 : p4 < 64) :
    [b1, b2, b3, b4].foldl utf8Step (out, none) =
      (out ++ [Char.ofNat (((p1 * 64 + p2) * 64 + p3) * 64 + p4)], none) := by
  have hs : seqLength b1 = 4 := by
    rw [seqLength_eq, if_neg (by omega), if_neg (by omega), if_neg (by omega), if_neg (by omega),
      if_pos (by omega)]
  have hc3 : isContinuation b3 = true := (isContinuation_iff b3).2 (by omega)
  have hc4 : isContinuation b4 = true := (isContinuation_iff b4).2 (by omega)
  simp [utf8Step, utf8Start, hs, continues, hok, hc3, hc4, codePoint_four, h1, h2, h3, h4]
  congr 1
  omega

/-! ### The encoder's sequences -/

/-- The decoder reads the encoding of a character back as that character. The code point `n`
    of a character is below `D800` or between `E000` and `10FFFF`; this is what makes the second
    byte of a three- or four-byte encoding pass `secondByteOk`. -/
theorem foldl_utf8Step_encodeChar (out : List Char) (c : Char) :
    (String.utf8EncodeChar c).foldl utf8Step (out, none) = (out ++ [c], none) := by
  obtain ⟨n, hn⟩ : ∃ n, c.val.toNat = n := ⟨_, rfl⟩
  have hvalid : n < 0xd800 ∨ (0xdfff < n ∧ n < 0x110000) := hn ▸ c.valid
  have hc : Char.ofNat n = c := hn ▸ Char.ofNat_toNat c
  have hcont : ∀ v : UInt32, (v.toUInt8 &&& 0x3f ||| 0x80).toNat = 0x80 + v.toNat % 64 :=
    fun v => by rw [toNat_and_3f_or_80, toNat_toUInt8]; omega
  unfold String.utf8EncodeChar
  simp only [uint32_le_iff, hn, UInt32.reduceToNat]
  split_ifs with h1 h2 h3
  · have hb : c.val.toUInt8.toNat = n := by rw [toNat_toUInt8, hn]; omega
    simp only [List.foldl, utf8Step, utf8Start, seqLength_eq, hb, if_pos (show n < 0x80 by omega),
      hc]
  · have hb1 : ((c.val >>> 6).toUInt8 &&& 0x1f ||| 0xc0).toNat = 0xC0 + n / 64 := by
      rw [toNat_and_1f_or_c0, toNat_toUInt8, toNat_shiftRight_6, hn]; omega
    rw [foldl_utf8Step_two out hb1 (by omega) (by rw [hcont, hn]) (Nat.mod_lt _ (by omega)),
      show n / 64 * 64 + n % 64 = n by omega, hc]
  · have hb1 : ((c.val >>> 12).toUInt8 &&& 0x0f ||| 0xe0).toNat = 0xE0 + n / 4096 := by
      rw [toNat_and_0f_or_e0, toNat_toUInt8, toNat_shiftRight_12, hn]; omega
    have hb2 : ((c.val >>> 6).toUInt8 &&& 0x3f ||| 0x80).toNat = 0x80 + n / 64 % 64 := by
      rw [hcont, toNat_shiftRight_6, hn]
    rw [foldl_utf8Step_three out hb1 (by omega) hb2 (Nat.mod_lt _ (by omega))
      (by rw [secondByteOk_iff, hb1, hb2]; split_ifs <;> omega) (by rw [hcont, hn])
      (Nat.mod_lt _ (by omega)), show (n / 4096 * 64 + n / 64 % 64) * 64 + n % 64 = n by omega, hc]
  · have hb1 : ((c.val >>> 18).toUInt8 &&& 0x07 ||| 0xf0).toNat = 0xF0 + n / 262144 := by
      rw [toNat_and_07_or_f0, toNat_toUInt8, toNat_shiftRight_18, hn]; omega
    have hb2 : ((c.val >>> 12).toUInt8 &&& 0x3f ||| 0x80).toNat = 0x80 + n / 4096 % 64 := by
      rw [hcont, toNat_shiftRight_12, hn]
    have hb3 : ((c.val >>> 6).toUInt8 &&& 0x3f ||| 0x80).toNat = 0x80 + n / 64 % 64 := by
      rw [hcont, toNat_shiftRight_6, hn]
    rw [foldl_utf8Step_four out hb1 (by omega) hb2 (Nat.mod_lt _ (by omega))
      (by rw [secondByteOk_iff, hb1, hb2]; split_ifs <;> omega) hb3 (Nat.mod_lt _ (by omega))
      (by rw [hcont, hn]) (Nat.mod_lt _ (by omega)),
      show ((n / 262144 * 64 + n / 4096 % 64) * 64 + n / 64 % 64) * 64 + n % 64 = n by omega, hc]

/-- Decoding the UTF-8 encoding of a string gives back its characters. -/
theorem utf8DecodeIgnore_toUTF8 (s : String) :
    utf8DecodeIgnore s.toUTF8.data.toList = s.data := by
  suffices h : ∀ (cs out : List Char),
      (cs.flatMap String.utf8EncodeChar).foldl utf8Step (out, none) = (out ++ cs, none) by
    simpa using congrArg Prod.fst (h s.data [])
  intro cs
  induction cs with
  | nil => intro out; simp
  | cons c cs ih => intro out; simp [List.foldl_append, foldl_utf8Step_encodeChar, ih]

/-! ### The decoder's sequences are the encoder's -/

/-- A valid scalar value is the code of the character made from it. -/
private theorem toNat_val_ofNat {n : Nat} (h : n.isValidChar) : (Char.ofNat n).val.toNat = n := by
  rw [Char.ofNat, dif_pos h]
  rfl

/-- What the length test says of a byte. -/
theorem seqLength_spec {b : UInt8} {k : Nat} (h : seqLength b = k) :
    k ≤ 4 ∧ (k = 1 → b.toNat < 0x80) ∧ (k = 2 → 0xC2 ≤ b.toNat ∧ b.toNat < 0xE0) ∧
      (k = 3 → 0xE0 ≤ b.toNat ∧ b.toNat < 0xF0) ∧ (k = 4 → 0xF0 ≤ b.toNat ∧ b.toNat < 0xF5) := by
  rw [seqLength_eq] at h
  split_ifs at h <;> omega

/-- What the second-byte test says of a byte. -/
theorem secondByteOk_spec {b1 b2 : UInt8} (hok : secondByteOk b1 b2 = true) :
    (b1.toNat = 0xE0 → 0xA0 ≤ b2.toNat) ∧ (b1.toNat = 0xED → b2.toNat ≤ 0x9F) ∧
      (b1.toNat = 0xF0 → 0x90 ≤ b2.toNat) ∧ (b1.toNat = 0xF4 → b2.toNat ≤ 0x8F) ∧
      0x80 ≤ b2.toNat ∧ b2.toNat ≤ 0xBF := by
  rw [secondByteOk_iff] at hok
  split_ifs at hok <;> omega

/-- An ASCII byte is the encoding of its character. -/
theorem utf8EncodeChar_one {b : UInt8} (h : b.toNat < 0x80) :
    String.utf8EncodeChar (Char.ofNat b.toNat) = [b] := by
  have hv := toNat_val_ofNat (show b.toNat.isValidChar from .inl (by omega))
  unfold String.utf8EncodeChar
  simp only [uint32_le_iff, hv, UInt32.reduceToNat, if_pos (show b.toNat ≤ 127 by omega),
    List.cons.injEq, uint8_eq_iff, toNat_toUInt8, and_true]
  omega

/-- A lead byte `C2`–`DF` and a continuation byte are the encoding of the character of their
    payloads. -/
theorem utf8EncodeChar_two {b1 b2 : UInt8} {p1 p2 : Nat} (h1 : b1.toNat = 0xC0 + p1)
    (hp1 : 2 ≤ p1 ∧ p1 < 32) (h2 : b2.toNat = 0x80 + p2) (hp2 : p2 < 64) :
    String.utf8EncodeChar (Char.ofNat (p1 * 64 + p2)) = [b1, b2] := by
  generalize hn : p1 * 64 + p2 = n
  have hd1 : n / 64 = p1 := by omega
  have hd2 : n % 64 = p2 := by omega
  have hv := toNat_val_ofNat (show n.isValidChar from .inl (by omega))
  unfold String.utf8EncodeChar
  simp only [uint32_le_iff, hv, UInt32.reduceToNat]
  rw [if_neg (by omega), if_pos (by omega)]
  simp only [List.cons.injEq, uint8_eq_iff, toNat_and_1f_or_c0, toNat_and_3f_or_80, toNat_toUInt8,
    toNat_shiftRight_6, hv, and_true, Nat.mod_mod_of_dvd _ (show 32 ∣ 256 by decide),
    Nat.mod_mod_of_dvd _ (show 64 ∣ 256 by decide), hd1, hd2, h1, h2, Nat.mod_eq_of_lt hp1.2,
    Nat.mod_eq_of_lt hp2, Nat.add_comm, and_self]

/-- A lead byte `E0`–`EF`, a second byte in its range and a continuation byte are the encoding
    of the character of their payloads. -/
theorem utf8EncodeChar_three {b1 b2 b3 : UInt8} {p1 p2 p3 : Nat} (h1 : b1.toNat = 0xE0 + p1)
    (hp1 : p1 < 16) (h2 : b2.toNat = 0x80 + p2) (hp2 : p2 < 64) (hok : secondByteOk b1 b2 = true)
    (h3 : b3.toNat = 0x80 + p3) (hp3 : p3 < 64) :
    String.utf8EncodeChar (Char.ofNat ((p1 * 64 + p2) * 64 + p3)) = [b1, b2, b3] := by
  have hrange : 0x800 ≤ (p1 * 64 + p2) * 64 + p3 ∧ ((p1 * 64 + p2) * 64 + p3).isValidChar := by
    obtain ⟨hE0, hED, -, -, -⟩ := secondByteOk_spec hok
    unfold Nat.isValidChar; omega
  generalize hn : (p1 * 64 + p2) * 64 + p3 = n at hrange
  have hd1 : n / 4096 = p1 := by omega
  have hd2 : n / 64 % 64 = p2 := by omega
  have hd3 : n % 64 = p3 := by omega
  have hv := toNat_val_ofNat hrange.2
  unfold String.utf8EncodeChar
  simp only [uint32_le_iff, hv, UInt32.reduceToNat]
  rw [if_neg (by omega), if_neg (by omega), if_pos (by omega)]
  simp only [List.cons.injEq, uint8_eq_iff, toNat_and_0f_or_e0, toNat_and_3f_or_80, toNat_toUInt8,
    toNat_shiftRight_6, toNat_shiftRight_12, hv, and_true,
    Nat.mod_mod_of_dvd _ (show 16 ∣ 256 by decide), Nat.mod_mod_of_dvd _ (show 64 ∣ 256 by decide),
    hd1, hd2, hd3, h1, h2, h3, Nat.mod_eq_of_lt hp1, Nat.mod_eq_of_lt hp2, Nat.mod_eq_of_lt hp3,
    Nat.add_comm, and_self]

/-- A lead byte `F0`–`F4`, a second byte in its range and two continuation bytes are the
    encoding of the character of their payloads. -/
theorem utf8EncodeChar_four {b1 b2 b3 b4 : UInt8} {p1 p2 p3 p4 : Nat}
    (h1 : b1.toNat = 0xF0 + p1) (hp1 : p1 < 5) (h2 : b2.toNat = 0x80 + p2) (hp2 : p2 < 64)
    (hok : secondByteOk b1 b2 = true) (h3 : b3.toNat = 0x80 + p3) (hp3 : p3 < 64)
    (h4 : b4.toNat = 0x80 + p4) (hp4 : p4 < 64) :
    String.utf8EncodeChar (Char.ofNat (((p1 * 64 + p2) * 64 + p3) * 64 + p4)) =
      [b1, b2, b3, b4] := by
  have hrange : 0x10000 ≤ ((p1 * 64 + p2) * 64 + p3) * 64 + p4 ∧
      ((p1 * 64 + p2) * 64 + p3) * 64 + p4 < 0x110000 := by
    obtain ⟨-, -, hF0, hF4, -⟩ := secondByteOk_spec hok
    omega
  generalize hn : ((p1 * 64 + p2) * 64 + p3) * 64 + p4 = n at hrange
  obtain ⟨hd1, hd2, hd3, hd4⟩ : n / 262144 = p1 ∧ n / 4096 % 64 = p2 ∧ n / 64 % 64 = p3 ∧
    n % 64 = p4 := by omega
  have hv := toNat_val_ofNat (show n.isValidChar from .inr ⟨by omega, hrange.2⟩)
  unfold String.utf8EncodeChar
  simp only [uint32_le_iff, hv, UInt32.reduceToNat]
  rw [if_neg (by omega), if_neg (by omega), if_neg (by omega)]
  simp only [List.cons.injEq, uint8_eq_iff, toNat_and_07_or_f0, toNat_and_3f_or_80, toNat_toUInt8,
    toNat_shiftRight_6, toNat_shiftRight_12, toNat_shiftRight_18, hv, and_true,
    Nat.mod_mod_of_dvd _ (show 8 ∣ 256 by decide), Nat.mod_mod_of_dvd _ (show 64 ∣ 256 by decide),
    hd1, hd2, hd3, hd4, h1, h2, h3, h4, Nat.mod_eq_of_lt (show p1 < 8 by omega),
    Nat.mod_eq_of_lt hp2, Nat.mod_eq_of_lt hp3, Nat.mod_eq_of_lt hp4, Nat.add_comm, and_self]

/-- Whether the bytes `cs`, from position `pos` on, continue a sequence led by `lead`. -/
def contsOk (lead : UInt8) : Nat → List UInt8 → Bool
  | _, [] => true
  | pos, c :: cs => continues lead pos c && contsOk lead (pos + 1) cs

/-- Checking one more byte is checking it at the next position. -/
theorem contsOk_append (lead : UInt8) (pos : Nat) (cs : List UInt8) (c : UInt8) :
    contsOk lead pos (cs ++ [c]) = (contsOk lead pos cs && continues lead (pos + cs.length) c) := by
  induction cs generalizing pos with
  | nil => simp [contsOk]
  | cons c' cs ih => simp [contsOk, ih, Nat.add_assoc, Nat.add_comm 1, Bool.and_assoc]

/-- A sequence the decoder completes is the encoding of the character it emits. -/
theorem utf8EncodeChar_codePoint {lead c : UInt8} {conts : List UInt8}
    (hlen : conts.length + 2 = seqLength lead) (hconts : contsOk lead 1 conts = true)
    (hc : continues lead (conts.length + 1) c = true) :
    String.utf8EncodeChar (Char.ofNat (codePoint lead (conts ++ [c]))) = lead :: (conts ++ [c]) := by
  have hspec := seqLength_spec hlen.symm
  rcases conts with _ | ⟨c1, _ | ⟨c2, _ | ⟨c3, cs⟩⟩⟩
  · -- two bytes
    have hl := hspec.2.2.1 rfl
    obtain ⟨-, -, -, -, hc⟩ := secondByteOk_spec (by simpa [continues] using hc)
    rw [List.nil_append, codePoint_two]
    exact utf8EncodeChar_two (by omega) (by omega) (by omega) (Nat.mod_lt _ (by omega))
  · -- three bytes
    have hl := hspec.2.2.2.1 rfl
    have hok : secondByteOk lead c1 = true := by simpa [contsOk, continues] using hconts
    have hc1 := (secondByteOk_spec hok).2.2.2.2
    have hc := (isContinuation_iff c).1 (by simpa [continues] using hc)
    rw [List.singleton_append, codePoint_three]
    exact utf8EncodeChar_three (by omega) (Nat.mod_lt _ (by omega)) (by omega)
      (Nat.mod_lt _ (by omega)) hok (by omega) (Nat.mod_lt _ (by omega))
  · -- four bytes
    have hl := hspec.2.2.2.2 rfl
    have hconts : secondByteOk lead c1 = true ∧ isContinuation c2 = true := by
      simpa [contsOk, continues] using hconts
    have hc1 := (secondByteOk_spec hconts.1).2.2.2.2
    have hc2 := (isContinuation_iff c2).1 hconts.2
    have hc := (isContinuation_iff c).1 (by simpa [continues] using hc)
    rw [show [c1, c2] ++ [c] = [c1, c2, c] from rfl, codePoint_four]
    exact utf8EncodeChar_four (by omega) (by omega) (by omega) (Nat.mod_lt _ (by omega))
      hconts.1 (by omega) (Nat.mod_lt _ (by omega)) (by omega) (Nat.mod_lt _ (by omega))
  · exact absurd hspec.1 (by simp)

/-! ### Every decoded character was in the input -/

/-- The bytes of the pending sequence. -/
def pendingBytes : Option (UInt8 × List UInt8) → Bytes
  | none => []
  | some (lead, conts) => lead :: conts

/-- A pending sequence is the start of a well-formed sequence, still missing its last byte. -/
def PendingOk : Option (UInt8 × List UInt8) → Prop
  | none => True
  | some (lead, conts) => conts.length + 2 ≤ seqLength lead ∧ contsOk lead 1 conts = true

/-- The decoder after reading `p`: its pending sequence is well formed, and the encodings of its
    characters, then the pending bytes, are a subsequence of `p`. -/
def DecodeInv (p : Bytes) (st : Utf8State) : Prop :=
  PendingOk st.2 ∧ (st.1.flatMap String.utf8EncodeChar ++ pendingBytes st.2).Sublist p

/-- A byte read with no sequence pending keeps the invariant. -/
theorem utf8Start_inv {p : Bytes} {out : List Char} (h : (out.flatMap String.utf8EncodeChar).Sublist p)
    (b : UInt8) : DecodeInv (p ++ [b]) (utf8Start out b) := by
  unfold utf8Start
  split
  · exact ⟨trivial, by simpa [pendingBytes] using h.trans (List.sublist_append_left p [b])⟩
  · rename_i hs
    refine ⟨trivial, ?_⟩
    simpa [pendingBytes, utf8EncodeChar_one ((seqLength_spec hs).2.1 rfl)] using
      h.append (List.Sublist.refl [b])
  · rename_i k hs0 hs1
    refine ⟨⟨Nat.one_lt_iff_ne_zero_and_ne_one.2 ⟨hs0, hs1⟩, rfl⟩, ?_⟩
    simpa [pendingBytes] using h.append (List.Sublist.refl [b])

/-- One byte keeps the invariant: a completed sequence is its character's encoding, and a dropped
    sequence only leaves bytes out. -/
theorem utf8Step_inv {p : Bytes} {st : Utf8State} (h : DecodeInv p st) (b : UInt8) :
    DecodeInv (p ++ [b]) (utf8Step st b) := by
  obtain ⟨out, _ | ⟨lead, conts⟩⟩ := st
  · exact utf8Start_inv (by simpa [DecodeInv, pendingBytes] using h.2) b
  obtain ⟨⟨hlen, hconts⟩, hsub⟩ := h
  simp only [utf8Step]
  split_ifs with hc hdone
  · refine ⟨trivial, ?_⟩
    simpa [pendingBytes, utf8EncodeChar_codePoint hdone hconts hc] using
      hsub.append (List.Sublist.refl [b])
  · refine ⟨⟨by simp; omega, by rw [contsOk_append, hconts, Nat.add_comm, hc]; rfl⟩, ?_⟩
    simpa [pendingBytes] using hsub.append (List.Sublist.refl [b])
  · exact utf8Start_inv ((List.sublist_append_left _ _).trans hsub) b

/-- The invariant over the whole input. -/
theorem foldl_utf8Step_inv (bs : Bytes) {p : Bytes} {st : Utf8State} (h : DecodeInv p st) :
    DecodeInv (p ++ bs) (bs.foldl utf8Step st) := by
  induction bs generalizing p st with
  | nil => simpa using h
  | cons b bs ih => simpa using ih (utf8Step_inv h b)

/-- Decoding drops bytes and never makes up a character: the UTF-8 encoding of the decoded text
    is a subsequence of the input. -/
theorem decodeUtf8Ignore_toUTF8_sublist (bs : Bytes) :
    (decodeUtf8Ignore bs).toUTF8.data.toList.Sublist bs := by
  have h := (@foldl_utf8Step_inv bs [] ([], none) ⟨trivial, .slnil⟩).2
  exact (List.sublist_append_left _ _).trans (by simpa using h)

end ValidateSedp
