import ValidateSedp.Native.ParameterList
import ValidateSedp.Spec.Wire
import ValidateSedp.Spec.Utf8Correct

/-!
# `parse_cdr_parameter_list` correctness

`Parameter.read data offset` is the record the loop makes at `offset`, read with total readers.
One turn of the loop is one of `parseParameters_end`, `parseParameters_sentinel` and
`parseParameters_next`; the results below are proved from these three.

## Key results

- `parseCdrParameterList_walk`: on every byte string the walk terminates without raising, and
  its records are exactly the steps of `ParamWalk` from offset 4, at 4-byte aligned offsets.
- `parseCdrParameterList_encode`: decoding an encoded parameter list returns one record per
  parameter, whatever the padding bytes and whatever follows the sentinel.
- `parseCdrParameterList_decompose`: every list the decoder reads is encoded parameters and the
  place where the walk stopped (`ParamStop`); with the previous result, the PL_CDR layout and
  the decoder are inverse to each other.
-/

namespace ValidateSedp

/-- `pad4 n`: `n` rounded up to a multiple of 4. -/
def pad4 (n : Nat) : Nat := (n + 3) / 4 * 4

/-- `pad4 n` is the least multiple of 4 that is at least `n`. -/
theorem pad4_spec (n : Nat) :
    n ≤ pad4 n ∧ pad4 n % 4 = 0 ∧ ∀ m, n ≤ m → m % 4 = 0 → pad4 n ≤ m := by
  unfold pad4
  exact ⟨by omega, by omega, fun m h1 h2 => by omega⟩

/-- The source's `(length + 3) & ~3` is `pad4`. -/
theorem alignUp4_eq_pad4 (n : Nat) : alignUp4 n = pad4 n := by
  simp [alignUp4, pad4, Nat.shiftRight_eq_div_pow, Nat.shiftLeft_eq]

/-- The `decoded` key of a parameter with id `pid` and value `v`. -/
def decodedOf (pid : Nat) (v : Bytes) : Option String :=
  (decodeParameterValue pid v).toOption.getD none

/-- The value decoding never raises: the QoS kinds are unpacked only from values long enough. -/
theorem decodeParameterValue_eq (pid : Nat) (v : Bytes) :
    decodeParameterValue pid v = .ok (decodedOf pid v) := by
  obtain ⟨r, hr⟩ : ∃ r, decodeParameterValue pid v = .ok r := by
    rw [decodeParameterValue]
    by_cases h3 : pid = 0x0003
    · exact ⟨_, if_pos h3⟩
    rw [if_neg h3]
    by_cases h4 : pid = 0x0004
    · exact ⟨_, if_pos h4⟩
    rw [if_neg h4]
    by_cases h5 : pid = 0x005A
    · exact ⟨_, if_pos h5⟩
    rw [if_neg h5]
    by_cases h1 : pid = 0x001A
    · rw [if_pos h1]
      by_cases hl : v.length ≥ 12
      · rw [if_pos hl, @unpack_slice .little v 0 4 4 rfl (by omega)]; exact ⟨_, rfl⟩
      · exact ⟨_, if_neg hl⟩
    rw [if_neg h1]
    by_cases hd : pid = 0x001D
    · rw [if_pos hd]
      by_cases hl : v.length ≥ 4
      · rw [if_pos hl, @unpack_slice .little v 0 4 4 rfl hl]; exact ⟨_, rfl⟩
      · exact ⟨_, if_neg hl⟩
    exact ⟨_, if_neg hd⟩
  rw [decodedOf, hr]
  rfl

/-- The names decode through `decodeCdrString`. -/
theorem decodedOf_name {pid : Nat} (v : Bytes) (h : pid = 0x0003 ∨ pid = 0x0004) :
    decodedOf pid v = some (decodeCdrString v) := by
  rcases h with rfl | rfl <;> rfl

/-- `param_value`: the declared length's bytes, or none when they run past the end. -/
def paramValueAt (data : Bytes) (offset length : Nat) : Bytes :=
  if offset + 4 + length ≤ data.length then slice data (offset + 4) (offset + 4 + length) else []

/-- The record the loop makes of the parameter header at `offset`. -/
def Parameter.read (data : Bytes) (offset : Nat) : Parameter :=
  let pid := readUInt .little data offset 2
  let length := readUInt .little data (offset + 2) 2
  let value := paramValueAt data offset length
  ⟨pid, pidName pid, length, value, offset, decodedOf pid value⟩

/-- The value read where `rest` begins after `pre` is the one read at the start of `rest`. -/
theorem paramValueAt_append (pre rest : Bytes) (len : Nat) :
    paramValueAt (pre ++ rest) pre.length len = paramValueAt rest 0 len := by
  simp only [paramValueAt, List.length_append, Nat.zero_add, Nat.add_assoc,
    Nat.add_le_add_iff_left, slice_append_right]

/-- The record read where `rest` begins after `pre` is the one read at the start of `rest`, at
    offset `pre.length`. -/
theorem Parameter.read_append (pre rest : Bytes) :
    Parameter.read (pre ++ rest) pre.length = { Parameter.read rest 0 with offset := pre.length } := by
  have h0 : ∀ w, readUInt .little (pre ++ rest) pre.length w = readUInt .little rest 0 w :=
    fun w => readUInt_append_right .little pre rest 0 w
  simp only [Parameter.read, h0, readUInt_append_right, paramValueAt_append, Nat.zero_add]

/-- Fewer than 4 bytes left: the loop ends with no record. -/
theorem parseParameters_end {data : Bytes} {offset : Nat} (h : data.length < offset + 4) :
    parseParameters data offset = .ok [] := by
  rw [parseParameters, dif_neg (by omega)]

/-- A `PID_SENTINEL` header: the loop ends with no record, whatever follows. -/
theorem parseParameters_sentinel {data : Bytes} {offset : Nat} (h : offset + 4 ≤ data.length)
    (hs : readUInt .little data offset 2 = 0x0001) :
    parseParameters data offset = .ok [] := by
  rw [parseParameters, dif_pos h]
  simp only [unpack_slice rfl (show offset + 2 ≤ data.length by omega),
    unpack_slice (show offset + 2 + 2 = offset + 4 by omega) h, Except.ok_bind, hs]
  rfl

/-- Any other header: its record, then the loop from past its value padded to 4 bytes, whether
    or not the buffer holds them. -/
theorem parseParameters_next {data : Bytes} {offset : Nat} (h : offset + 4 ≤ data.length)
    (hs : readUInt .little data offset 2 ≠ 0x0001) :
    parseParameters data offset =
      (Parameter.read data offset :: ·) <$>
        parseParameters data (offset + 4 + pad4 (Parameter.read data offset).length) := by
  rw [parseParameters, dif_pos h]
  simp only [unpack_slice rfl (show offset + 2 ≤ data.length by omega),
    unpack_slice (show offset + 2 + 2 = offset + 4 by omega) h, Except.ok_bind, if_neg hs,
    decodeParameterValue_eq, alignUp4_eq_pad4]
  rfl

/-- A buffer shorter than the encapsulation header has no parameters. -/
theorem parseCdrParameterList_short {data : Bytes} (h : data.length < 4) :
    parseCdrParameterList data = .ok [] := by
  simp [parseCdrParameterList, h]

/-- Past the encapsulation header, whose value is not used, the list is the loop from offset 4. -/
theorem parseCdrParameterList_of_le {data : Bytes} (h : 4 ≤ data.length) :
    parseCdrParameterList data = parseParameters data 4 := by
  simp [parseCdrParameterList, show ¬ data.length < 4 by omega,
    unpack_slice (show 0 + 2 = 2 from rfl) (show 2 ≤ data.length by omega)]

/-! ### The walk -/

/-- `ParamWalk d pos ps`: the parameter list of `d` walked from the cursor `pos` gives `ps`.
    Each record is `Parameter.read` of the header at the cursor, whose id is not `PID_SENTINEL`;
    the cursor then moves past the value padded to 4 bytes. The walk stops where fewer than 4
    bytes are left or where the id at the cursor is `PID_SENTINEL`. -/
inductive ParamWalk (d : Bytes) : Nat → List Parameter → Prop
  | stop {pos : Nat} (h : d.length < pos + 4 ∨ readUInt .little d pos 2 = 0x0001) :
      ParamWalk d pos []
  | step {pos : Nat} {ps : List Parameter} (hin : pos + 4 ≤ d.length)
      (hne : readUInt .little d pos 2 ≠ 0x0001)
      (rest : ParamWalk d (pos + 4 + pad4 (readUInt .little d (pos + 2) 2)) ps) :
      ParamWalk d pos (Parameter.read d pos :: ps)

/-- Every record of a walk is the header read at its own offset, which lies in the buffer, and
    its id is not `PID_SENTINEL`. -/
theorem ParamWalk.mem_read {d : Bytes} {pos : Nat} {ps : List Parameter} (hw : ParamWalk d pos ps)
    {q : Parameter} (hq : q ∈ ps) :
    q = Parameter.read d q.offset ∧ q.offset + 4 ≤ d.length ∧ q.pid ≠ 0x0001 := by
  induction hw with
  | stop => simp at hq
  | step hin hne _ ih =>
    rcases List.mem_cons.1 hq with rfl | hq
    · exact ⟨rfl, hin, hne⟩
    · exact ih hq

/-- The loop from any cursor terminates without raising and follows `ParamWalk`; every record
    sits at the cursor's residue mod 4. -/
theorem parseParameters_walk (d : Bytes) (pos : Nat) :
    ∃ ps, parseParameters d pos = .ok ps ∧ ParamWalk d pos ps ∧
      ∀ p ∈ ps, p.offset % 4 = pos % 4 := by
  by_cases h : d.length < pos + 4
  · exact ⟨[], parseParameters_end h, .stop (.inl h), by simp⟩
  by_cases hs : readUInt .little d pos 2 = 0x0001
  · exact ⟨[], parseParameters_sentinel (by omega) hs, .stop (.inr hs), by simp⟩
  obtain ⟨ps, hps, hwalk, hmod⟩ :=
    parseParameters_walk d (pos + 4 + pad4 (Parameter.read d pos).length)
  refine ⟨_, by rw [parseParameters_next (by omega) hs, hps]; rfl, .step (by omega) hs hwalk, ?_⟩
  simp only [List.mem_cons, forall_eq_or_imp]
  refine ⟨rfl, fun p hp => ?_⟩
  have hp4 := hmod p hp
  have hpad := (pad4_spec (Parameter.read d pos).length).2.1
  omega
termination_by d.length - pos

/-- The decoder never raises. -/
theorem parseCdrParameterList_ok (d : Bytes) : ∃ ps, parseCdrParameterList d = .ok ps := by
  by_cases h : d.length < 4
  · exact ⟨[], parseCdrParameterList_short h⟩
  obtain ⟨ps, hps, -⟩ := parseParameters_walk d 4
  exact ⟨ps, by rw [parseCdrParameterList_of_le (by omega), hps]⟩

/-- On every byte string the parameter-list walk terminates without raising, its records follow
    `ParamWalk` from offset 4, and every record's offset is a multiple of 4. -/
theorem parseCdrParameterList_walk (d : Bytes) :
    ∃ ps, parseCdrParameterList d = .ok ps ∧ ParamWalk d 4 ps ∧ ∀ p ∈ ps, p.offset % 4 = 0 := by
  by_cases h : d.length < 4
  · exact ⟨[], parseCdrParameterList_short h, .stop (.inl (by omega)), by simp⟩
  obtain ⟨ps, hps, hwalk, hmod⟩ := parseParameters_walk d 4
  exact ⟨ps, by rw [parseCdrParameterList_of_le (by omega), hps], hwalk, hmod⟩

/-- The `decoded` key of a parameter the decoder returns is the decoding of its value. -/
theorem decoded_of_mem {d : Bytes} {params : List Parameter}
    (hparams : parseCdrParameterList d = .ok params) {q : Parameter} (hq : q ∈ params) :
    q.decoded = decodedOf q.pid q.value := by
  by_cases h : d.length < 4
  · rw [parseCdrParameterList_short h] at hparams
    cases Except.ok.inj hparams
    simp at hq
  obtain ⟨ps, hps, hw, -⟩ := parseParameters_walk d 4
  rw [parseCdrParameterList_of_le (by omega), hps] at hparams
  cases Except.ok.inj hparams
  rw [(hw.mem_read hq).1]
  rfl

/-! ### Names -/

/-- The text of the CDR string at the head of a name value: the UTF-8 decoding, invalid bytes
    dropped, of the `n - 1` bytes after the declared length `n` (fewer where the value ends). -/
def cdrStringText (v : Bytes) : List Char :=
  utf8DecodeIgnore (slice v 4 (4 + readUInt .little v 0 4 - 1))

/-- A value too short for the length prefix decodes to the marker. -/
theorem decodeCdrString_short {v : Bytes} (h : v.length < 4) :
    decodeCdrString v = decodeErrorMarker := by
  rw [decodeCdrString, unpack, if_neg (by simp; omega)]

/-- A value with a length prefix decodes to its text. -/
theorem decodeCdrString_of_le {v : Bytes} (h : 4 ≤ v.length) :
    decodeCdrString v = String.mk (cdrStringText v) := by
  rw [decodeCdrString, ← slice_zero, unpack_slice rfl h]
  rfl

/-- A name written as a CDR string (the length of its UTF-8 bytes plus one, the bytes, a
    terminating zero) and followed by any padding decodes to the string. -/
theorem decodeCdrString_encode (s : String) (pad : Bytes) (h : s.utf8ByteSize + 1 < 2 ^ 32) :
    decodeCdrString (encodeUInt .little 4 (s.utf8ByteSize + 1) ++ s.toUTF8.data.toList ++ [0] ++
      pad) = s := by
  have hlen : s.toUTF8.data.toList.length = s.utf8ByteSize := String.size_toUTF8 s
  have hn : readUInt .little (encodeUInt .little 4 (s.utf8ByteSize + 1) ++ s.toUTF8.data.toList ++
      [0] ++ pad) 0 4 = s.utf8ByteSize + 1 := by
    simp only [List.append_assoc]
    exact readUInt_append_encodeUInt .little _ h
  rw [decodeCdrString_of_le (by simp), cdrStringText, hn, show 4 + (s.utf8ByteSize + 1) - 1 =
    4 + s.utf8ByteSize by omega, List.append_assoc, List.append_assoc,
    slice_append_of_le _ _ (by simp), length_encodeUInt, Nat.sub_self, Nat.add_sub_cancel_left,
    slice_zero, ← hlen, List.take_left, utf8DecodeIgnore_toUTF8]

/-! ### Round trip -/

/-- A parameter as a PL_CDR writer lays it out: its id, its value, and padding up to the next
    4-byte boundary. -/
structure ParamFrame where
  pid : Nat
  value : Bytes
  pad : Bytes
  pid_lt : pid < 2 ^ 16
  pid_ne : pid ≠ 0x0001
  value_lt : value.length < 2 ^ 16
  pad_length : pad.length = pad4 value.length - value.length

/-- `LE16(pid) ++ LE16(|value|) ++ value ++ padding`. -/
def ParamFrame.encode (p : ParamFrame) : Bytes :=
  encodeUInt .little 2 p.pid ++ encodeUInt .little 2 p.value.length ++ p.value ++ p.pad

/-- The records of parameters laid out one after another from `offset`, each named by
    `PID_MAP` or by the synthesized `UNKNOWN_0x` name. -/
def ParamFrame.records : Nat → List ParamFrame → List Parameter
  | _, [] => []
  | offset, p :: ps =>
    ⟨p.pid, (pidMap.lookup p.pid).getD s!"UNKNOWN_0x{formatHex true 4 p.pid}", p.value.length,
        p.value, offset, decodedOf p.pid p.value⟩ ::
      records (offset + 4 + pad4 p.value.length) ps

/-- How an encoded parameter list ends: a `PID_SENTINEL` record (any two length bytes) followed
    by anything, or the end of the buffer. -/
inductive ParamListEnd where
  | sentinel (b0 b1 : UInt8) (more : Bytes)
  | atEnd

/-- The bytes of a list's ending. -/
def ParamListEnd.bytes : ParamListEnd → Bytes
  | .sentinel b0 b1 more => encodeUInt .little 2 0x0001 ++ [b0, b1] ++ more
  | .atEnd => []

/-- An encoded parameter takes its header and its padded value. -/
@[simp] theorem ParamFrame.length_encode (p : ParamFrame) : p.encode.length = 4 + pad4 p.value.length := by
  have := p.pad_length
  have := (pad4_spec p.value.length).1
  simp [ParamFrame.encode]; omega

/-- The record read where an encoded parameter begins. -/
private theorem read_encode (pre : Bytes) (p : ParamFrame) (r : Bytes) :
    Parameter.read (pre ++ (p.encode ++ r)) pre.length =
      ⟨p.pid, pidName p.pid, p.value.length, p.value, pre.length, decodedOf p.pid p.value⟩ := by
  have hpid : readUInt .little (pre ++ (p.encode ++ r)) pre.length 2 = p.pid := by
    rw [readUInt_append_of_le _ _ _ le_rfl, Nat.sub_self]
    simp only [ParamFrame.encode, List.append_assoc]
    exact readUInt_append_encodeUInt .little _ (show p.pid < 256 ^ 2 from p.pid_lt)
  have hlen : readUInt .little (pre ++ (p.encode ++ r)) (pre.length + 2) 2 = p.value.length := by
    rw [readUInt_append_right]
    simp only [ParamFrame.encode, List.append_assoc]
    rw [readUInt_append_of_le _ _ _ (by simp), length_encodeUInt, Nat.sub_self,
      readUInt_append_encodeUInt .little _ (show p.value.length < 256 ^ 2 from p.value_lt)]
  have hval : paramValueAt (pre ++ (p.encode ++ r)) pre.length p.value.length = p.value := by
    have hpad := (pad4_spec p.value.length).1
    rw [paramValueAt, if_pos (by simp [ParamFrame.length_encode]; omega), Nat.add_assoc,
      slice_append_right]
    simp only [ParamFrame.encode, List.append_assoc]
    rw [← List.append_assoc, slice_append_of_le _ _ (by simp)]
    simp [slice_zero]
  simp only [Parameter.read, hpid, hlen, hval]

/-- The loop over encoded parameters and an ending returns one record per parameter. -/
theorem parseParameters_encode (pre : Bytes) (ps : List ParamFrame) (fin : ParamListEnd) :
    parseParameters (pre ++ ps.flatMap ParamFrame.encode ++ fin.bytes) pre.length =
      .ok (ParamFrame.records pre.length ps) := by
  induction ps generalizing pre with
  | nil =>
    cases fin with
    | atEnd => exact parseParameters_end (by simp [ParamListEnd.bytes])
    | sentinel b0 b1 more =>
      apply parseParameters_sentinel (by simp [ParamListEnd.bytes]; omega)
      simp only [List.flatMap_nil, List.append_nil, ParamListEnd.bytes, List.append_assoc]
      rw [readUInt_append_of_le _ _ _ le_rfl, Nat.sub_self]
      exact readUInt_append_encodeUInt .little _ (by decide)
  | cons p ps ih =>
    have hr := read_encode pre p (ps.flatMap ParamFrame.encode ++ fin.bytes)
    have hdata : pre ++ (p :: ps).flatMap ParamFrame.encode ++ fin.bytes =
        pre ++ (p.encode ++ (ps.flatMap ParamFrame.encode ++ fin.bytes)) := by
      simp
    have hnext : pre.length + 4 + pad4 p.value.length = (pre ++ p.encode).length := by
      simp; omega
    rw [hdata, parseParameters_next (by simp; omega) (by change (Parameter.read _ pre.length).pid ≠ _; rw [hr]; exact p.pid_ne), hr]
    dsimp only
    rw [hnext, ← List.append_assoc, ← List.append_assoc, ih, ParamFrame.records, hnext]
    rfl

/-- Decoding a PL_CDR encoding: any 4-byte encapsulation header, the encoded parameters, and a
    sentinel with anything after it or the end of the buffer, gives back one record per parameter,
    in order, at its offset, and nothing for the sentinel or what follows it. -/
theorem parseCdrParameterList_encode {header : Bytes} (hheader : header.length = 4)
    (ps : List ParamFrame) (fin : ParamListEnd) :
    parseCdrParameterList (header ++ ps.flatMap ParamFrame.encode ++ fin.bytes) =
      .ok (ParamFrame.records 4 ps) := by
  rw [parseCdrParameterList_of_le (by simp [hheader]), ← hheader]
  exact parseParameters_encode header ps fin

/-- The spec's example parameter: `PID_TOPIC_NAME` holding the CDR string `"TempSensor"`
    (length 11 with its terminating zero), padded by one byte. -/
def tempSensorTopic : ParamFrame :=
  ⟨0x0003, encodeUInt .little 4 11 ++ "TempSensor".toUTF8.data.toList ++ [0], [0],
    by decide, by decide, by decide, by decide⟩

/-- The spec's example: `tempSensorTopic` and a sentinel followed by one more byte. -/
theorem parseCdrParameterList_encode_tempSensor :
    [0x00, 0x03, 0x00, 0x00].length = 4 ∧
      parseCdrParameterList ([0x00, 0x03, 0x00, 0x00] ++ [tempSensorTopic].flatMap ParamFrame.encode ++
          (ParamListEnd.sentinel 0 0 [0xff]).bytes) =
        .ok (ParamFrame.records 4 [tempSensorTopic]) :=
  ⟨rfl, @parseCdrParameterList_encode [0x00, 0x03, 0x00, 0x00] rfl _ _⟩

example : (ParamFrame.records 4 [tempSensorTopic]).map Parameter.decoded = [some "TempSensor"] := by
  decide

/-! ### Names in a parsed list -/

/-- A topic or type name parameter whose value holds a CDR string and any padding is decoded to
    that string. -/
theorem parseCdrParameterList_name {d : Bytes} {params : List Parameter}
    (h : parseCdrParameterList d = .ok params) {q : Parameter} (hq : q ∈ params)
    (hname : q.pid = 0x0003 ∨ q.pid = 0x0004) {s : String} {pad : Bytes}
    (hs : s.utf8ByteSize + 1 < 2 ^ 32)
    (hv : q.value = encodeUInt .little 4 (s.utf8ByteSize + 1) ++ s.toUTF8.data.toList ++ [0] ++ pad) :
    q.decoded = some s := by
  rw [decoded_of_mem h hq, decodedOf_name _ hname, hv, decodeCdrString_encode s pad hs]

/-- The spec's example list: an encapsulation header, `tempSensorTopic` and a sentinel. -/
def tempSensorList : Bytes :=
  [0x00, 0x03, 0x00, 0x00] ++ tempSensorTopic.encode ++ (ParamListEnd.sentinel 0 0 []).bytes

/-- The example list reads as the record of `tempSensorTopic`. -/
theorem parseCdrParameterList_tempSensorList :
    parseCdrParameterList tempSensorList = .ok (ParamFrame.records 4 [tempSensorTopic]) := by
  rw [parseCdrParameterList_of_le (by decide)]
  exact parseParameters_encode [0x00, 0x03, 0x00, 0x00] [tempSensorTopic] (.sentinel 0 0 [])

/-- The example list's topic name decodes to `TempSensor`. -/
theorem parseCdrParameterList_name_tempSensor :
    parseCdrParameterList tempSensorList = .ok (ParamFrame.records 4 [tempSensorTopic]) ∧
      (⟨0x0003, pidName 0x0003, 15, tempSensorTopic.value, 4, decodedOf 0x0003 tempSensorTopic.value⟩
        : Parameter) ∈ ParamFrame.records 4 [tempSensorTopic] ∧
      "TempSensor".utf8ByteSize + 1 < 2 ^ 32 ∧
      tempSensorTopic.value = encodeUInt .little 4 ("TempSensor".utf8ByteSize + 1) ++
        "TempSensor".toUTF8.data.toList ++ [0] ++ [] ∧
      decodedOf 0x0003 tempSensorTopic.value = some "TempSensor" := by
  have hv : tempSensorTopic.value = encodeUInt .little 4 ("TempSensor".utf8ByteSize + 1) ++
      "TempSensor".toUTF8.data.toList ++ [0] ++ [] := by decide
  exact ⟨parseCdrParameterList_tempSensorList, .head _, by decide, hv,
    parseCdrParameterList_name parseCdrParameterList_tempSensorList (.head _) (.inl rfl)
      (by decide) hv⟩

/-- A name's decoded text comes from its value: a value too short for the length prefix gives the
    marker, and otherwise the UTF-8 encoding of the text is a subsequence of the bytes after the
    prefix, since the decoder only drops bytes. -/
theorem parseCdrParameterList_name_sublist {d : Bytes} {params : List Parameter}
    (h : parseCdrParameterList d = .ok params) {q : Parameter} (hq : q ∈ params)
    (hname : q.pid = 0x0003 ∨ q.pid = 0x0004) :
    (q.value.length < 4 ∧ q.decoded = some decodeErrorMarker) ∨
      ∃ s, q.decoded = some s ∧ s.toUTF8.data.toList.Sublist (q.value.drop 4) := by
  rw [decoded_of_mem h hq, decodedOf_name _ hname]
  by_cases h4 : q.value.length < 4
  · exact .inl ⟨h4, by rw [decodeCdrString_short h4]⟩
  · refine .inr ⟨_, rfl, ?_⟩
    rw [decodeCdrString_of_le (by omega)]
    exact (decodeUtf8Ignore_toUTF8_sublist _).trans (List.take_sublist _ _)

/-- The bytes of `TempSensor` are among those of the example's topic value. -/
theorem parseCdrParameterList_name_sublist_tempSensor :
    parseCdrParameterList tempSensorList = .ok (ParamFrame.records 4 [tempSensorTopic]) ∧
      (⟨0x0003, pidName 0x0003, 15, tempSensorTopic.value, 4, decodedOf 0x0003 tempSensorTopic.value⟩
        : Parameter) ∈ ParamFrame.records 4 [tempSensorTopic] ∧
      ((0x0003 : Nat) = 0x0003 ∨ (0x0003 : Nat) = 0x0004) ∧
      ((tempSensorTopic.value.length < 4 ∧
          decodedOf 0x0003 tempSensorTopic.value = some decodeErrorMarker) ∨
        ∃ s, decodedOf 0x0003 tempSensorTopic.value = some s ∧
          s.toUTF8.data.toList.Sublist (tempSensorTopic.value.drop 4)) :=
  ⟨parseCdrParameterList_tempSensorList, .head _, .inl rfl,
    parseCdrParameterList_name_sublist parseCdrParameterList_tempSensorList (.head _) (.inl rfl)⟩

/-! ### A string prefix longer than its value -/

/-- A `PID_TOPIC_NAME` value of 6 bytes that declares a string of 100 bytes. -/
def overlongTopic : ParamFrame :=
  ⟨0x0003, [100, 0, 0, 0, 0x61, 0x62], [0, 0], by decide, by decide, by decide, by decide⟩

/-- A parameter list that holds only `overlongTopic`. -/
def overlongTopicList : Bytes :=
  [0x00, 0x03, 0x00, 0x00] ++ [0x03, 0x00, 0x06, 0x00] ++ [100, 0, 0, 0, 0x61, 0x62] ++ [0, 0]

/-- The overlong list reads as the record of `overlongTopic`. -/
theorem parseCdrParameterList_overlongTopicList :
    parseCdrParameterList overlongTopicList = .ok (ParamFrame.records 4 [overlongTopic]) := by
  rw [parseCdrParameterList_of_le (by decide)]
  exact parseParameters_encode [0x00, 0x03, 0x00, 0x00] [overlongTopic] .atEnd

/-- Python's slice stops at the end of the value, so the overlong string decodes to the two bytes
    present, `"ab"`, and not to the `<decode error>` marker. -/
theorem parseCdrParameterList_overlongTopic :
    (parseCdrParameterList overlongTopicList).map (·.map Parameter.decoded) = .ok [some "ab"] := by
  rw [parseCdrParameterList_overlongTopicList]
  exact congrArg Except.ok (by decide)

/-! ### Every parsed list is a writer's -/

/-- Where the walk over a parameter list stops, at `offset`, and the record it still makes there:
    fewer than 4 bytes; a `PID_SENTINEL` header and anything; a parameter whose value runs past
    the end, recorded with an empty value; or a parameter whose padding the end cuts. -/
inductive ParamStop (offset : Nat) : Bytes → List Parameter → Prop
  | short {tail : Bytes} (h : tail.length < 4) : ParamStop offset tail []
  | sentinel {len : Nat} (hlen : len < 2 ^ 16) (more : Bytes) :
      ParamStop offset (encodeUInt .little 2 0x0001 ++ encodeUInt .little 2 len ++ more) []
  | overrun {pid len : Nat} {rest : Bytes} (hpid : pid < 2 ^ 16) (hne : pid ≠ 0x0001)
      (hlen : len < 2 ^ 16) (hrest : rest.length < len) :
      ParamStop offset (encodeUInt .little 2 pid ++ encodeUInt .little 2 len ++ rest)
        [⟨pid, (pidMap.lookup pid).getD s!"UNKNOWN_0x{formatHex true 4 pid}", len, [], offset,
          decodedOf pid []⟩]
  | unpadded {pid : Nat} {value pad : Bytes} (hpid : pid < 2 ^ 16) (hne : pid ≠ 0x0001)
      (hval : value.length < 2 ^ 16) (hpad : pad.length < pad4 value.length - value.length) :
      ParamStop offset
        (encodeUInt .little 2 pid ++ encodeUInt .little 2 value.length ++ value ++ pad)
        [⟨pid, (pidMap.lookup pid).getD s!"UNKNOWN_0x{formatHex true 4 pid}", value.length, value,
          offset, decodedOf pid value⟩]

/-- A parameter header: the first four bytes are the two 16-bit fields read from them. -/
private theorem paramHeader_append_drop (rest : Bytes) (h : 4 ≤ rest.length) :
    rest = encodeUInt .little 2 (readUInt .little rest 0 2) ++
      encodeUInt .little 2 (readUInt .little rest 2 2) ++ rest.drop 4 := by
  rw [encodeUInt_readUInt .little (by omega), encodeUInt_readUInt .little (by omega),
    slice_append_slice _ (by omega) (by omega), slice_zero, List.take_append_drop]

/-- A parameter whose value or padding the end cuts is where the walk stops, with its record. -/
private theorem paramStop_of_cut {rest : Bytes} (h4 : 4 ≤ rest.length)
    (hne : readUInt .little rest 0 2 ≠ 0x0001)
    (hcut : rest.length < 4 + pad4 (readUInt .little rest 2 2)) (offset : Nat) :
    ParamStop offset rest [{ Parameter.read rest 0 with offset := offset }] := by
  obtain ⟨len, hlen_def⟩ : ∃ len, readUInt .little rest 2 2 = len := ⟨_, rfl⟩
  have hpid := readUInt_lt .little rest 0 2
  have hlen : len < 2 ^ 16 := hlen_def ▸ readUInt_lt .little rest 2 2
  simp only [Parameter.read, Nat.zero_add, paramValueAt, hlen_def]
  rw [hlen_def] at hcut
  conv => arg 2; rw [paramHeader_append_drop rest h4, hlen_def]
  split_ifs with hfit
  · -- the value fits and the padding does not
    have hvlen : (slice rest 4 (4 + len)).length = len := by
      rw [length_slice_of_le (by omega) hfit]; omega
    have hst := @ParamStop.unpadded offset _ (slice rest 4 (4 + len)) (rest.drop (4 + len)) hpid hne
      (by rw [hvlen]; exact hlen) (by rw [hvlen]; simp; omega)
    rw [hvlen] at hst
    rwa [drop_eq_slice_append_drop rest (show 4 ≤ 4 + len by omega), ← List.append_assoc]
  · exact .overrun hpid hne hlen (by simp; omega)

/-- A parameter whose value and padding lie in the buffer is a writer's parameter, and the
    record the loop makes of it is that parameter's. -/
private theorem exists_paramFrame {rest : Bytes} (hne : readUInt .little rest 0 2 ≠ 0x0001)
    (hfit : 4 + pad4 (readUInt .little rest 2 2) ≤ rest.length) :
    ∃ p : ParamFrame, p.value.length = readUInt .little rest 2 2 ∧
      rest = p.encode ++ rest.drop (4 + pad4 p.value.length) ∧
      ∀ offset, { Parameter.read rest 0 with offset := offset } =
        ⟨p.pid, pidName p.pid, p.value.length, p.value, offset, decodedOf p.pid p.value⟩ := by
  obtain ⟨len, hlen_def⟩ : ∃ len, readUInt .little rest 2 2 = len := ⟨_, rfl⟩
  rw [hlen_def] at hfit
  have hpad := (pad4_spec len).1
  have hvlen : (slice rest 4 (4 + len)).length = len := by
    rw [length_slice_of_le (by omega) (by omega)]; omega
  refine ⟨⟨readUInt .little rest 0 2, slice rest 4 (4 + len), slice rest (4 + len) (4 + pad4 len),
    readUInt_lt .little rest 0 2, hne, by rw [hvlen, ← hlen_def]; exact readUInt_lt .little rest 2 2,
    by rw [length_slice_of_le (by omega) hfit, hvlen]; omega⟩, hvlen.trans hlen_def.symm, ?_,
    fun offset => ?_⟩
  · conv => lhs; rw [paramHeader_append_drop rest (by omega), hlen_def,
      drop_eq_slice_append_drop rest (show 4 ≤ 4 + len by omega),
      drop_eq_slice_append_drop rest (show 4 + len ≤ 4 + pad4 len by omega)]
    simp only [ParamFrame.encode, hvlen, List.append_assoc]
  · simp only [Parameter.read, Nat.zero_add, paramValueAt, hlen_def,
      if_pos (show 4 + len ≤ rest.length by omega), hvlen]

/-- What the loop reads after `pre` comes from a writer: `rest` is encoded parameters and the
    place where the walk stops, and the records are those parameters' and the stop's. -/
theorem parseParameters_decompose (pre rest : Bytes) {ps : List Parameter}
    (h : parseParameters (pre ++ rest) pre.length = .ok ps) :
    ∃ (frames : List ParamFrame) (tail : Bytes) (last : List Parameter),
      ParamStop (pre.length + (frames.flatMap ParamFrame.encode).length) tail last ∧
      rest = frames.flatMap ParamFrame.encode ++ tail ∧
      ps = ParamFrame.records pre.length frames ++ last := by
  obtain ⟨n, hn⟩ : ∃ n, rest.length = n := ⟨_, rfl⟩
  induction n using Nat.strong_induction_on generalizing pre rest ps with
  | _ n ih =>
  by_cases h4 : rest.length < 4
  · rw [parseParameters_end (by simp; omega)] at h
    cases Except.ok.inj h
    exact ⟨[], rest, [], .short h4, rfl, rfl⟩
  have hin : pre.length + 4 ≤ (pre ++ rest).length := by simp; omega
  have hpid : readUInt .little (pre ++ rest) pre.length 2 = readUInt .little rest 0 2 :=
    readUInt_append_right .little pre rest 0 2
  by_cases hs : readUInt .little rest 0 2 = 0x0001
  · rw [parseParameters_sentinel hin (hpid ▸ hs)] at h
    cases Except.ok.inj h
    refine ⟨[], rest, [], ?_, rfl, rfl⟩
    conv => arg 2; rw [paramHeader_append_drop rest (by omega), hs]
    exact .sentinel (readUInt_lt .little rest 2 2) _
  rw [parseParameters_next hin (hpid ▸ hs), Parameter.read_append] at h
  by_cases hcut : rest.length < 4 + pad4 (readUInt .little rest 2 2)
  · rw [parseParameters_end (by simp [Parameter.read]; omega)] at h
    cases Except.ok.inj h
    exact ⟨[], rest, _, by simpa using paramStop_of_cut (by omega) hs hcut pre.length, rfl, rfl⟩
  -- a whole parameter, then the walk goes on after its padding
  obtain ⟨p, hplen, hp, hrec⟩ := exists_paramFrame hs (by omega)
  have hnext : (pre ++ p.encode).length = pre.length + 4 + pad4 (Parameter.read rest 0).length := by
    simp only [List.length_append, ParamFrame.length_encode, hplen, Nat.add_assoc]; rfl
  obtain ⟨ps', hps', -⟩ := parseParameters_walk (pre ++ rest) (pre ++ p.encode).length
  rw [← hnext, hps'] at h
  cases Except.ok.inj h
  have hlt : (rest.drop (4 + pad4 p.value.length)).length < n := by simp; omega
  rw [hp, ← List.append_assoc] at hps'
  obtain ⟨frames, tail, last, hstop, hrest, rfl⟩ := ih _ hlt _ _ hps' rfl
  refine ⟨p :: frames, tail, last, ?_, ?_, ?_⟩
  · have hoff : (pre ++ p.encode).length + (frames.flatMap ParamFrame.encode).length =
        pre.length + ((p :: frames).flatMap ParamFrame.encode).length := by
      simp only [List.length_append, List.flatMap_cons]; omega
    exact hoff ▸ hstop
  · rw [List.flatMap_cons, List.append_assoc, ← hrest]; exact hp
  · rw [ParamFrame.records, hrec, List.cons_append, show pre.length + 4 + pad4 p.value.length =
      (pre ++ p.encode).length by simp [Nat.add_assoc]]
    rfl

/-- Every parameter list the decoder reads is a writer's: either fewer than 4 bytes and no
    parameter, or a 4-byte encapsulation header, encoded parameters, and the place where the walk
    stopped; the records are those parameters' and the one the stop may still make. With
    `parseCdrParameterList_encode`, the PL_CDR layout and the decoder are inverse to each other. -/
theorem parseCdrParameterList_decompose {d : Bytes} {params : List Parameter}
    (h : parseCdrParameterList d = .ok params) :
    (d.length < 4 ∧ params = []) ∨
      ∃ (header : Bytes) (frames : List ParamFrame) (tail : Bytes) (last : List Parameter),
        header.length = 4 ∧ ParamStop (4 + (frames.flatMap ParamFrame.encode).length) tail last ∧
        d = header ++ frames.flatMap ParamFrame.encode ++ tail ∧
        params = ParamFrame.records 4 frames ++ last := by
  by_cases h4 : d.length < 4
  · rw [parseCdrParameterList_short h4] at h
    exact .inl ⟨h4, (Except.ok.inj h).symm⟩
  have hhdr : (d.take 4).length = 4 := by simp; omega
  rw [parseCdrParameterList_of_le (by omega), ← List.take_append_drop 4 d] at h
  conv at h => arg 1; arg 2; rw [← hhdr]
  obtain ⟨frames, tail, last, hstop, hrest, hps⟩ := parseParameters_decompose _ _ h
  refine .inr ⟨d.take 4, frames, tail, last, hhdr, hhdr ▸ hstop, ?_, hhdr ▸ hps⟩
  rw [List.append_assoc, ← hrest, List.take_append_drop]

/-- The example list is its header, `tempSensorTopic`, and a sentinel. -/
theorem parseCdrParameterList_decompose_tempSensor :
    parseCdrParameterList tempSensorList = .ok (ParamFrame.records 4 [tempSensorTopic]) ∧
      ((tempSensorList.length < 4 ∧ ParamFrame.records 4 [tempSensorTopic] = []) ∨
        ∃ (header : Bytes) (frames : List ParamFrame) (tail : Bytes) (last : List Parameter),
          header.length = 4 ∧ ParamStop (4 + (frames.flatMap ParamFrame.encode).length) tail last ∧
          tempSensorList = header ++ frames.flatMap ParamFrame.encode ++ tail ∧
          ParamFrame.records 4 [tempSensorTopic] = ParamFrame.records 4 frames ++ last) :=
  ⟨parseCdrParameterList_tempSensorList,
    parseCdrParameterList_decompose parseCdrParameterList_tempSensorList⟩

end ValidateSedp
