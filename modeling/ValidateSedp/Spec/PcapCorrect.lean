import ValidateSedp.Native.Pcap
import ValidateSedp.Spec.Wire

/-!
# `read_pcap` correctness

The record loop has three outcomes at each position, one lemma each: fewer than 16 bytes left
(`readPackets_short`), a header whose `incl_len` runs past the end of the file
(`readPackets_truncated`), and a whole record (`readPackets_record`). Every later proof
about `read_pcap` uses these and never unfolds the loop.

## Key results

- `readPcap_encode`: a capture laid out by a writer reads back as its frames.
- `readPcap_decompose`: every capture read without an exception is laid out by a writer, and
  reads back as that writer's frames; with `readPcap_encode`, the layout and the reader are
  inverse to each other.
-/

namespace ValidateSedp

/-- Four `I` fields read from the first 16 bytes of `rest`. -/
theorem unpackRecordHeader_take (e : Endian) {rest : Bytes} (h : 16 ≤ rest.length) :
    unpackRecordHeader e (rest.take 16) =
      .ok (readUInt e rest 0 4, readUInt e rest 4 4, readUInt e rest 8 4, readUInt e rest 12 4) := by
  simp [unpackRecordHeader, readUInt, slice_take, Nat.min_eq_left h]

/-- Fewer than 16 bytes left: the loop ends, with no record truncated. -/
theorem readPackets_short {e : Endian} {n : Nat} {rest : Bytes} (h : rest.length < 16) :
    readPackets e n rest = .ok ⟨[], none⟩ := by
  rw [readPackets]
  simp [Nat.min_eq_right h.le, h]

/-- A header whose `incl_len` runs past the end: the loop ends, reporting record `n + 1`
    truncated. -/
theorem readPackets_truncated {e : Endian} {n : Nat} {rest : Bytes} (h16 : 16 ≤ rest.length)
    (h : rest.length < 16 + readUInt e rest 8 4) :
    readPackets e n rest = .ok ⟨[], some (n + 1)⟩ := by
  rw [readPackets, dif_neg (by simp; omega)]
  simp only [unpackRecordHeader_take e h16, Except.ok_bind]
  rw [if_pos (by simp; omega)]
  rfl

/-- A whole record: its packet, numbered `n + 1`, then the loop after it. -/
theorem readPackets_record {e : Endian} {n : Nat} {rest : Bytes}
    (h : 16 + readUInt e rest 8 4 ≤ rest.length) :
    readPackets e n rest =
      (fun t => { t with packets := ⟨n + 1, timestampOf (readUInt e rest 0 4) (readUInt e rest 4 4),
          (rest.drop 16).take (readUInt e rest 8 4), readUInt e rest 8 4⟩ :: t.packets }) <$>
        readPackets e (n + 1) (rest.drop (16 + readUInt e rest 8 4)) := by
  rw [readPackets, dif_neg (by simp; omega)]
  simp only [unpackRecordHeader_take e (show 16 ≤ rest.length by omega), Except.ok_bind]
  rw [if_neg (by simp; omega)]
  rfl

/-- The record loop never raises: it reads every header it unpacks whole. -/
theorem readPackets_ok (e : Endian) (n : Nat) (rest : Bytes) : ∃ r, readPackets e n rest = .ok r := by
  by_cases h16 : rest.length < 16
  · exact ⟨_, readPackets_short h16⟩
  by_cases hinc : rest.length < 16 + readUInt e rest 8 4
  · exact ⟨_, readPackets_truncated (by omega) hinc⟩
  obtain ⟨t, ht⟩ := readPackets_ok e (n + 1) (rest.drop (16 + readUInt e rest 8 4))
  exact ⟨_, by rw [readPackets_record (by omega), ht]; rfl⟩
termination_by rest.length
decreasing_by simp only [List.length_drop]; omega

/-! ### The global header -/

/-- A global header shorter than 24 bytes raises. -/
theorem readPcap_short {file : Bytes} (h : file.length < 24) :
    readPcap file = .error (.valueError "Invalid pcap file: header too short") := by
  simp [readPcap, Nat.min_eq_right h.le, h]
  rfl

/-- The magic number is read from the file's first four bytes, little-endian. -/
private theorem unpack_magic {file : Bytes} (h : 24 ≤ file.length) :
    unpack .little 4 (slice (file.take 24) 0 4) = .ok (readUInt .little file 0 4) := by
  rw [slice_take _ (by omega)]
  exact unpack_slice rfl (by omega)

/-- Past the length check, `read_pcap` branches on the magic number. -/
private theorem readPcap_of_le {file : Bytes} (h : 24 ≤ file.length) :
    readPcap file =
      if readUInt .little file 0 4 = 0xa1b2c3d4 then readPackets .little 0 (file.drop 24)
      else if readUInt .little file 0 4 = 0xd4c3b2a1 then readPackets .big 0 (file.drop 24)
      else .error (.valueError
        s!"Invalid pcap magic: {formatHex false 8 (readUInt .little file 0 4)}") := by
  simp only [readPcap, List.length_take, Nat.min_eq_left h, Nat.lt_irrefl, if_false]
  rw [unpack_magic h]
  simp only [pure_bind, Except.ok_bind]
  split_ifs <;> rfl

/-- The little-endian magic number: the records are read little-endian. -/
theorem readPcap_little {file : Bytes} (h : 24 ≤ file.length)
    (hm : readUInt .little file 0 4 = 0xa1b2c3d4) :
    readPcap file = readPackets .little 0 (file.drop 24) := by
  rw [readPcap_of_le h, if_pos hm]

/-- The big-endian magic number: the records are read big-endian. -/
theorem readPcap_big {file : Bytes} (h : 24 ≤ file.length)
    (hm : readUInt .little file 0 4 = 0xd4c3b2a1) :
    readPcap file = readPackets .big 0 (file.drop 24) := by
  rw [readPcap_of_le h, if_neg (by rw [hm]; decide), if_pos hm]

/-- Any other magic number raises, naming it in eight hex digits. -/
theorem readPcap_bad_magic {file : Bytes} (h : 24 ≤ file.length)
    (h1 : readUInt .little file 0 4 ≠ 0xa1b2c3d4) (h2 : readUInt .little file 0 4 ≠ 0xd4c3b2a1) :
    readPcap file = .error (.valueError
      s!"Invalid pcap magic: {formatHex false 8 (readUInt .little file 0 4)}") := by
  rw [readPcap_of_le h, if_neg h1, if_neg h2]

/-- `read_pcap` raises exactly on a short global header or an unknown magic number. -/
theorem readPcap_error_iff (file : Bytes) :
    (∃ err, readPcap file = .error err) ↔
      file.length < 24 ∨
        (readUInt .little file 0 4 ≠ 0xa1b2c3d4 ∧ readUInt .little file 0 4 ≠ 0xd4c3b2a1) := by
  by_cases h : file.length < 24
  · simp [readPcap_short h, h]
  have h24 : 24 ≤ file.length := by omega
  by_cases h1 : readUInt .little file 0 4 = 0xa1b2c3d4
  · obtain ⟨r, hr⟩ := readPackets_ok .little 0 (file.drop 24)
    simp [readPcap_little h24 h1, hr, h, h1]
  by_cases h2 : readUInt .little file 0 4 = 0xd4c3b2a1
  · obtain ⟨r, hr⟩ := readPackets_ok .big 0 (file.drop 24)
    simp [readPcap_big h24 h2, hr, h, h2]
  · simp [readPcap_bad_magic h24 h1 h2, h1, h2]

/-! ### Round trip

A capture as a writer lays it out: the magic number in the writer's byte order, 20 more
global-header bytes, one record per frame, and a tail that holds no whole record. -/

/-- A frame as a pcap writer stores it: its record header's fields and its bytes. -/
structure PcapFrame where
  tsSec : UInt32
  tsUsec : UInt32
  origLen : UInt32
  data : Bytes
  data_lt : data.length < 2 ^ 32

/-- A 16-byte record header in byte order `e`. -/
def encodeRecordHeader (e : Endian) (tsSec tsUsec inclLen origLen : Nat) : Bytes :=
  encodeUInt e 4 tsSec ++ encodeUInt e 4 tsUsec ++ encodeUInt e 4 inclLen ++ encodeUInt e 4 origLen

/-- A frame's record: its header, whose `incl_len` is the frame's length, then the frame. -/
def PcapFrame.encode (e : Endian) (f : PcapFrame) : Bytes :=
  encodeRecordHeader e f.tsSec.toNat f.tsUsec.toNat f.data.length f.origLen.toNat ++ f.data

/-- The packet numbered `num` that holds a frame. -/
def PcapFrame.toPacket (f : PcapFrame) (num : Nat) : Packet :=
  ⟨num, timestampOf f.tsSec.toNat f.tsUsec.toNat, f.data, f.data.length⟩

/-- What may follow the last whole record: fewer than 16 bytes, or a record header whose
    `incl_len` is more than the bytes after it. -/
inductive PcapTail (e : Endian) : Bytes → Prop
  | short {t : Bytes} (h : t.length < 16) : PcapTail e t
  | truncated (tsSec tsUsec inclLen origLen : UInt32) {more : Bytes}
      (h : more.length < inclLen.toNat) :
      PcapTail e (encodeRecordHeader e tsSec.toNat tsUsec.toNat inclLen.toNat origLen.toNat ++ more)

/-- The magic number `0xa1b2c3d4` written in byte order `e`. -/
def pcapMagic (e : Endian) : Bytes := encodeUInt e 4 0xa1b2c3d4

/-- A record header takes 16 bytes. -/
@[simp] theorem length_encodeRecordHeader (e : Endian) (a b c d : Nat) :
    (encodeRecordHeader e a b c d).length = 16 := by
  simp [encodeRecordHeader]

/-- A record header's field holds its value. -/
private theorem uint32_toNat_lt (x : UInt32) : x.toNat < 256 ^ 4 := x.toNat_lt_size

/-- The first three fields of a record header read back. -/
private theorem readUInt_encodeRecordHeader (e : Endian) {a b c : Nat} (d : Nat) (r : Bytes)
    (ha : a < 256 ^ 4) (hb : b < 256 ^ 4) (hc : c < 256 ^ 4) :
    readUInt e (encodeRecordHeader e a b c d ++ r) 0 4 = a ∧
      readUInt e (encodeRecordHeader e a b c d ++ r) 4 4 = b ∧
      readUInt e (encodeRecordHeader e a b c d ++ r) 8 4 = c := by
  simp only [encodeRecordHeader, List.append_assoc]
  refine ⟨readUInt_append_encodeUInt e _ ha, ?_, ?_⟩
  · rw [readUInt_append_of_le e _ _ (by simp), length_encodeUInt]
    exact readUInt_append_encodeUInt e _ hb
  · rw [readUInt_append_of_le e _ _ (by simp), readUInt_append_of_le e _ _ (by simp),
      length_encodeUInt, length_encodeUInt]
    exact readUInt_append_encodeUInt e _ hc

/-- One encoded record is read back as its packet. -/
theorem readPackets_encode (e : Endian) (n : Nat) (f : PcapFrame) (rest : Bytes) :
    readPackets e n (f.encode e ++ rest) =
      (fun t => { t with packets := f.toPacket (n + 1) :: t.packets }) <$>
        readPackets e (n + 1) rest := by
  have hdata : f.data.length < 256 ^ 4 := f.data_lt
  obtain ⟨h0, h4, h8⟩ := readUInt_encodeRecordHeader e f.origLen.toNat (f.data ++ rest)
    (uint32_toNat_lt f.tsSec) (uint32_toNat_lt f.tsUsec) hdata
  simp only [PcapFrame.encode, List.append_assoc] at h0 h4 h8 ⊢
  rw [readPackets_record (by simp [h8]), h0, h4, h8,
    List.drop_left' (length_encodeRecordHeader ..), List.take_left,
    ← List.append_assoc, List.drop_left' (by simp)]
  rfl

/-- A tail holds no whole record, so it adds no packet. -/
theorem readPackets_tail {e : Endian} (n : Nat) {t : Bytes} (ht : PcapTail e t) :
    PcapRead.packets <$> readPackets e n t = .ok [] := by
  cases ht with
  | short h => rw [readPackets_short h]; rfl
  | @truncated tsSec tsUsec inclLen origLen more h =>
    obtain ⟨-, -, h8⟩ := readUInt_encodeRecordHeader e origLen.toNat more
      (uint32_toNat_lt tsSec) (uint32_toNat_lt tsUsec) (uint32_toNat_lt inclLen)
    rw [readPackets_truncated (by simp) (by simp [h8, h])]
    rfl

/-- The record loop over encoded frames reads them as packets numbered from `n + 1`, and then goes
    on over what follows them as it would on its own, where it also stops. -/
theorem readPackets_flatMap_encode_append (e : Endian) (n : Nat) (frames : List PcapFrame)
    (t : Bytes) :
    readPackets e n (frames.flatMap (PcapFrame.encode e) ++ t) =
      (fun r => { r with packets := (frames.enumFrom (n + 1)).map (fun p => p.2.toPacket p.1) ++
        r.packets }) <$> readPackets e (n + frames.length) t := by
  induction frames generalizing n with
  | nil => obtain ⟨r, hr⟩ := readPackets_ok e n t; simp [hr]
  | cons f fs ih =>
    obtain ⟨r, hr⟩ := readPackets_ok e (n + 1 + fs.length) t
    rw [List.flatMap_cons, List.append_assoc, readPackets_encode, ih, hr, List.length_cons,
      show n + (fs.length + 1) = n + 1 + fs.length by omega, hr]
    rfl

/-- The record loop over encoded frames and a tail numbers the frames' packets from `n + 1`. -/
theorem readPackets_flatMap_encode (e : Endian) (n : Nat) (frames : List PcapFrame) {t : Bytes}
    (ht : PcapTail e t) :
    PcapRead.packets <$> readPackets e n (frames.flatMap (PcapFrame.encode e) ++ t) =
      .ok ((frames.enumFrom (n + 1)).map fun p => p.2.toPacket p.1) := by
  have htail := readPackets_tail (n + frames.length) ht
  obtain ⟨r, hr⟩ := readPackets_ok e (n + frames.length) t
  rw [hr] at htail
  have hnil : r.packets = [] := Except.ok.inj htail
  rw [readPackets_flatMap_encode_append, hr]
  simp only [Except.map_ok, hnil, List.append_nil]

/-- `read_pcap` reads the magic number of either byte order as that byte order. -/
private theorem readUInt_pcapMagic (e : Endian) (r : Bytes) :
    readUInt .little (pcapMagic e ++ r) 0 4 = if e = .little then 0xa1b2c3d4 else 0xd4c3b2a1 := by
  rw [pcapMagic, readUInt_append_of_length .little r (length_encodeUInt e 4 _)]
  cases e <;> rfl

/-- A capture that starts with the magic number of either byte order and 20 more header bytes
    goes on to the record loop in that byte order. -/
theorem readPcap_pcapMagic (e : Endian) {global : Bytes} (hglobal : global.length = 20)
    (rest : Bytes) : readPcap (pcapMagic e ++ global ++ rest) = readPackets e 0 rest := by
  have hdrop : (pcapMagic e ++ global ++ rest).drop 24 = rest :=
    List.drop_left' (by simp [pcapMagic, hglobal])
  have h24 : 24 ≤ (pcapMagic e ++ global ++ rest).length := by simp [pcapMagic, hglobal]; omega
  have hmagic := readUInt_pcapMagic e (global ++ rest)
  rw [← List.append_assoc] at hmagic
  cases e
  · rw [readPcap_little h24 (by simpa using hmagic), hdrop]
  · rw [readPcap_big h24 (by simpa using hmagic), hdrop]

/-- A capture written in either byte order reads back as its frames, numbered from 1, whatever
    the other global-header bytes and whatever incomplete record ends the file. -/
theorem readPcap_encode (e : Endian) {global tail : Bytes} (frames : List PcapFrame)
    (hglobal : global.length = 20) (htail : PcapTail e tail) :
    PcapRead.packets <$>
        readPcap (pcapMagic e ++ global ++ frames.flatMap (PcapFrame.encode e) ++ tail) =
      .ok ((frames.enumFrom 1).map fun p => p.2.toPacket p.1) := by
  rw [List.append_assoc _ _ tail, readPcap_pcapMagic e hglobal]
  exact readPackets_flatMap_encode e 0 frames htail

/-- The record header of a 60-byte frame of which the file holds one byte. -/
def cutRecord : Bytes := encodeRecordHeader .little 5 6 60 60 ++ [0x01]

/-- `cutRecord` holds no whole record. -/
theorem pcapTail_cutRecord : PcapTail .little cutRecord := .truncated 5 6 60 60 (by decide)

/-- The record loop stops at `cutRecord` and reports it truncated. -/
theorem readPackets_cutRecord (n : Nat) : readPackets .little n cutRecord = .ok ⟨[], some (n + 1)⟩ :=
  readPackets_truncated (by decide) (by decide)

/-- A little-endian capture of `frames` that ends in `cutRecord` reads as the frames, numbered
    from 1, and reports the record after them truncated. -/
theorem readPcap_cutRecord (frames : List PcapFrame) :
    readPcap (pcapMagic .little ++ List.replicate 20 0 ++ frames.flatMap (PcapFrame.encode .little) ++
        cutRecord) =
      .ok ⟨(frames.enumFrom 1).map fun p => p.2.toPacket p.1, some (frames.length + 1)⟩ := by
  rw [List.append_assoc _ _ cutRecord,
    readPcap_pcapMagic .little (show (List.replicate 20 (0 : UInt8)).length = 20 from rfl),
    readPackets_flatMap_encode_append, readPackets_cutRecord]
  simp only [Except.map_ok, List.append_nil, Nat.zero_add]

/-- Two frames of one and two bytes. -/
def twoFrames : List PcapFrame := [⟨1, 2, 60, [0xab], by decide⟩, ⟨3, 4, 60, [0xcd, 0xef], by decide⟩]

/-- A little-endian capture of `twoFrames` cut in a third record. -/
def twoFrameCapture : Bytes :=
  pcapMagic .little ++ List.replicate 20 0 ++ twoFrames.flatMap (PcapFrame.encode .little) ++ cutRecord

/-- Two little-endian frames followed by a truncated record read back as packets 1 and 2. -/
theorem readPcap_encode_twoFrames :
    (List.replicate 20 (0 : UInt8)).length = 20 ∧ PcapTail .little cutRecord ∧
      PcapRead.packets <$> readPcap (pcapMagic .little ++ List.replicate 20 0 ++
          twoFrames.flatMap (PcapFrame.encode .little) ++ cutRecord) =
        .ok ((twoFrames.enumFrom 1).map fun p => p.2.toPacket p.1) :=
  ⟨rfl, pcapTail_cutRecord, readPcap_encode .little twoFrames rfl pcapTail_cutRecord⟩

/-! ### Every capture read back is a writer's

The converse of `readPcap_encode`: whatever `read_pcap` reads without an exception is laid out
as a writer lays out a capture, and its packets are that capture's frames. -/

/-- A whole record header is the encoding of the four fields read from it. -/
theorem take_eq_encodeRecordHeader (e : Endian) {rest : Bytes} (h : 16 ≤ rest.length) :
    rest.take 16 = encodeRecordHeader e (readUInt e rest 0 4) (readUInt e rest 4 4)
      (readUInt e rest 8 4) (readUInt e rest 12 4) := by
  rw [encodeRecordHeader, encodeUInt_readUInt e (show 0 + 4 ≤ rest.length by omega),
    encodeUInt_readUInt e (show 4 + 4 ≤ rest.length by omega),
    encodeUInt_readUInt e (show 8 + 4 ≤ rest.length by omega),
    encodeUInt_readUInt e (show 12 + 4 ≤ rest.length by omega), slice_append_slice _ (by omega) (by omega),
    slice_append_slice _ (by omega) (by omega), slice_append_slice _ (by omega) (by omega),
    slice_zero]

/-- What the record loop reads from the bytes `rest` without an exception comes from a writer:
    `rest` is encoded frames and a tail that holds no whole record, and the packets are those
    frames, numbered from `n + 1`. -/
theorem readPackets_decompose (e : Endian) (n : Nat) (rest : Bytes) {r : PcapRead}
    (h : readPackets e n rest = .ok r) :
    ∃ (frames : List PcapFrame) (tail : Bytes), PcapTail e tail ∧
      rest = frames.flatMap (PcapFrame.encode e) ++ tail ∧
      r.packets = (frames.enumFrom (n + 1)).map fun p => p.2.toPacket p.1 := by
  by_cases h16 : rest.length < 16
  · rw [readPackets_short h16] at h
    cases Except.ok.inj h
    exact ⟨[], rest, .short h16, rfl, rfl⟩
  have hhdr := take_eq_encodeRecordHeader e (Nat.le_of_not_lt h16)
  have hfit : ∀ k, (UInt32.ofNat (readUInt e rest k 4)).toNat = readUInt e rest k 4 :=
    fun k => UInt32.toNat_ofNat_of_lt (readUInt_lt e rest k 4)
  by_cases hinc : rest.length < 16 + readUInt e rest 8 4
  · rw [readPackets_truncated (by omega) hinc] at h
    cases Except.ok.inj h
    have ht := @PcapTail.truncated e (UInt32.ofNat (readUInt e rest 0 4))
      (UInt32.ofNat (readUInt e rest 4 4)) (UInt32.ofNat (readUInt e rest 8 4))
      (UInt32.ofNat (readUInt e rest 12 4)) (rest.drop 16) (by rw [hfit]; simp; omega)
    rw [hfit, hfit, hfit, hfit, ← hhdr, List.take_append_drop] at ht
    exact ⟨[], rest, ht, rfl, rfl⟩
  have hrec : 16 + readUInt e rest 8 4 ≤ rest.length := by omega
  obtain ⟨t, ht⟩ := readPackets_ok e (n + 1) (rest.drop (16 + readUInt e rest 8 4))
  rw [readPackets_record hrec, ht] at h
  cases Except.ok.inj h
  obtain ⟨frames, tail, htail, hrest, hpk⟩ := readPackets_decompose e (n + 1) _ ht
  have hdata : ((rest.drop 16).take (readUInt e rest 8 4)).length = readUInt e rest 8 4 := by
    simp; omega
  refine ⟨⟨UInt32.ofNat (readUInt e rest 0 4), UInt32.ofNat (readUInt e rest 4 4),
    UInt32.ofNat (readUInt e rest 12 4), (rest.drop 16).take (readUInt e rest 8 4),
    by rw [hdata]; exact readUInt_lt e rest 8 4⟩ :: frames, tail, htail, ?_, ?_⟩
  · rw [List.flatMap_cons, List.append_assoc, ← hrest, PcapFrame.encode]
    dsimp only
    rw [hdata, hfit, hfit, hfit, ← hhdr, ← List.take_add, List.take_append_drop]
  · simp [hpk, PcapFrame.toPacket, hfit, hdata]
termination_by rest.length
decreasing_by simp only [List.length_drop]; omega

/-- What `read_pcap` did when it returned: the file holds a whole global header whose magic
    number is written in some byte order `e`, and the record loop read the rest in that order. -/
theorem readPcap_ok_inv {file : Bytes} {read : PcapRead} (h : readPcap file = .ok read) :
    ∃ e, 24 ≤ file.length ∧ file.take 4 = pcapMagic e ∧
      readPackets e 0 (file.drop 24) = .ok read := by
  have h24 : 24 ≤ file.length := Nat.le_of_not_lt fun hlt => by
    rw [readPcap_short hlt] at h; cases h
  have hmagic : file.take 4 = encodeUInt .little 4 (readUInt .little file 0 4) := by
    rw [encodeUInt_readUInt .little (by omega), slice_zero]
  by_cases h1 : readUInt .little file 0 4 = 0xa1b2c3d4
  · exact ⟨.little, h24, by rw [hmagic, h1]; rfl, by rwa [readPcap_little h24 h1] at h⟩
  by_cases h2 : readUInt .little file 0 4 = 0xd4c3b2a1
  · exact ⟨.big, h24, by rw [hmagic, h2]; rfl, by rwa [readPcap_big h24 h2] at h⟩
  rw [readPcap_bad_magic h24 h1 h2] at h
  cases h

/-- Every capture `read_pcap` reads without an exception is a writer's capture: the magic number
    in one byte order, 20 more header bytes, encoded frames, and a tail that holds no whole
    record; its packets are those frames, numbered from 1. With `readPcap_encode`, the writer's
    layout and `read_pcap` are inverse to each other. -/
theorem readPcap_decompose {file : Bytes} {read : PcapRead} (h : readPcap file = .ok read) :
    ∃ (e : Endian) (global : Bytes) (frames : List PcapFrame) (tail : Bytes),
      global.length = 20 ∧ PcapTail e tail ∧
      file = pcapMagic e ++ global ++ frames.flatMap (PcapFrame.encode e) ++ tail ∧
      read.packets = (frames.enumFrom 1).map fun p => p.2.toPacket p.1 := by
  obtain ⟨e, h24, hm, hr⟩ := readPcap_ok_inv h
  obtain ⟨frames, tail, ht, hrest, hpk⟩ := readPackets_decompose e 0 _ hr
  refine ⟨e, (file.drop 4).take 20, frames, tail, by simp; omega, ht, ?_, hpk⟩
  rw [List.append_assoc (pcapMagic e ++ _), ← hrest, ← hm, List.append_assoc,
    show file.drop 24 = (file.drop 4).drop 20 by simp [List.drop_drop], List.take_append_drop,
    List.take_append_drop]

/-- `twoFrameCapture` is the writer's capture of its two frames, numbered 1 and 2. -/
theorem readPcap_decompose_twoFrames :
    readPcap twoFrameCapture = .ok ⟨(twoFrames.enumFrom 1).map fun p => p.2.toPacket p.1, some 3⟩ ∧
      ∃ (e : Endian) (global : Bytes) (frames : List PcapFrame) (tail : Bytes),
        global.length = 20 ∧ PcapTail e tail ∧
        twoFrameCapture = pcapMagic e ++ global ++ frames.flatMap (PcapFrame.encode e) ++ tail ∧
        (twoFrames.enumFrom 1).map (fun p => p.2.toPacket p.1) =
          (frames.enumFrom 1).map fun p => p.2.toPacket p.1 :=
  ⟨readPcap_cutRecord twoFrames, readPcap_decompose (readPcap_cutRecord twoFrames)⟩

/-- The record loop numbers the packets it reads consecutively from `n + 1`. -/
theorem readPackets_num (e : Endian) (n : Nat) (rest : Bytes) {r : PcapRead}
    (h : readPackets e n rest = .ok r) :
    r.packets.map Packet.num = List.range' (n + 1) r.packets.length := by
  by_cases h16 : rest.length < 16
  · rw [readPackets_short h16] at h; cases Except.ok.inj h; rfl
  by_cases hinc : rest.length < 16 + readUInt e rest 8 4
  · rw [readPackets_truncated (by omega) hinc] at h; cases Except.ok.inj h; rfl
  obtain ⟨t, ht⟩ := readPackets_ok e (n + 1) (rest.drop (16 + readUInt e rest 8 4))
  rw [readPackets_record (by omega), ht] at h
  cases Except.ok.inj h
  simp [readPackets_num e (n + 1) _ ht, List.range'_succ]
termination_by rest.length
decreasing_by simp only [List.length_drop]; omega

/-- `read_pcap` numbers the packets it reads 1, 2, 3, and so on. -/
theorem readPcap_num {file : Bytes} {read : PcapRead} (h : readPcap file = .ok read) :
    read.packets.map Packet.num = List.range' 1 read.packets.length :=
  let ⟨e, _, _, hr⟩ := readPcap_ok_inv h
  readPackets_num e 0 _ hr

end ValidateSedp
