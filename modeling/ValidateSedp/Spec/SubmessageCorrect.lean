import ValidateSedp.Native.Submessage
import ValidateSedp.Spec.Wire
import Mathlib.Data.List.Chain

/-!
# `parse_submessages` correctness

`Submessage.read data offset` is the record the walker makes of the header at `offset`, read with
total readers; the three lemmas `parseSubmessages_end`, `parseSubmessages_last` and
`parseSubmessages_next` say what one turn of the walk does, and every later proof about the
walker uses them instead of unfolding it.

## Key results

- `classifyEntityId_eq_entityRole`: classification by substrings of the table's names agrees
  with a direct id-to-role table.
- `parseSubmessages_records`: what every record of every walk satisfies.
- `parseSubmessages_encode`: encoded submessages and a tail read back as their records.
- `parseSubmessages_decompose`: every walk is over encoded submessages and the place where it
  stopped (`SubmessageStop`); with the previous result, the layout and the walker are inverse
  to each other.
- `parseSubmessages_sequenceNumber`: a sequence number laid out by RTPS is read with its halves
  swapped.
-/

namespace ValidateSedp

/-! ### Entity classification -/

/-- The role of each entity id as a direct table, following the names `ENTITY_IDS` gives the
    ids: the two SPDP ids, the ids named for publications, those named for subscriptions, the
    other known ids, and every other id. -/
def entityRole (entityId : Nat) : EntityType :=
  if entityId = 0x000100C2 ∨ entityId = 0x000001C1 then .SPDP
  else if entityId = 0x000003C2 ∨ entityId = 0x000004C2 then .SEDP_PUB
  else if entityId = 0x000003C7 ∨ entityId = 0x000004C7 then .SEDP_SUB
  else if entityId = 0x000000C0 ∨ entityId = 0x000200C2 ∨ entityId = 0x000201C2 then .BUILTIN
  else .USER

/-- An id outside `ENTITY_IDS` is a user entity. -/
theorem classifyEntityId_of_not_mem {entityId : Nat} (h : entityId ∉ entityIds.map Prod.fst) :
    classifyEntityId entityId = .USER := by
  have hl : entityIds.lookup entityId = none :=
    List.lookup_eq_none_iff.2 fun p hp => by
      simpa using fun he : entityId = p.1 => h (he ▸ List.mem_map_of_mem Prod.fst hp)
  simp [classifyEntityId, hl]

/-- An id classified as anything but a user entity is one of the 32-bit ids of `ENTITY_IDS`. -/
theorem lt_of_classifyEntityId_ne_user {entityId : Nat} (h : classifyEntityId entityId ≠ .USER) :
    entityId < 2 ^ 32 :=
  Nat.lt_of_not_le fun hle =>
    h (classifyEntityId_of_not_mem fun hm => by simp [entityIds] at hm; omega)

/-- Classifying an id by the substrings of its name in `ENTITY_IDS` agrees with the direct
    table. -/
theorem classifyEntityId_eq_entityRole (entityId : Nat) :
    classifyEntityId entityId = entityRole entityId := by
  by_cases h : entityId ∈ entityIds.map Prod.fst
  · simp only [entityIds, List.map_cons, List.map_nil, List.mem_cons, List.mem_singleton,
      List.not_mem_nil, or_false] at h
    rcases h with rfl | rfl | rfl | rfl | rfl | rfl | rfl | rfl | rfl <;> decide
  · rw [classifyEntityId_of_not_mem h]
    simp only [entityIds, List.map_cons, List.map_nil, List.mem_cons, List.not_mem_nil,
      or_false, not_or] at h
    simp [entityRole, h]

example : classifyEntityId 0x000003C2 = .SEDP_PUB ∧ classifyEntityId 0x000001C1 = .SPDP ∧
    classifyEntityId 0xDEADBEEF = .USER := by
  decide

/-! ### One turn of the walk -/

/-- The DATA keys read from a body of at least 20 bytes. -/
def DataFields.ofBody (body : Bytes) : DataFields :=
  let qosOffset := readUInt .little body 2 2
  ⟨readUInt .little body 0 2, qosOffset, readUInt .big body 4 4, readUInt .big body 8 4,
    readUInt .little body 12 8, classifyEntityId (readUInt .big body 8 4),
    if qosOffset ≥ 20 then body.drop qosOffset else body.drop 20⟩

/-- The DATA branch never raises on a body of at least 20 bytes, and reads `DataFields.ofBody`. -/
theorem parseDataFields_eq {body : Bytes} (h : 20 ≤ body.length) :
    parseDataFields body = .ok (DataFields.ofBody body) := by
  simp [parseDataFields, DataFields.ofBody,
    unpack_slice (show 0 + 2 = 2 from rfl) (show 2 ≤ body.length by omega),
    unpack_slice (show 2 + 2 = 4 from rfl) (show 4 ≤ body.length by omega),
    unpack_slice (show 4 + 4 = 8 from rfl) (show 8 ≤ body.length by omega),
    unpack_slice (show 8 + 4 = 12 from rfl) (show 12 ≤ body.length by omega),
    unpack_slice (show 12 + 8 = 20 from rfl) h]

/-- The record of a submessage with header `id`, `flags` and declared length `len`, body bytes
    `body`, at `offset`: its DATA keys, when it has them, are read from the body alone. -/
def Submessage.ofBody (id flags : UInt8) (len : Nat) (body : Bytes) (offset : Nat) : Submessage :=
  ⟨id, flags, len, body, offset,
    if id = rtpsSubmsgData ∧ 20 ≤ body.length then some (DataFields.ofBody body) else none⟩

/-- The record `parse_submessages` makes of the header at `offset`. -/
def Submessage.read (data : Bytes) (offset : Nat) : Submessage :=
  let len := readUInt .little data (offset + 2) 2
  Submessage.ofBody (byteAt data offset) (byteAt data (offset + 1)) len
    (slice data (offset + 4) (offset + 4 + len)) offset

/-- The record's kind is its header's. -/
@[simp] theorem Submessage.ofBody_id (id flags : UInt8) (len : Nat) (body : Bytes) (offset : Nat) :
    (Submessage.ofBody id flags len body offset).id = id := rfl

/-- The record's `length` is the declared length. -/
@[simp] theorem Submessage.ofBody_length (id flags : UInt8) (len : Nat) (body : Bytes) (offset : Nat) :
    (Submessage.ofBody id flags len body offset).length = len := rfl

/-- The record's `offset` is its header's. -/
@[simp] theorem Submessage.ofBody_offset (id flags : UInt8) (len : Nat) (body : Bytes) (offset : Nat) :
    (Submessage.ofBody id flags len body offset).offset = offset := rfl

/-- The record's `data` is the body sliced from the buffer. -/
@[simp] theorem Submessage.ofBody_data (id flags : UInt8) (len : Nat) (body : Bytes) (offset : Nat) :
    (Submessage.ofBody id flags len body offset).data = body := rfl

/-- A DATA submessage with a body of at least 20 bytes has its DATA fields read. -/
theorem Submessage.ofBody_dataFields (flags : UInt8) (len : Nat) {body : Bytes} (offset : Nat)
    (h : 20 ≤ body.length) :
    (Submessage.ofBody rtpsSubmsgData flags len body offset).dataFields =
      some (DataFields.ofBody body) :=
  if_pos ⟨rfl, h⟩

/-- The body `parse_submessages` slices is the declared length's slice, also for length 0. -/
private theorem submsgData_eq (d : Bytes) (a n : Nat) :
    (if n > 0 then slice d a (a + n) else []) = slice d a (a + n) := by
  split_ifs with h
  · rfl
  · simp [show n = 0 by omega, slice]

/-- The DATA branch of one turn, on a body of any length. -/
private theorem dataFields_eq (id : UInt8) (body : Bytes) :
    (if id = rtpsSubmsgData ∧ body.length ≥ 20 then some <$> parseDataFields body else pure none) =
      (Except.ok (if id = rtpsSubmsgData ∧ 20 ≤ body.length then some (DataFields.ofBody body)
        else none) : Except PyError (Option DataFields)) := by
  split_ifs with h
  · rw [parseDataFields_eq h.2]; rfl
  · rfl

/-- One turn of the walk, with a whole header at `offset`. -/
private theorem parseSubmessages_step {data : Bytes} {offset : Nat} (h : offset + 4 ≤ data.length) :
    parseSubmessages data offset =
      if (Submessage.read data offset).length = 0 then .ok [Submessage.read data offset]
      else (Submessage.read data offset :: ·) <$>
        parseSubmessages data (offset + 4 + (Submessage.read data offset).length) := by
  rw [parseSubmessages, dif_pos (by omega), if_neg (by omega)]
  simp only [getItem_of_lt (show offset < data.length by omega),
    getItem_of_lt (show offset + 1 < data.length by omega),
    unpack_slice (show offset + 2 + 2 = offset + 4 by omega) h, Except.ok_bind, submsgData_eq]
  rw [dataFields_eq]
  rfl

/-- Fewer than 4 bytes left: the walk ends with no record. -/
theorem parseSubmessages_end {data : Bytes} {offset : Nat} (h : data.length < offset + 4) :
    parseSubmessages data offset = .ok [] := by
  rw [parseSubmessages]
  split_ifs <;> rfl

/-- A header of declared length 0: its record is the last. -/
theorem parseSubmessages_last {data : Bytes} {offset : Nat} (h : offset + 4 ≤ data.length)
    (hz : (Submessage.read data offset).length = 0) :
    parseSubmessages data offset = .ok [Submessage.read data offset] := by
  rw [parseSubmessages_step h, if_pos hz]

/-- A header of nonzero declared length: its record, then the walk from past its declared body,
    whether or not the buffer holds that body. -/
theorem parseSubmessages_next {data : Bytes} {offset : Nat} (h : offset + 4 ≤ data.length)
    (hz : (Submessage.read data offset).length ≠ 0) :
    parseSubmessages data offset =
      (Submessage.read data offset :: ·) <$>
        parseSubmessages data (offset + 4 + (Submessage.read data offset).length) := by
  rw [parseSubmessages_step h, if_neg hz]

/-- The walker never raises. -/
theorem parseSubmessages_ok (data : Bytes) (offset : Nat) :
    ∃ subs, parseSubmessages data offset = .ok subs := by
  by_cases h : data.length < offset + 4
  · exact ⟨_, parseSubmessages_end h⟩
  by_cases hz : (Submessage.read data offset).length = 0
  · exact ⟨_, parseSubmessages_last (by omega) hz⟩
  obtain ⟨subs, hs⟩ := parseSubmessages_ok data (offset + 4 + (Submessage.read data offset).length)
  exact ⟨_, by rw [parseSubmessages_next (by omega) hz, hs]; rfl⟩
termination_by data.length - offset

/-! ### What every record satisfies -/

/-- A lone DATA header that declares 65535 body bytes the buffer does not have: the walker
    returns a record of length 65535 whose data is empty. -/
theorem parseSubmessages_overrun :
    parseSubmessages [0x15, 0x00, 0xff, 0xff] 0 = .ok [⟨0x15, 0x00, 65535, [], 0, none⟩] := by
  rw [parseSubmessages_next (by decide) (by decide), parseSubmessages_end (by decide)]
  rfl

/-- `SubmessageWalk data offset subs`: the walk over `data` from `offset` gives `subs`. Each
    record is `Submessage.read` of a header that lies in the buffer; a record of declared length 0
    ends the walk, any other moves the cursor past its declared body. The walk also stops where
    fewer than 4 bytes are left. -/
inductive SubmessageWalk (data : Bytes) : Nat → List Submessage → Prop
  | stop {offset : Nat} (h : data.length < offset + 4) : SubmessageWalk data offset []
  | last {offset : Nat} (hin : offset + 4 ≤ data.length)
      (hz : readUInt .little data (offset + 2) 2 = 0) :
      SubmessageWalk data offset [Submessage.read data offset]
  | step {offset : Nat} {subs : List Submessage} (hin : offset + 4 ≤ data.length)
      (hz : readUInt .little data (offset + 2) 2 ≠ 0)
      (rest : SubmessageWalk data (offset + 4 + readUInt .little data (offset + 2) 2) subs) :
      SubmessageWalk data offset (Submessage.read data offset :: subs)

/-- The walker from any offset returns without raising, and what it returns is a walk. -/
theorem parseSubmessages_walk (data : Bytes) (offset : Nat) :
    ∃ subs, parseSubmessages data offset = .ok subs ∧ SubmessageWalk data offset subs := by
  by_cases h : data.length < offset + 4
  · exact ⟨[], parseSubmessages_end h, .stop h⟩
  by_cases hz : (Submessage.read data offset).length = 0
  · exact ⟨_, parseSubmessages_last (by omega) hz, .last (by omega) hz⟩
  obtain ⟨subs, hs, hw⟩ :=
    parseSubmessages_walk data (offset + 4 + (Submessage.read data offset).length)
  exact ⟨_, by rw [parseSubmessages_next (by omega) hz, hs]; rfl, .step (by omega) hz hw⟩
termination_by data.length - offset

/-- Every record of a walk is the header read at its own offset, which lies in the buffer. -/
theorem SubmessageWalk.mem_read {data : Bytes} {offset : Nat} {subs : List Submessage}
    (hw : SubmessageWalk data offset subs) {r : Submessage} (hr : r ∈ subs) :
    r = Submessage.read data r.offset ∧ r.offset + 4 ≤ data.length := by
  induction hw with
  | stop => simp at hr
  | last hin => rcases List.mem_singleton.1 hr with rfl; exact ⟨rfl, hin⟩
  | step hin _ _ ih =>
    rcases List.mem_cons.1 hr with rfl | hr
    · exact ⟨rfl, hin⟩
    · exact ih hr

/-- The DATA fields of a record the walker returns are read from its data. -/
theorem dataFields_of_mem {data : Bytes} {offset : Nat} {subs : List Submessage}
    (hsubs : parseSubmessages data offset = .ok subs) {r : Submessage} (hr : r ∈ subs)
    {df : DataFields} (hdf : r.dataFields = some df) : df = DataFields.ofBody r.data := by
  obtain ⟨subs', hs, hw⟩ := parseSubmessages_walk data offset
  obtain rfl : subs' = subs := Except.ok.inj (hs.symm.trans hsubs)
  rw [(hw.mem_read hr).1] at hdf ⊢
  simp only [Submessage.read, Submessage.ofBody] at hdf ⊢
  split_ifs at hdf
  exact (Option.some.inj hdf).symm

/-- A walk starts at its offset; each record but the last has a body inside the buffer and a
    nonzero length, and the next record follows it `4 + length` further. -/
theorem SubmessageWalk.chain {data : Bytes} {offset : Nat} {subs : List Submessage}
    (hw : SubmessageWalk data offset subs) :
    (∀ r ∈ subs.head?, r.offset = offset) ∧
    subs.Chain' (fun r r' => r.offset + 4 + r.length ≤ data.length ∧ r.length ≠ 0 ∧
      r'.offset = r.offset + 4 + r.length) := by
  induction hw with
  | stop => exact ⟨by simp, List.chain'_nil⟩
  | last => exact ⟨by simp [Submessage.read], List.chain'_singleton _⟩
  | step _ hz hrest ih =>
    refine ⟨by simp [Submessage.read], ih.2.cons' fun r' hr' => ?_⟩
    have hoff := ih.1 r' hr'
    have hin' := (hrest.mem_read (List.mem_of_mem_head? hr')).2
    simp only [Submessage.read, Submessage.ofBody_length, Submessage.ofBody_offset] at hoff ⊢
    exact ⟨by omega, hz, hoff⟩

/-- What the walker does guarantee: every record is the one read from the header at its own
    offset, which lies in the buffer, and its data is its declared length cut at the end of the
    buffer; the records start at `offset` and follow one another `4 + length` apart; and a record
    whose body runs past the end, like one of length 0, is the last. -/
theorem parseSubmessages_records {data : Bytes} {offset : Nat} {subs : List Submessage}
    (h : parseSubmessages data offset = .ok subs) :
    (∀ r ∈ subs, r = Submessage.read data r.offset ∧ r.offset + 4 ≤ data.length ∧
      r.data.length = min r.length (data.length - (r.offset + 4))) ∧
    (∀ r ∈ subs.head?, r.offset = offset) ∧
    subs.Chain' (fun r r' => r.offset + 4 + r.length ≤ data.length ∧ r.length ≠ 0 ∧
      r'.offset = r.offset + 4 + r.length) := by
  obtain ⟨subs', hs, hw⟩ := parseSubmessages_walk data offset
  obtain rfl : subs' = subs := Except.ok.inj (hs.symm.trans h)
  refine ⟨fun r hr => ?_, hw.chain⟩
  obtain ⟨hread, hin⟩ := hw.mem_read hr
  refine ⟨hread, hin, ?_⟩
  rw [hread]
  simp only [Submessage.read, Submessage.ofBody_data, Submessage.ofBody_length,
    Submessage.ofBody_offset, length_slice]
  omega

/-- The lone DATA header that declares 65535 body bytes: one record, whose body runs past the end
    and which is therefore the last. -/
theorem parseSubmessages_records_overrun :
    parseSubmessages [0x15, 0x00, 0xff, 0xff] 0 = .ok [⟨0x15, 0x00, 65535, [], 0, none⟩] ∧
      (∀ r ∈ [(⟨0x15, 0x00, 65535, [], 0, none⟩ : Submessage)],
        r = Submessage.read [0x15, 0x00, 0xff, 0xff] r.offset ∧
        r.offset + 4 ≤ 4 ∧ r.data.length = min r.length (4 - (r.offset + 4))) ∧
      (∀ r ∈ [(⟨0x15, 0x00, 65535, [], 0, none⟩ : Submessage)].head?, r.offset = 0) ∧
      [(⟨0x15, 0x00, 65535, [], 0, none⟩ : Submessage)].Chain' (fun r r' =>
        r.offset + 4 + r.length ≤ 4 ∧ r.length ≠ 0 ∧ r'.offset = r.offset + 4 + r.length) := by
  have h : parseSubmessages [0x15, 0x00, 0xff, 0xff] 0 = .ok [⟨0x15, 0x00, 65535, [], 0, none⟩] := by
    rw [parseSubmessages_next (by decide) (by decide), parseSubmessages_end (by decide)]
    rfl
  exact ⟨h, parseSubmessages_records h⟩

/-! ### Round trip -/

/-- A submessage as a writer lays it out: kind, flags, and a body of 1 to 65535 bytes. -/
structure SubmessageFrame where
  id : UInt8
  flags : UInt8
  body : Bytes
  body_pos : 0 < body.length
  body_lt : body.length < 2 ^ 16

/-- `id ++ flags ++ LE16(|body|) ++ body`. -/
def SubmessageFrame.encode (s : SubmessageFrame) : Bytes :=
  [s.id, s.flags] ++ encodeUInt .little 2 s.body.length ++ s.body

/-- The records of submessages laid out one after another from `offset`. -/
def SubmessageFrame.records : Nat → List SubmessageFrame → List Submessage
  | _, [] => []
  | offset, s :: ss =>
    Submessage.ofBody s.id s.flags s.body.length s.body offset ::
      records (offset + 4 + s.body.length) ss

/-- The offset after submessages laid out from `offset`. -/
def SubmessageFrame.endOffset : Nat → List SubmessageFrame → Nat
  | offset, [] => offset
  | offset, s :: ss => endOffset (offset + 4 + s.body.length) ss

/-- What may follow the last submessage: fewer than 4 bytes, or a header of length 0 and then
    anything. -/
inductive SubmessageTail where
  | short (bytes : Bytes) (h : bytes.length < 4)
  | terminal (id flags : UInt8) (more : Bytes)

/-- The bytes of a tail. -/
def SubmessageTail.bytes : SubmessageTail → Bytes
  | .short bytes _ => bytes
  | .terminal id flags more => [id, flags] ++ encodeUInt .little 2 0 ++ more

/-- The record a tail adds at `offset`: none, or the terminal one of length 0. -/
def SubmessageTail.records (offset : Nat) : SubmessageTail → List Submessage
  | .short _ _ => []
  | .terminal id flags _ => [Submessage.ofBody id flags 0 [] offset]

/-- The record read at a header written after `pre`. -/
private theorem read_header (pre : Bytes) (id flags : UInt8) (len : Nat) (r : Bytes)
    (hlen : len < 2 ^ 16) :
    Submessage.read (pre ++ ([id, flags] ++ encodeUInt .little 2 len ++ r)) pre.length =
      Submessage.ofBody id flags len (slice r 0 len) pre.length := by
  have hl : readUInt .little (pre ++ ([id, flags] ++ encodeUInt .little 2 len ++ r))
      (pre.length + 2) 2 = len := by
    rw [readUInt_append_right, List.append_assoc,
      readUInt_append_of_le .little _ _ (by simp), show 2 - [id, flags].length = 0 from rfl,
      readUInt_append_encodeUInt .little r (show len < 256 ^ 2 from hlen)]
  simp only [Submessage.read, hl]
  rw [@byteAt_append_of_le pre _ _ le_rfl, @byteAt_append_of_le pre _ _ (Nat.le_add_right _ 1),
    Nat.add_assoc, slice_append_right, slice_append_of_le _ _ (by simp)]
  simp only [Nat.sub_self, Nat.add_sub_cancel_left, List.length_append, List.length_cons,
    List.length_nil, length_encodeUInt]
  rfl

/-- A tail adds its records and ends the walk. -/
theorem parseSubmessages_tail (pre : Bytes) (tail : SubmessageTail) :
    parseSubmessages (pre ++ tail.bytes) pre.length = .ok (tail.records pre.length) := by
  cases tail with
  | short bytes h => exact parseSubmessages_end (by simp [SubmessageTail.bytes]; omega)
  | terminal id flags more =>
    have hr := read_header pre id flags 0 more (by decide)
    rw [SubmessageTail.bytes, parseSubmessages_last (by simp) (by rw [hr]; rfl), hr]
    rfl

/-- One turn of the walk over an encoded submessage: its record, then the walk after it. -/
theorem parseSubmessages_encode_cons (pre : Bytes) (s : SubmessageFrame) (rest : Bytes) :
    parseSubmessages (pre ++ s.encode ++ rest) pre.length =
      (Submessage.ofBody s.id s.flags s.body.length s.body pre.length :: ·) <$>
        parseSubmessages (pre ++ s.encode ++ rest) (pre ++ s.encode).length := by
  have hr := read_header pre s.id s.flags s.body.length (s.body ++ rest) s.body_lt
  rw [slice_zero, List.take_left] at hr
  have hdata : pre ++ s.encode ++ rest =
      pre ++ ([s.id, s.flags] ++ encodeUInt .little 2 s.body.length ++ (s.body ++ rest)) := by
    simp [SubmessageFrame.encode]
  have hnext : pre.length + 4 + s.body.length = (pre ++ s.encode).length := by
    simp [SubmessageFrame.encode]; omega
  rw [hdata, parseSubmessages_next (by simp) (by rw [hr]; exact s.body_pos.ne'), hr,
    Submessage.ofBody_length, hnext]

/-- The walk over encoded submessages and a tail returns their records, in order, and the
    terminal record of the tail if it has one. -/
theorem parseSubmessages_encode (pre : Bytes) (ss : List SubmessageFrame) (tail : SubmessageTail) :
    parseSubmessages (pre ++ ss.flatMap SubmessageFrame.encode ++ tail.bytes) pre.length =
      .ok (SubmessageFrame.records pre.length ss ++
        tail.records (SubmessageFrame.endOffset pre.length ss)) := by
  induction ss generalizing pre with
  | nil => simpa using parseSubmessages_tail pre tail
  | cons s ss ih =>
    have hih := ih (pre ++ s.encode)
    have hnext : (pre ++ s.encode).length = pre.length + 4 + s.body.length := by
      simp [SubmessageFrame.encode]; omega
    simp only [List.flatMap_cons, List.append_assoc] at hih ⊢
    rw [← List.append_assoc pre, parseSubmessages_encode_cons, List.append_assoc, hih,
      SubmessageFrame.endOffset, SubmessageFrame.records, hnext]
    rfl

/-! ### Every walk is over a writer's submessages -/

/-- Where the walk over submessages stops, at `offset`, and the record it still makes there:
    fewer than 4 bytes; a header of length 0 and anything, the terminal record; or a header whose
    body runs past the end, recorded with the bytes that are there. -/
inductive SubmessageStop (offset : Nat) : Bytes → List Submessage → Prop
  | short {tail : Bytes} (h : tail.length < 4) : SubmessageStop offset tail []
  | terminal (id flags : UInt8) (more : Bytes) :
      SubmessageStop offset ([id, flags] ++ encodeUInt .little 2 0 ++ more)
        [Submessage.ofBody id flags 0 [] offset]
  | overrun (id flags : UInt8) {len : Nat} {body : Bytes} (hlen : len < 2 ^ 16)
      (hbody : body.length < len) :
      SubmessageStop offset ([id, flags] ++ encodeUInt .little 2 len ++ body)
        [Submessage.ofBody id flags len body offset]

/-- The record read at the start of `rest`, moved to `offset`. -/
theorem Submessage.read_with_offset (rest : Bytes) (offset : Nat) :
    { Submessage.read rest 0 with offset := offset } =
      Submessage.ofBody (byteAt rest 0) (byteAt rest 1) (readUInt .little rest 2 2)
        (slice rest 4 (4 + readUInt .little rest 2 2)) offset := rfl

/-- The record read where `rest` begins after `pre` is the one read at the start of `rest`, at
    offset `pre.length`. -/
theorem Submessage.read_append (pre rest : Bytes) :
    Submessage.read (pre ++ rest) pre.length = { Submessage.read rest 0 with offset := pre.length } := by
  have h0 : byteAt (pre ++ rest) pre.length = byteAt rest 0 := by
    simpa using byteAt_append_right pre rest 0
  rw [Submessage.read_with_offset]
  simp only [Submessage.read, h0, byteAt_append_right, readUInt_append_right, Nat.add_assoc,
    slice_append_right]

/-- A submessage header: kind, flags, and the 16-bit length read from it. -/
private theorem submessageHeader_append_drop (rest : Bytes) (h : 4 ≤ rest.length) :
    rest = [byteAt rest 0, byteAt rest 1] ++ encodeUInt .little 2 (readUInt .little rest 2 2) ++
      rest.drop 4 := by
  have htwo : rest.take 2 = [byteAt rest 0, byteAt rest 1] :=
    match rest, h with
    | _ :: _ :: _, _ => rfl
  rw [encodeUInt_readUInt .little (by omega), ← htwo, ← slice_zero,
    slice_append_slice _ (by omega) (by omega), slice_zero, List.take_append_drop]

/-- A header of length 0, or one whose body the end cuts, is where the walk stops, with its
    record. -/
private theorem submessageStop_of_cut {rest : Bytes} (h4 : 4 ≤ rest.length)
    (hcut : readUInt .little rest 2 2 = 0 ∨ rest.length < 4 + readUInt .little rest 2 2)
    (offset : Nat) :
    SubmessageStop offset rest [{ Submessage.read rest 0 with offset := offset }] := by
  obtain ⟨len, hlen_def⟩ : ∃ len, readUInt .little rest 2 2 = len := ⟨_, rfl⟩
  rw [Submessage.read_with_offset, hlen_def]
  rw [hlen_def] at hcut
  conv => arg 2; rw [submessageHeader_append_drop rest h4, hlen_def]
  rcases hcut with rfl | hcut
  · rw [Nat.add_zero, slice, Nat.sub_self, List.take_zero]
    exact .terminal _ _ _
  · rw [slice, Nat.add_sub_cancel_left, List.take_of_length_le (by simp; omega)]
    exact .overrun _ _ (hlen_def ▸ readUInt_lt .little rest 2 2) (by simp; omega)

/-- A header whose body lies in the buffer is a writer's submessage, and the record the walker
    makes of it is that submessage's. -/
private theorem exists_submessageFrame {rest : Bytes} (hz : readUInt .little rest 2 2 ≠ 0)
    (hfit : 4 + readUInt .little rest 2 2 ≤ rest.length) :
    ∃ s : SubmessageFrame, s.body.length = readUInt .little rest 2 2 ∧
      rest = s.encode ++ rest.drop (4 + s.body.length) ∧
      ∀ offset, { Submessage.read rest 0 with offset := offset } =
        Submessage.ofBody s.id s.flags s.body.length s.body offset := by
  obtain ⟨len, hlen_def⟩ : ∃ len, readUInt .little rest 2 2 = len := ⟨_, rfl⟩
  rw [hlen_def] at hz hfit
  have hblen : (slice rest 4 (4 + len)).length = len := by
    rw [length_slice_of_le (by omega) hfit]; omega
  refine ⟨⟨byteAt rest 0, byteAt rest 1, slice rest 4 (4 + len), by omega,
    by rw [hblen, ← hlen_def]; exact readUInt_lt .little rest 2 2⟩, hblen.trans hlen_def.symm, ?_,
    fun offset => ?_⟩
  · conv => lhs; rw [submessageHeader_append_drop rest (by omega), hlen_def,
      drop_eq_slice_append_drop rest (show 4 ≤ 4 + len by omega)]
    simp only [SubmessageFrame.encode, hblen, List.append_assoc]
  · simp only [Submessage.read_with_offset, hlen_def, hblen]

/-- What the walker reads after `pre` comes from a writer: `rest` is encoded submessages and the
    place where the walk stops, and the records are those submessages' and the stop's. -/
theorem parseSubmessages_decompose_append (pre rest : Bytes) {subs : List Submessage}
    (h : parseSubmessages (pre ++ rest) pre.length = .ok subs) :
    ∃ (frames : List SubmessageFrame) (tail : Bytes) (last : List Submessage),
      SubmessageStop (SubmessageFrame.endOffset pre.length frames) tail last ∧
      rest = frames.flatMap SubmessageFrame.encode ++ tail ∧
      subs = SubmessageFrame.records pre.length frames ++ last := by
  obtain ⟨n, hn⟩ : ∃ n, rest.length = n := ⟨_, rfl⟩
  induction n using Nat.strong_induction_on generalizing pre rest subs with
  | _ n ih =>
  by_cases h4 : rest.length < 4
  · rw [parseSubmessages_end (by simp; omega)] at h
    cases Except.ok.inj h
    exact ⟨[], rest, [], .short h4, rfl, rfl⟩
  have hin : pre.length + 4 ≤ (pre ++ rest).length := by simp; omega
  have hlen : (Submessage.read (pre ++ rest) pre.length).length = readUInt .little rest 2 2 := by
    rw [Submessage.read_append]; rfl
  have hstop := @submessageStop_of_cut rest (Nat.le_of_not_lt h4)
  by_cases hz : readUInt .little rest 2 2 = 0
  · rw [parseSubmessages_last hin (hlen.trans hz), Submessage.read_append] at h
    cases Except.ok.inj h
    exact ⟨[], rest, _, hstop (.inl hz) _, rfl, rfl⟩
  rw [parseSubmessages_next hin (hlen ▸ hz), hlen, Submessage.read_append] at h
  by_cases hcut : rest.length < 4 + readUInt .little rest 2 2
  · rw [parseSubmessages_end (by simp; omega)] at h
    cases Except.ok.inj h
    exact ⟨[], rest, _, hstop (.inr hcut) _, rfl, rfl⟩
  -- a whole submessage, then the walk goes on after its body
  obtain ⟨s, hslen, hs, hrec⟩ := exists_submessageFrame hz (by omega)
  have hnext : (pre ++ s.encode).length = pre.length + 4 + readUInt .little rest 2 2 := by
    simp [SubmessageFrame.encode, hslen]; omega
  obtain ⟨subs', hs'⟩ := parseSubmessages_ok (pre ++ rest) (pre ++ s.encode).length
  rw [← hnext, hs'] at h
  cases Except.ok.inj h
  have hlt : (rest.drop (4 + s.body.length)).length < n := by simp; omega
  rw [hs, ← List.append_assoc] at hs'
  obtain ⟨frames, tail, last, hstop', hrest, rfl⟩ := ih _ hlt _ _ hs' rfl
  have hoff : (pre ++ s.encode).length = pre.length + 4 + s.body.length := by rw [hnext, hslen]
  refine ⟨s :: frames, tail, last, ?_, ?_, ?_⟩
  · rwa [SubmessageFrame.endOffset, ← hoff]
  · rw [List.flatMap_cons, List.append_assoc, ← hrest]; exact hs
  · rw [SubmessageFrame.records, hrec, List.cons_append, ← hoff]

/-- Every walk of the submessage walker is over a writer's submessages: either the offset lies
    past the end and there is no record, or the buffer is a prefix as long as the offset, encoded
    submessages (kind, flags, little-endian length, a body of that length) and the place where the
    walk stopped; the records are those submessages' and the one the stop may still make. With
    `parseSubmessages_encode`, the submessage layout and the walker are inverse to each other. -/
theorem parseSubmessages_decompose {data : Bytes} {offset : Nat} {subs : List Submessage}
    (h : parseSubmessages data offset = .ok subs) :
    (data.length < offset ∧ subs = []) ∨
      ∃ (pre : Bytes) (frames : List SubmessageFrame) (tail : Bytes) (last : List Submessage),
        pre.length = offset ∧ SubmessageStop (SubmessageFrame.endOffset offset frames) tail last ∧
        data = pre ++ frames.flatMap SubmessageFrame.encode ++ tail ∧
        subs = SubmessageFrame.records offset frames ++ last := by
  by_cases hlt : data.length < offset
  · rw [parseSubmessages_end (by omega)] at h
    exact .inl ⟨hlt, (Except.ok.inj h).symm⟩
  have hpre : (data.take offset).length = offset := by simp; omega
  rw [← List.take_append_drop offset data] at h
  conv at h => arg 1; arg 2; rw [← hpre]
  obtain ⟨frames, tail, last, hstop, hrest, hsubs⟩ := parseSubmessages_decompose_append _ _ h
  refine .inr ⟨data.take offset, frames, tail, last, hpre, hpre ▸ hstop, ?_, hpre ▸ hsubs⟩
  rw [List.append_assoc, ← hrest, List.take_append_drop]

/-- The lone DATA header that declares 65535 body bytes is a walk stopped by an overrun. -/
theorem parseSubmessages_decompose_overrun :
    parseSubmessages [0x15, 0x00, 0xff, 0xff] 0 = .ok [⟨0x15, 0x00, 65535, [], 0, none⟩] ∧
      (([0x15, 0x00, 0xff, 0xff] : Bytes).length < 0 ∧ [(⟨0x15, 0x00, 65535, [], 0, none⟩ : Submessage)] = [] ∨
        ∃ (pre : Bytes) (frames : List SubmessageFrame) (tail : Bytes) (last : List Submessage),
          pre.length = 0 ∧ SubmessageStop (SubmessageFrame.endOffset 0 frames) tail last ∧
          [0x15, 0x00, 0xff, 0xff] = pre ++ frames.flatMap SubmessageFrame.encode ++ tail ∧
          [(⟨0x15, 0x00, 65535, [], 0, none⟩ : Submessage)] = SubmessageFrame.records 0 frames ++ last) := by
  have h : parseSubmessages [0x15, 0x00, 0xff, 0xff] 0 = .ok [⟨0x15, 0x00, 65535, [], 0, none⟩] := by
    rw [parseSubmessages_next (by decide) (by decide), parseSubmessages_end (by decide)]
    rfl
  exact ⟨h, parseSubmessages_decompose h⟩

/-! ### The sequence number

RTPS writes a sequence number as two 32-bit halves, the high one first, each in the
submessage's byte order. The walker reads the eight bytes as one little-endian integer. -/

/-- A sequence number as a little-endian writer lays it out: the high 32 bits, then the low
    32 bits. -/
def encodeSequenceNumber (sn : Nat) : Bytes :=
  encodeUInt .little 4 (sn / 2 ^ 32) ++ encodeUInt .little 4 (sn % 2 ^ 32)

/-- The eight bytes of an RTPS sequence number, read as one little-endian integer. -/
theorem readUInt_encodeSequenceNumber {sn : Nat} (h : sn < 2 ^ 64) (r : Bytes) :
    readUInt .little (encodeSequenceNumber sn ++ r) 0 8 = sn / 2 ^ 32 + 2 ^ 32 * (sn % 2 ^ 32) := by
  rw [readUInt_append_of_length .little r (by simp [encodeSequenceNumber]), encodeSequenceNumber,
    decodeUInt, decodeLE_append]
  simp only [encodeUInt, decodeLE_encodeLE, length_encodeLE]
  omega

/-- The DATA fields read a sequence number laid out by RTPS after 12 bytes with its halves
    swapped. -/
theorem DataFields.ofBody_sequenceNumber {pre : Bytes} (hpre : pre.length = 12) {sn : Nat}
    (h : sn < 2 ^ 64) (rest : Bytes) :
    (DataFields.ofBody (pre ++ encodeSequenceNumber sn ++ rest)).sequenceNumber =
      sn / 2 ^ 32 + 2 ^ 32 * (sn % 2 ^ 32) := by
  show readUInt .little _ 12 8 = _
  rw [List.append_assoc, readUInt_append_of_le .little _ _ hpre.le, hpre, Nat.sub_self,
    readUInt_encodeSequenceNumber h]

/-- `parse_submessages` reads a sequence number laid out by RTPS with its two halves swapped:
    sequence number 1 reads as `2 ^ 32`. Both the DATA branch on such a body and every record the
    walker returns with such data and with DATA fields read it so. It reads as 0 exactly when it
    is 0, so the warning on sequence number 0 is the one RTPS asks for. -/
theorem parseSubmessages_sequenceNumber {pre : Bytes} (hpre : pre.length = 12) {sn : Nat}
    (h : sn < 2 ^ 64) (rest : Bytes) :
    (∃ df, parseDataFields (pre ++ encodeSequenceNumber sn ++ rest) = .ok df ∧
      df.sequenceNumber = sn / 2 ^ 32 + 2 ^ 32 * (sn % 2 ^ 32) ∧ (df.sequenceNumber = 0 ↔ sn = 0)) ∧
    ∀ (data : Bytes) (offset : Nat) (subs : List Submessage),
      parseSubmessages data offset = .ok subs → ∀ r ∈ subs,
        r.data = pre ++ encodeSequenceNumber sn ++ rest → ∀ df ∈ r.dataFields,
          df.sequenceNumber = sn / 2 ^ 32 + 2 ^ 32 * (sn % 2 ^ 32) ∧
            (df.sequenceNumber = 0 ↔ sn = 0) := by
  have hread := DataFields.ofBody_sequenceNumber hpre h rest
  have hzero : sn / 2 ^ 32 + 2 ^ 32 * (sn % 2 ^ 32) = 0 ↔ sn = 0 := by omega
  have hlen : 20 ≤ (pre ++ encodeSequenceNumber sn ++ rest).length := by
    simp [hpre, encodeSequenceNumber]; omega
  refine ⟨⟨_, parseDataFields_eq hlen, hread, hread ▸ hzero⟩, ?_⟩
  intro data offset subs hsubs r hr hdata df hdf
  rw [dataFields_of_mem hsubs hr hdf, hdata, hread]
  exact ⟨rfl, hzero⟩

/-- Sequence number 1, after 12 zero bytes, reads as `2 ^ 32`. -/
theorem parseSubmessages_sequenceNumber_one :
    (List.replicate 12 (0 : UInt8)).length = 12 ∧ 1 < 2 ^ 64 ∧
      ∃ df, parseDataFields (List.replicate 12 0 ++ encodeSequenceNumber 1 ++ []) = .ok df ∧
        df.sequenceNumber = 4294967296 := by
  obtain ⟨⟨df, hdf, hsn, -⟩, -⟩ := parseSubmessages_sequenceNumber
    (show (List.replicate 12 (0 : UInt8)).length = 12 from rfl) (show 1 < 2 ^ 64 by decide) []
  exact ⟨rfl, by decide, df, hdf, hsn⟩

/-! ### The DATA payload -/

/-- The body of a DATA submessage that carries inline QoS as RTPS lays it out: extra flags,
    `octetsToInlineQos = 16`, reader and writer ids, sequence number 1, an inline-QoS list that
    holds only `PID_SENTINEL`, then the serialized payload `00 03 00 00`. -/
def inlineQosBody : Bytes :=
  [0x00, 0x00, 0x10, 0x00] ++ [0x00, 0x00, 0x00, 0x00] ++ [0x00, 0x00, 0x03, 0xc2] ++
    [0x00, 0x00, 0x00, 0x00, 0x01, 0x00, 0x00, 0x00] ++ [0x01, 0x00, 0x00, 0x00] ++
    [0x00, 0x03, 0x00, 0x00]

/-- The payload the walker slices for that submessage (flags `0x03`, inline QoS present) starts
    at body offset 20, with the inline-QoS list still in front of the serialized payload. -/
theorem parseSubmessages_inlineQos_payload :
    (parseSubmessages ([0x15, 0x03, 0x1c, 0x00] ++ inlineQosBody) 0).map
        (·.map fun r => r.dataFields.map DataFields.payload) =
      .ok [some [0x01, 0x00, 0x00, 0x00, 0x00, 0x03, 0x00, 0x00]] := by
  rw [parseSubmessages_next (by decide) (by decide), parseSubmessages_end (by decide)]
  rfl

end ValidateSedp
