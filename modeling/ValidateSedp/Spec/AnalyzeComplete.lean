import ValidateSedp.Spec.AnalyzeCorrect

/-!
# Completeness: well-formed announcements pass

`AnalyzeSound` says what every report of `analyze_pcap` holds. This module goes the other way
for the traffic the tool is written for. A capture laid out by a pcap writer, each of whose
frames carries one RTPS message over UDP and IPv4, and whose DATA submessages are SEDP
announcements laid out by a DDS writer, with every required parameter and with topic and type
names that are CDR strings of non-empty texts, is read without an exception. Every frame counts
as an RTPS packet, nothing counts as SPDP, and every announcement is counted and reported once,
in capture order, with no issue and no warning.

## Key results

- `analyzeSubmessage_announcement`: one announcement adds its report, which has no issue and no
  warning.
- `analyzePacket_captured`: one frame counts as an RTPS packet and adds the reports of its
  announcements.
- `analyzePcap_announcements`: the whole capture.
-/

namespace ValidateSedp

/-! ### Names -/

/-- A topic or type name as a writer lays it out: the CDR string of a text that is neither empty
    nor the marker (the length of its UTF-8 bytes plus one, the bytes, a terminating zero), and
    any bytes after it. -/
structure CdrName where
  text : String
  trailing : Bytes
  text_ne_empty : text ≠ ""
  text_ne_marker : text ≠ decodeErrorMarker
  size_lt : text.utf8ByteSize + 1 < 2 ^ 32

/-- The value bytes of a name. -/
def CdrName.encode (n : CdrName) : Bytes :=
  encodeUInt .little 4 (n.text.utf8ByteSize + 1) ++ n.text.toUTF8.data.toList ++ [0] ++ n.trailing

/-- The validator does not reject a parameter whose decoded value is the text of a name. -/
theorem nameRejected_of_decoded {q : Parameter} {n : CdrName} (h : q.decoded = some n.text) :
    nameRejected q = false := by
  have hlen : n.text.length ≠ 0 := fun h0 =>
    n.text_ne_empty (String.ext (List.eq_nil_of_length_eq_zero h0))
  simp [nameRejected, h, hlen, n.text_ne_marker]

/-! ### Parameters of an encoded list -/

/-- The records of encoded parameters carry the parameters' ids, in order. -/
theorem ParamFrame.map_pid_records (offset : Nat) (ps : List ParamFrame) :
    (ParamFrame.records offset ps).map Parameter.pid = ps.map ParamFrame.pid := by
  induction ps generalizing offset with
  | nil => rfl
  | cons p ps ih => simp [ParamFrame.records, ih]

/-- Each record of encoded parameters is the record of one of them. -/
theorem ParamFrame.mem_records {offset : Nat} {ps : List ParamFrame} {q : Parameter}
    (hq : q ∈ ParamFrame.records offset ps) :
    ∃ p ∈ ps, q.pid = p.pid ∧ q.decoded = decodedOf p.pid p.value := by
  induction ps generalizing offset with
  | nil => simp [ParamFrame.records] at hq
  | cons p ps ih =>
    rcases List.mem_cons.1 hq with rfl | hq
    · exact ⟨p, List.mem_cons_self _ _, rfl, rfl⟩
    · obtain ⟨p', hp', h⟩ := ih hq
      exact ⟨p', List.mem_cons_of_mem _ hp', h⟩

/-- No required id is missing from parameters that carry them all. -/
theorem missingPidIssues_records {ps : List ParamFrame} (offset : Nat)
    (h : ∀ req ∈ requiredSedpWriterPids, req.1 ∈ ps.map ParamFrame.pid) :
    missingPidIssues requiredSedpWriterPids (ParamFrame.records offset ps) = [] := by
  rw [missingPidIssues_eq, ParamFrame.map_pid_records, List.map_eq_nil_iff, List.filter_eq_nil_iff]
  exact fun req hreq => by simpa using h req hreq

/-- No name is rejected among parameters whose names are all `CdrName`s. -/
theorem nameIssues_records {ps : List ParamFrame} (offset : Nat)
    (h : ∀ p ∈ ps, p.pid = 0x0003 ∨ p.pid = 0x0004 → ∃ n : CdrName, p.value = n.encode) :
    nameIssues (ParamFrame.records offset ps) = [] := by
  refine List.flatMap_eq_nil_iff.2 fun q hq => ?_
  obtain ⟨p, hp, hpid, hdec⟩ := ParamFrame.mem_records hq
  have hname : q.pid = 0x0003 ∨ q.pid = 0x0004 → nameRejected q = false := fun hq34 => by
    obtain ⟨n, hn⟩ := h p hp (hpid ▸ hq34)
    rw [hpid] at hq34
    refine nameRejected_of_decoded (show q.decoded = some n.text from ?_)
    rw [hdec, hn, decodedOf_name _ hq34, CdrName.encode,
      decodeCdrString_encode n.text n.trailing n.size_lt]
  by_cases h3 : q.pid = 0x0003
  · simp [nameIssue, h3, hname (.inl h3)]
  by_cases h4 : q.pid = 0x0004
  · simp [nameIssue, h4, hname (.inr h4)]
  simp [nameIssue, h3, h4]

/-! ### Announcements -/

/-- An SEDP announcement as a writer lays it out in a little-endian DATA submessage without
    inline QoS. The writer id is one the tool classifies as an SEDP endpoint, the sequence number
    is positive, the payload is an encapsulation header and a parameter list, every required id
    occurs in the list, and every topic or type name in it is a `CdrName`. -/
structure Announcement where
  flags : UInt8
  extraFlags : Nat
  readerId : Nat
  writerId : Nat
  sequenceNumber : Nat
  encapsulation : Bytes
  params : List ParamFrame
  fin : ParamListEnd
  extraFlags_lt : extraFlags < 2 ^ 16
  readerId_lt : readerId < 2 ^ 32
  writerId_sedp : classifyEntityId writerId = .SEDP_PUB ∨ classifyEntityId writerId = .SEDP_SUB
  sequenceNumber_pos : 0 < sequenceNumber
  sequenceNumber_lt : sequenceNumber < 2 ^ 64
  encapsulation_length : encapsulation.length = 4
  required : ∀ req ∈ requiredSedpWriterPids, req.1 ∈ params.map ParamFrame.pid
  names : ∀ p ∈ params, p.pid = 0x0003 ∨ p.pid = 0x0004 → ∃ n : CdrName, p.value = n.encode
  payload_lt : 20 + (encapsulation ++ params.flatMap ParamFrame.encode ++ fin.bytes).length < 2 ^ 16

/-- The serialized payload: the encapsulation header, the parameters, the end of the list. -/
def Announcement.payload (a : Announcement) : Bytes :=
  a.encapsulation ++ a.params.flatMap ParamFrame.encode ++ a.fin.bytes

/-- The DATA body: extra flags, `octetsToInlineQos = 16` (the payload follows the 16 bytes of
    ids and sequence number), the reader and writer ids, the sequence number, the payload. -/
def Announcement.body (a : Announcement) : Bytes :=
  encodeUInt .little 2 a.extraFlags ++ encodeUInt .little 2 16 ++ encodeUInt .big 4 a.readerId ++
    encodeUInt .big 4 a.writerId ++ encodeSequenceNumber a.sequenceNumber ++ a.payload

/-- The DATA body is 20 bytes of ids and sequence number, then the payload. -/
theorem Announcement.length_body (a : Announcement) : a.body.length = 20 + a.payload.length := by
  simp [Announcement.body, encodeSequenceNumber]; omega

/-- The DATA submessage of an announcement. -/
def Announcement.toFrame (a : Announcement) : SubmessageFrame :=
  ⟨rtpsSubmsgData, a.flags, a.body, by rw [a.length_body]; omega,
    by rw [a.length_body]; exact a.payload_lt⟩

/-- The DATA fields the walker reads from an announcement's body. -/
theorem Announcement.ofBody_body (a : Announcement) :
    DataFields.ofBody a.body =
      ⟨a.extraFlags, 16, a.readerId, a.writerId,
        a.sequenceNumber / 2 ^ 32 + 2 ^ 32 * (a.sequenceNumber % 2 ^ 32),
        classifyEntityId a.writerId, a.payload⟩ := by
  have hx : a.extraFlags < 256 ^ 2 := a.extraFlags_lt
  have hr : a.readerId < 256 ^ 4 := a.readerId_lt
  have hw : a.writerId < 256 ^ 4 := lt_of_classifyEntityId_ne_user (by
    rcases a.writerId_sedp with h | h <;> rw [h] <;> decide)
  have hdrop : a.body.drop 20 = a.payload := List.drop_left' (by simp [encodeSequenceNumber])
  simp only [DataFields.ofBody, hdrop]
  simp only [Announcement.body, List.append_assoc, readUInt_append_of_le, length_encodeUInt,
    Nat.reduceLeDiff, Nat.reduceSub, readUInt_append_encodeUInt _ _ hx,
    readUInt_append_encodeUInt _ _ hr, readUInt_append_encodeUInt _ _ hw,
    readUInt_append_encodeUInt _ _ (show 16 < 256 ^ 2 by decide),
    readUInt_encodeSequenceNumber a.sequenceNumber_lt, ge_iff_le, ↓reduceIte]

/-- The parameter list of an announcement decodes to the records of its parameters. -/
theorem Announcement.parseCdrParameterList_payload (a : Announcement) :
    parseCdrParameterList a.payload = .ok (ParamFrame.records 4 a.params) := by
  rw [parseCdrParameterList_of_le (by simp [Announcement.payload, a.encapsulation_length]),
    Announcement.payload, ← a.encapsulation_length]
  exact parseParameters_encode a.encapsulation a.params a.fin

/-! ### One announcement -/

/-- The report of announcement `a`, carried in packet `pkt` with datagram `udp` and RTPS header
    `rtps`: the values the tool prints, with no issue and no warning. -/
def Announcement.report (a : Announcement) (pkt : Packet) (udp : UdpDatagram)
    (rtps : RtpsHeader) : SedpReport :=
  ⟨pkt.num, classifyEntityId a.writerId, udp.srcIp, udp.srcPort, udp.dstIp, udp.dstPort, pkt.size,
    rtps.guidPrefix, a.writerId, a.readerId,
    a.sequenceNumber / 2 ^ 32 + 2 ^ 32 * (a.sequenceNumber % 2 ^ 32), ParamFrame.records 4 a.params,
    [], []⟩

/-- The analysis after announcements with reports `rs`: counted, and reported in order. -/
def Analysis.addReports (acc : Analysis) (rs : List SedpReport) : Analysis :=
  { acc with sedpCount := acc.sedpCount + rs.length, reports := acc.reports ++ rs }

/-- Reports leave the RTPS count as it is. -/
@[simp] theorem Analysis.addReports_rtpsCount (acc : Analysis) (rs : List SedpReport) :
    (acc.addReports rs).rtpsCount = acc.rtpsCount := rfl

/-- Reports leave the SPDP count as it is. -/
@[simp] theorem Analysis.addReports_spdpCount (acc : Analysis) (rs : List SedpReport) :
    (acc.addReports rs).spdpCount = acc.spdpCount := rfl

/-- Each report counts one SEDP announcement. -/
@[simp] theorem Analysis.addReports_sedpCount (acc : Analysis) (rs : List SedpReport) :
    (acc.addReports rs).sedpCount = acc.sedpCount + rs.length := rfl

/-- Reports are appended in order. -/
@[simp] theorem Analysis.addReports_reports (acc : Analysis) (rs : List SedpReport) :
    (acc.addReports rs).reports = acc.reports ++ rs := rfl

/-- No report changes nothing. -/
@[simp] theorem Analysis.addReports_nil (acc : Analysis) : acc.addReports [] = acc := by
  simp [Analysis.addReports]

/-- Adding reports in two steps is adding them all at once. -/
theorem Analysis.addReports_append (acc : Analysis) (rs rs' : List SedpReport) :
    (acc.addReports rs).addReports rs' = acc.addReports (rs ++ rs') := by
  simp [Analysis.addReports, Nat.add_assoc]

/-- An announcement's DATA submessage, wherever it sits, is counted and adds its report. -/
theorem analyzeSubmessage_announcement (pkt : Packet) (udp : UdpDatagram) (rtps : RtpsHeader)
    (acc : Analysis) (a : Announcement) (offset : Nat) :
    analyzeSubmessage pkt udp rtps acc
        (Submessage.ofBody a.toFrame.id a.toFrame.flags a.toFrame.body.length a.toFrame.body offset) =
      .ok (acc.addReports [a.report pkt udp rtps]) := by
  have hdf : (Submessage.ofBody rtpsSubmsgData a.flags a.body.length a.body offset).dataFields =
      some (DataFields.ofBody a.body) :=
    Submessage.ofBody_dataFields _ _ _ (by rw [a.length_body]; omega)
  have hrole : (DataFields.ofBody a.body).entityType = .SEDP_PUB ∨
      (DataFields.ofBody a.body).entityType = .SEDP_SUB := by
    rw [a.ofBody_body]; exact a.writerId_sedp
  have hseq : a.sequenceNumber / 2 ^ 32 + 2 ^ 32 * (a.sequenceNumber % 2 ^ 32) ≠ 0 := by
    have := a.sequenceNumber_pos; omega
  have hvalid : validateSedpPacket (Submessage.ofBody rtpsSubmsgData a.flags a.body.length a.body offset)
      (ParamFrame.records 4 a.params) = ([], []) := by
    rw [validateSedpPacket_of_sedp hdf hrole, missingPidIssues_records 4 a.required,
      nameIssues_records 4 a.names, a.ofBody_body, if_neg hseq]
    rfl
  have hspdp : classifyEntityId a.writerId ≠ .SPDP := by
    rcases a.writerId_sedp with h | h <;> rw [h] <;> decide
  simp only [analyzeSubmessage, Announcement.toFrame, Submessage.ofBody_id, ne_eq,
    not_true_eq_false, ↓reduceIte, hdf, a.ofBody_body, hspdp, a.writerId_sedp, if_true,
    a.parseCdrParameterList_payload, hvalid, pure_bind, Except.pure_eq_ok, Except.ok_bind]
  rfl

/-! ### One frame -/

/-- A submessage of a message that carries announcements: an announcement, or a submessage of
    another kind (`INFO_TS`, `INFO_DST`, `HEARTBEAT`, ...), which the tool passes over. -/
inductive MessagePart where
  | announcement (a : Announcement)
  | other (s : SubmessageFrame) (h : s.id ≠ rtpsSubmsgData)

/-- The submessage a part is written as. -/
def MessagePart.toFrame : MessagePart → SubmessageFrame
  | .announcement a => a.toFrame
  | .other s _ => s

/-- The announcements of a part. -/
def MessagePart.announcements : MessagePart → List Announcement
  | .announcement a => [a]
  | .other _ _ => []

/-- The submessage loop on a part's record: an announcement adds its report, a submessage of
    another kind leaves the analysis as it is. -/
theorem analyzeSubmessage_part (pkt : Packet) (udp : UdpDatagram) (rtps : RtpsHeader)
    (acc : Analysis) (m : MessagePart) (offset : Nat) :
    analyzeSubmessage pkt udp rtps acc (Submessage.ofBody m.toFrame.id m.toFrame.flags
        m.toFrame.body.length m.toFrame.body offset) =
      .ok (acc.addReports (m.announcements.map (·.report pkt udp rtps))) := by
  cases m with
  | announcement a => exact analyzeSubmessage_announcement pkt udp rtps acc a offset
  | other s h => simp [analyzeSubmessage, MessagePart.toFrame, MessagePart.announcements, h]

/-- The record of a tail leaves the analysis as it is: it has no DATA fields. -/
theorem foldlM_analyzeSubmessage_tail (pkt : Packet) (udp : UdpDatagram) (rtps : RtpsHeader)
    (acc : Analysis) (tail : SubmessageTail) (offset : Nat) :
    (tail.records offset).foldlM (analyzeSubmessage pkt udp rtps) acc = .ok acc := by
  cases tail with
  | short => rfl
  | terminal id flags more =>
    simp [SubmessageTail.records, analyzeSubmessage, Submessage.ofBody]

/-- The walk over an encoded message and the submessage loop over its records: each
    announcement adds its report, in order. -/
theorem foldlM_parseSubmessages_parts (pkt : Packet) (udp : UdpDatagram) (rtps : RtpsHeader)
    (pre : Bytes) (parts : List MessagePart) (tail : SubmessageTail) (acc : Analysis) :
    (parseSubmessages (pre ++ (parts.map MessagePart.toFrame).flatMap SubmessageFrame.encode ++
        tail.bytes) pre.length >>= fun subs => subs.foldlM (analyzeSubmessage pkt udp rtps) acc) =
      .ok (acc.addReports ((parts.flatMap MessagePart.announcements).map (·.report pkt udp rtps))) := by
  induction parts generalizing pre acc with
  | nil =>
    simp only [List.map_nil, List.flatMap_nil, List.append_nil, parseSubmessages_tail,
      Except.ok_bind, foldlM_analyzeSubmessage_tail, List.map_nil, Analysis.addReports_nil]
  | cons m parts ih =>
    rw [List.map_cons, List.flatMap_cons, ← List.append_assoc pre, List.append_assoc (pre ++ _),
      parseSubmessages_encode_cons, bind_map_left]
    simp only [List.foldlM_cons, analyzeSubmessage_part, Except.ok_bind]
    rw [← List.append_assoc, ih, Analysis.addReports_append, List.flatMap_cons, List.map_append]

/-- A frame of the capture: its pcap record fields, the front end's fields, the parts of its
    RTPS message, and what ends the message. -/
structure CapturedMessage where
  tsSec : UInt32
  tsUsec : UInt32
  origLen : UInt32
  frame : RtpsFrame
  parts : List MessagePart
  tail : SubmessageTail
  length_lt : (frame.encode ((parts.map MessagePart.toFrame).flatMap SubmessageFrame.encode ++
    tail.bytes)).length < 2 ^ 32

/-- The submessages of the message. -/
def CapturedMessage.submessages (c : CapturedMessage) : Bytes :=
  (c.parts.map MessagePart.toFrame).flatMap SubmessageFrame.encode ++ c.tail.bytes

/-- The pcap record of the frame. -/
def CapturedMessage.toPcapFrame (c : CapturedMessage) : PcapFrame :=
  ⟨c.tsSec, c.tsUsec, c.origLen, c.frame.encode c.submessages, c.length_lt⟩

/-- The announcements of the message, in order. -/
def CapturedMessage.announcements (c : CapturedMessage) : List Announcement :=
  c.parts.flatMap MessagePart.announcements

/-- The reports of the message's announcements when the frame is packet `num`. -/
def CapturedMessage.reports (c : CapturedMessage) (num : Nat) : List SedpReport :=
  c.announcements.map (·.report (c.toPcapFrame.toPacket num) (c.frame.udp c.submessages) c.frame.rtps)

/-- A frame counts as an RTPS packet and adds the reports of its announcements. -/
theorem analyzePacket_captured (acc : Analysis) (c : CapturedMessage) (num : Nat) :
    analyzePacket acc (c.toPcapFrame.toPacket num) =
      .ok ({ acc with rtpsCount := acc.rtpsCount + 1 }.addReports (c.reports num)) := by
  have hdata : (c.toPcapFrame.toPacket num).data = c.frame.encode c.submessages := rfl
  have hparts := foldlM_parseSubmessages_parts (c.toPcapFrame.toPacket num)
    (c.frame.udp c.submessages) c.frame.rtps c.frame.messageHeader c.parts c.tail
    { acc with rtpsCount := acc.rtpsCount + 1 }
  rw [c.frame.length_messageHeader, List.append_assoc] at hparts
  simp only [analyzePacket, hdata, decapsulate_encode, Except.ok_bind]
  exact hparts

/-! ### The capture -/

/-- The packet loop over captured frames numbered from `n`: each frame counts as an RTPS packet
    and adds the reports of its announcements. -/
theorem foldlM_analyzePacket_captured (msgs : List CapturedMessage) (n : Nat) (acc : Analysis) :
    (((msgs.map CapturedMessage.toPcapFrame).enumFrom n).map fun p => p.2.toPacket p.1).foldlM
        analyzePacket acc =
      .ok ({ acc with rtpsCount := acc.rtpsCount + msgs.length }.addReports
        ((msgs.enumFrom n).flatMap fun p => p.2.reports p.1)) := by
  induction msgs generalizing n acc with
  | nil => simp
  | cons c msgs ih =>
    simp only [List.map_cons, List.enumFrom_cons, List.foldlM_cons, analyzePacket_captured,
      Except.ok_bind, ih, List.flatMap_cons]
    simp [Analysis.addReports, Nat.add_assoc, Nat.add_comm 1]

/-- The reports of captured frames come one per announcement, in order. -/
theorem map_writerId_reports (msgs : List CapturedMessage) (n : Nat) :
    ((msgs.enumFrom n).flatMap fun p => p.2.reports p.1).map SedpReport.writerId =
      (msgs.flatMap CapturedMessage.announcements).map Announcement.writerId := by
  induction msgs generalizing n with
  | nil => rfl
  | cons c msgs ih =>
    rw [List.enumFrom_cons, List.flatMap_cons, List.map_append, ih, List.flatMap_cons,
      List.map_append, CapturedMessage.reports, List.map_map]
    rfl

/-- Every report of a captured frame has no issue and no warning. -/
theorem issues_of_mem_reports {msgs : List CapturedMessage} {n : Nat} {r : SedpReport}
    (h : r ∈ (msgs.enumFrom n).flatMap fun p => p.2.reports p.1) : r.issues = [] ∧ r.warnings = [] := by
  simp only [List.mem_flatMap, CapturedMessage.reports, List.mem_map] at h
  obtain ⟨-, -, a, -, rfl⟩ := h
  exact ⟨rfl, rfl⟩

/-- A capture written in either byte order, each of whose frames carries one RTPS message of
    SEDP announcements and other submessages, is read without an exception, whatever incomplete
    record ends it. Every frame counts as an RTPS packet, nothing counts as SPDP, and the
    announcements are counted and reported one each, in capture order, with no issue and no
    warning. -/
theorem analyzePcap_announcements (e : Endian) {global tail : Bytes} (msgs : List CapturedMessage)
    (hglobal : global.length = 20) (htail : PcapTail e tail) :
    ∃ rep, analyzePcap (pcapMagic e ++ global ++
        (msgs.map CapturedMessage.toPcapFrame).flatMap (PcapFrame.encode e) ++ tail) = .ok rep ∧
      rep.totalPackets = msgs.length ∧ rep.analysis.rtpsCount = msgs.length ∧
      rep.analysis.spdpCount = 0 ∧
      rep.analysis.sedpCount = (msgs.flatMap CapturedMessage.announcements).length ∧
      rep.analysis.reports.map SedpReport.writerId =
        (msgs.flatMap CapturedMessage.announcements).map Announcement.writerId ∧
      ∀ r ∈ rep.analysis.reports, r.issues = [] ∧ r.warnings = [] := by
  obtain ⟨read, hread⟩ :=
    readPackets_ok e 0 ((msgs.map CapturedMessage.toPcapFrame).flatMap (PcapFrame.encode e) ++ tail)
  have hpackets := readPackets_flatMap_encode e 0 (msgs.map CapturedMessage.toPcapFrame) htail
  rw [hread] at hpackets
  have hfile : readPcap (pcapMagic e ++ global ++
      (msgs.map CapturedMessage.toPcapFrame).flatMap (PcapFrame.encode e) ++ tail) = .ok read := by
    rw [List.append_assoc _ _ tail, readPcap_pcapMagic e hglobal, hread]
  rw [analyzePcap_of_readPcap hfile, (Except.ok.inj hpackets : read.packets = _),
    foldlM_analyzePacket_captured]
  have hw := map_writerId_reports msgs 1
  refine ⟨_, rfl, by simp, by simp [Analysis.empty], rfl, ?_, ?_, fun r hr => ?_⟩
  · simpa [Analysis.empty] using congrArg List.length hw
  · simpa [Analysis.empty] using hw
  · exact issues_of_mem_reports (by simpa [Analysis.empty] using hr)

/-! ### The one-packet capture

An SEDP publication announcement in a capture of one frame: writer `0x000003C2`, sequence
number 1, and the five required parameters, with topic `TempSensor` and type `Temperature`. -/

/-- The topic name `TempSensor`. -/
def tempSensorName : CdrName := ⟨"TempSensor", [], by decide, by decide, by decide⟩

/-- The type name `Temperature`. -/
def temperatureName : CdrName := ⟨"Temperature", [], by decide, by decide, by decide⟩

/-- The five required parameters: endpoint GUID, topic name, type name, reliability (reliable,
    with a zero blocking time), durability (transient local). -/
def sedpPubParams : List ParamFrame :=
  [⟨0x005A, List.replicate 16 0x01, [], by decide, by decide, by decide, by decide⟩,
   ⟨0x0003, tempSensorName.encode, [0], by decide, by decide, by decide, by decide⟩,
   ⟨0x0004, temperatureName.encode, [], by decide, by decide, by decide, by decide⟩,
   ⟨0x001A, [2, 0, 0, 0] ++ List.replicate 8 0, [], by decide, by decide, by decide, by decide⟩,
   ⟨0x001D, [1, 0, 0, 0], [], by decide, by decide, by decide, by decide⟩]

/-- The announcement, from the SEDP publications writer to the publications reader. -/
def sedpPubAnnouncement : Announcement where
  flags := 0x05
  extraFlags := 0
  readerId := 0x000003C7
  writerId := 0x000003C2
  sequenceNumber := 1
  encapsulation := [0x00, 0x03, 0x00, 0x00]
  params := sedpPubParams
  fin := .sentinel 0 0 []
  extraFlags_lt := by decide
  readerId_lt := by decide
  writerId_sedp := .inl (by decide)
  sequenceNumber_pos := by decide
  sequenceNumber_lt := by decide
  encapsulation_length := rfl
  required := by decide
  names := by
    simp only [sedpPubParams, List.mem_cons, List.mem_singleton, List.not_mem_nil, or_false]
    rintro p (rfl | rfl | rfl | rfl | rfl) hp
    · exact absurd hp (by decide)
    · exact ⟨tempSensorName, rfl⟩
    · exact ⟨temperatureName, rfl⟩
    · exact absurd hp (by decide)
    · exact absurd hp (by decide)
  payload_lt := by decide

/-- The frame, from `192.168.1.10:7410` to the SPDP/SEDP multicast group on port 7400. -/
def sedpPubFrame : RtpsFrame where
  macs := List.replicate 12 0
  ipFields := List.replicate 8 0
  ipChecksum := [0, 0]
  srcIp := [192, 168, 1, 10]
  dstIp := [239, 255, 0, 1]
  srcPort := 7410
  dstPort := 7400
  udpFields := List.replicate 4 0
  major := 2
  minor := 3
  vendorId := 0x01AA
  guidPrefix := List.replicate 12 0x01
  macs_length := rfl
  ipFields_length := rfl
  ipChecksum_length := rfl
  srcIp_length := rfl
  dstIp_length := rfl
  srcPort_lt := by decide
  dstPort_lt := by decide
  udpFields_length := rfl
  vendorId_lt := by decide
  guidPrefix_length := rfl

/-- The captured frame: one RTPS message holding the announcement and nothing after it. -/
def sedpPubCapture : CapturedMessage where
  tsSec := 1
  tsUsec := 0
  origLen := 0
  frame := sedpPubFrame
  parts := [.announcement sedpPubAnnouncement]
  tail := .short [] (by decide)
  length_lt := by
    have := sedpPubAnnouncement.toFrame.body_lt
    simp only [RtpsFrame.length_encode, List.map_cons, List.map_nil, List.flatMap_cons,
      List.flatMap_nil, MessagePart.toFrame, SubmessageFrame.encode, List.length_append,
      List.length_cons, List.length_nil, length_encodeUInt, SubmessageTail.bytes]
    omega

/-- The spec's end-to-end scenario: the one-packet capture gives one RTPS packet, no SPDP
    announcement, one SEDP announcement, and a report with no issue and no warning. -/
theorem analyzePcap_announcements_sedpPub :
    (List.replicate 20 (0 : UInt8)).length = 20 ∧ PcapTail .little [] ∧
      ∃ rep, analyzePcap (pcapMagic .little ++ List.replicate 20 0 ++
          ([sedpPubCapture].map CapturedMessage.toPcapFrame).flatMap (PcapFrame.encode .little) ++
            []) = .ok rep ∧
        rep.totalPackets = 1 ∧ rep.analysis.rtpsCount = 1 ∧ rep.analysis.spdpCount = 0 ∧
        rep.analysis.sedpCount = 1 ∧ rep.analysis.reports.map SedpReport.writerId = [0x000003C2] ∧
        ∀ r ∈ rep.analysis.reports, r.issues = [] ∧ r.warnings = [] := by
  obtain ⟨rep, h, h1, h2, h3, h4, h5, h6⟩ :=
    analyzePcap_announcements .little [sedpPubCapture]
      (show (List.replicate 20 (0 : UInt8)).length = 20 from rfl)
      (show PcapTail .little [] from .short (by decide))
  exact ⟨rfl, .short (by decide), rep, h, h1, h2, h3, h4, h5, h6⟩

/-! ### A capture of two frames and a cut record

The one-packet capture's frame twice, as packets 1 and 2, and then `cutRecord`, the header of a
third record whose frame the file does not hold. -/

/-- The capture: `sedpPubCapture`'s frame twice, then `cutRecord`. -/
def sedpCapture : Bytes :=
  pcapMagic .little ++ List.replicate 20 0 ++
    ([sedpPubCapture, sedpPubCapture].map CapturedMessage.toPcapFrame).flatMap
      (PcapFrame.encode .little) ++ cutRecord

/-- What the tool reports on it: two packets, record 3 truncated, two RTPS packets, no SPDP
    announcement, and the announcement counted and reported once per packet. -/
def sedpCaptureReport : Report :=
  ⟨2, some 3, ⟨2, 0, 2, sedpPubCapture.reports 1 ++ sedpPubCapture.reports 2⟩⟩

/-- The tool's report on `sedpCapture`. -/
theorem analyzePcap_sedpCapture : analyzePcap sedpCapture = .ok sedpCaptureReport := by
  rw [sedpCapture, analyzePcap_of_readPcap (readPcap_cutRecord _), foldlM_analyzePacket_captured]
  rfl

end ValidateSedp
