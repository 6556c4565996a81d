import ValidateSedp.Spec.AnalyzeSound

/-!
# `analyze_pcap`, packet by packet

The source folds every packet, and inside a packet every submessage, into one running
`Analysis`. What a step adds never depends on the accumulator: the counters only grow and the
reports are only appended. So a step is a merge (`Analysis.merge`) with what it makes of the
empty analysis, and the run is the in-order merge of what each packet yields on its own. A
reimplementation may analyse the packets independently, in any order or in parallel, and merge
their results in capture order.

## Key results

- `analyzePcap_packetwise`: a run's analysis is `Analysis.concat` of the packets' own analyses
  `packetAnalysis`, in capture order.
- `analyzePcap_summary`: the summary's three counters are the number of packets the front end
  accepts, and the numbers of SPDP and of SEDP DATA submessages in them.
-/

namespace ValidateSedp

/-! ### Merging analyses -/

/-- Two analyses one after the other: the counters add up and the reports are concatenated. -/
def Analysis.merge (a b : Analysis) : Analysis :=
  ⟨a.rtpsCount + b.rtpsCount, a.spdpCount + b.spdpCount, a.sedpCount + b.sedpCount,
    a.reports ++ b.reports⟩

/-- The analyses of a list of parts, merged in order. -/
def Analysis.concat (as : List Analysis) : Analysis := as.foldr merge empty

/-- Merged RTPS counts add up. -/
@[simp] theorem Analysis.merge_rtpsCount (a b : Analysis) :
    (a.merge b).rtpsCount = a.rtpsCount + b.rtpsCount := rfl

/-- Merged SPDP counts add up. -/
@[simp] theorem Analysis.merge_spdpCount (a b : Analysis) :
    (a.merge b).spdpCount = a.spdpCount + b.spdpCount := rfl

/-- Merged SEDP counts add up. -/
@[simp] theorem Analysis.merge_sedpCount (a b : Analysis) :
    (a.merge b).sedpCount = a.sedpCount + b.sedpCount := rfl

/-- Merged reports are concatenated, the first analysis's first. -/
@[simp] theorem Analysis.merge_reports (a b : Analysis) :
    (a.merge b).reports = a.reports ++ b.reports := rfl

/-- No part: the empty analysis. -/
@[simp] theorem Analysis.concat_nil : concat [] = empty := rfl

/-- The first part, then the rest. -/
@[simp] theorem Analysis.concat_cons (a : Analysis) (as : List Analysis) :
    concat (a :: as) = a.merge (concat as) := rfl

/-- The empty analysis is a right unit of `merge`. -/
@[simp] theorem Analysis.merge_empty (a : Analysis) : a.merge empty = a := by
  cases a; simp [merge, empty]

/-- The empty analysis is a left unit of `merge`. -/
@[simp] theorem Analysis.empty_merge (a : Analysis) : empty.merge a = a := by
  cases a; simp [merge, empty]

/-- `merge` is associative, so the parts may be grouped in any way. -/
theorem Analysis.merge_assoc (a b c : Analysis) : (a.merge b).merge c = a.merge (b.merge c) := by
  simp only [merge, Nat.add_assoc, List.append_assoc]

/-- The parts of two lists, merged: the merge of each list's. -/
theorem Analysis.concat_append (as bs : List Analysis) :
    concat (as ++ bs) = (concat as).merge (concat bs) := by
  induction as with
  | nil => simp
  | cons a as ih => simp only [List.cons_append, concat_cons, ih, merge_assoc]

/-- Merging the parts' analyses into `acc` one at a time is merging their concatenation. -/
theorem Analysis.foldl_merge {α : Type} (c : α → Analysis) (l : List α) (acc : Analysis) :
    l.foldl (fun b a => b.merge (c a)) acc = acc.merge (concat (l.map c)) := by
  induction l generalizing acc with
  | nil => simp
  | cons a l ih => simp only [List.foldl_cons, ih, List.map_cons, concat_cons, merge_assoc]

/-! ### One submessage -/

/-- What the submessage loop's body makes of one submessage on its own, from the empty analysis
    (the body never raises, `analyzeSubmessage_ok`). -/
def submessageAnalysis (pkt : Packet) (udp : UdpDatagram) (rtps : RtpsHeader)
    (submsg : Submessage) : Analysis :=
  match analyzeSubmessage pkt udp rtps Analysis.empty submsg with
  | .ok a => a
  | .error _ => Analysis.empty

/-- The body adds to any analysis what it adds to the empty one: none of its tests reads the
    accumulator. -/
theorem analyzeSubmessage_merge (pkt : Packet) (udp : UdpDatagram) (rtps : RtpsHeader)
    (acc : Analysis) (submsg : Submessage) :
    analyzeSubmessage pkt udp rtps acc submsg =
      (acc.merge ·) <$> analyzeSubmessage pkt udp rtps Analysis.empty submsg := by
  unfold analyzeSubmessage
  by_cases hid : submsg.id ≠ rtpsSubmsgData
  · simp [hid]
  rw [if_neg hid, if_neg hid]
  cases submsg.dataFields with
  | none => simp
  | some df =>
    obtain ⟨ps, hps⟩ := parseCdrParameterList_ok df.payload
    simp only [hps]
    split_ifs <;> cases acc <;> simp [Analysis.merge, Analysis.empty]

/-- The body merges the submessage's own analysis into any accumulator. -/
theorem analyzeSubmessage_eq_merge (pkt : Packet) (udp : UdpDatagram) (rtps : RtpsHeader)
    (acc : Analysis) (submsg : Submessage) :
    analyzeSubmessage pkt udp rtps acc submsg =
      .ok (acc.merge (submessageAnalysis pkt udp rtps submsg)) := by
  obtain ⟨a, ha⟩ := analyzeSubmessage_ok pkt udp rtps Analysis.empty submsg
  rw [analyzeSubmessage_merge, ha, submessageAnalysis, ha]
  rfl

/-- The role the loop reads off a submessage: the `entity_type` key of a DATA submessage whose
    fields were read, and `none` for any other. -/
def dataRole (submsg : Submessage) : Option EntityType :=
  if submsg.id = rtpsSubmsgData then submsg.dataFields.map DataFields.entityType else none

/-- A DATA submessage classified `SPDP`. -/
def isSpdpData (submsg : Submessage) : Bool := dataRole submsg = some .SPDP

/-- A DATA submessage classified `SEDP_PUB` or `SEDP_SUB`. -/
def isSedpData (submsg : Submessage) : Bool :=
  dataRole submsg = some .SEDP_PUB ∨ dataRole submsg = some .SEDP_SUB

/-- One submessage counts itself as SPDP or as SEDP by its role, and no RTPS packet. -/
theorem submessageAnalysis_counts (pkt : Packet) (udp : UdpDatagram) (rtps : RtpsHeader)
    (submsg : Submessage) :
    (submessageAnalysis pkt udp rtps submsg).rtpsCount = 0 ∧
      (submessageAnalysis pkt udp rtps submsg).spdpCount = (if isSpdpData submsg then 1 else 0) ∧
      (submessageAnalysis pkt udp rtps submsg).sedpCount =
        (if isSedpData submsg then 1 else 0) := by
  unfold submessageAnalysis analyzeSubmessage
  by_cases hid : submsg.id = rtpsSubmsgData
  swap
  · simp [hid, isSpdpData, isSedpData, dataRole, Analysis.empty]
  cases hdf : submsg.dataFields with
  | none => simp [hid, hdf, isSpdpData, isSedpData, dataRole, Analysis.empty]
  | some df =>
    obtain ⟨ps, hps⟩ := parseCdrParameterList_ok df.payload
    cases hr : df.entityType <;>
      simp [hid, hdf, hr, hps, isSpdpData, isSedpData, dataRole, Analysis.empty]

/-- The submessages of a packet count no RTPS packet, and their SPDP and SEDP DATA submessages. -/
theorem concat_submessageAnalysis_counts (pkt : Packet) (udp : UdpDatagram) (rtps : RtpsHeader)
    (subs : List Submessage) :
    (Analysis.concat (subs.map (submessageAnalysis pkt udp rtps))).rtpsCount = 0 ∧
      (Analysis.concat (subs.map (submessageAnalysis pkt udp rtps))).spdpCount =
        subs.countP isSpdpData ∧
      (Analysis.concat (subs.map (submessageAnalysis pkt udp rtps))).sedpCount =
        subs.countP isSedpData := by
  induction subs with
  | nil => exact ⟨rfl, rfl, rfl⟩
  | cons s subs ih =>
    obtain ⟨h1, h2, h3⟩ := submessageAnalysis_counts pkt udp rtps s
    simp only [List.map_cons, Analysis.concat_cons, Analysis.merge_rtpsCount,
      Analysis.merge_spdpCount, Analysis.merge_sedpCount, List.countP_cons, h1, h2, h3, ih,
      true_and]
    omega

/-! ### One packet -/

/-- The submessages the loop walks in a packet: none when the front end skips the packet. -/
def packetSubmessages (pkt : Packet) : List Submessage :=
  if FrontEndOk pkt.data then
    match parseSubmessages (frontEndFields pkt.data).1.payload
        (frontEndFields pkt.data).2.submessagesOffset with
    | .ok subs => subs
    | .error _ => []
  else []

/-- What one packet yields on its own: nothing when the front end skips it; otherwise one RTPS
    packet, then what each of its submessages yields, in order. -/
def packetAnalysis (pkt : Packet) : Analysis :=
  if FrontEndOk pkt.data then
    (Analysis.mk 1 0 0 []).merge (Analysis.concat ((packetSubmessages pkt).map
      (submessageAnalysis pkt (frontEndFields pkt.data).1 (frontEndFields pkt.data).2)))
  else Analysis.empty

/-- The packet loop's body merges the packet's own analysis into any accumulator. -/
theorem analyzePacket_eq_merge (acc : Analysis) (pkt : Packet) :
    analyzePacket acc pkt = .ok (acc.merge (packetAnalysis pkt)) := by
  unfold analyzePacket
  rw [decapsulate_eq]
  by_cases hok : FrontEndOk pkt.data
  · rw [if_pos hok, Except.ok_bind]
    obtain ⟨subs, hs⟩ := parseSubmessages_ok (frontEndFields pkt.data).1.payload
      (frontEndFields pkt.data).2.submessagesOffset
    simp only [hs, Except.ok_bind]
    rw [List.foldlM_except_ok_foldl (analyzeSubmessage_eq_merge _ _ _), Analysis.foldl_merge]
    simp only [packetAnalysis, packetSubmessages, if_pos hok, hs]
    cases acc
    simp only [Analysis.merge, Nat.zero_add, List.nil_append, Nat.add_assoc]
  · rw [if_neg hok, Except.ok_bind, packetAnalysis, if_neg hok, Analysis.merge_empty]
    rfl

/-- A packet counts one RTPS packet when the front end accepts it, and its SPDP and SEDP DATA
    submessages. -/
theorem packetAnalysis_counts (pkt : Packet) :
    (packetAnalysis pkt).rtpsCount = (if FrontEndOk pkt.data then 1 else 0) ∧
      (packetAnalysis pkt).spdpCount = (packetSubmessages pkt).countP isSpdpData ∧
      (packetAnalysis pkt).sedpCount = (packetSubmessages pkt).countP isSedpData := by
  by_cases hok : FrontEndOk pkt.data
  · obtain ⟨h1, h2, h3⟩ := concat_submessageAnalysis_counts pkt (frontEndFields pkt.data).1
      (frontEndFields pkt.data).2 (packetSubmessages pkt)
    simp only [packetAnalysis, if_pos hok, Analysis.merge_rtpsCount, Analysis.merge_spdpCount,
      Analysis.merge_sedpCount, h1, h2, h3, Nat.zero_add, and_self]
  · simp [packetAnalysis, packetSubmessages, hok, Analysis.empty]

/-! ### The run -/

/-- The packet loop merges the packets' own analyses into the accumulator, in order. -/
theorem foldlM_analyzePacket_eq (pkts : List Packet) (acc : Analysis) :
    pkts.foldlM analyzePacket acc =
      .ok (acc.merge (Analysis.concat (pkts.map packetAnalysis))) := by
  rw [List.foldlM_except_ok_foldl analyzePacket_eq_merge, Analysis.foldl_merge]

/-- Every run that returns is the in-order merge of the analyses of its packets, each made on
    its own. -/
theorem analyzePcap_packetwise {file : Bytes} {rep : Report} (h : analyzePcap file = .ok rep) :
    ∃ read, readPcap file = .ok read ∧ rep.totalPackets = read.packets.length ∧
      rep.truncated = read.truncated ∧
      rep.analysis = Analysis.concat (read.packets.map packetAnalysis) := by
  cases hr : readPcap file with
  | error err => simp [analyzePcap, hr] at h
  | ok read =>
    rw [analyzePcap_of_readPcap hr, foldlM_analyzePacket_eq] at h
    cases Except.ok.inj h
    exact ⟨read, rfl, rfl, rfl, Analysis.empty_merge _⟩

/-- The two-frame capture's analysis is the merge of its two packets' own analyses. -/
theorem analyzePcap_packetwise_sedpCapture :
    analyzePcap sedpCapture = .ok sedpCaptureReport ∧
      ∃ read, readPcap sedpCapture = .ok read ∧ sedpCaptureReport.totalPackets = read.packets.length ∧
        sedpCaptureReport.truncated = read.truncated ∧
        sedpCaptureReport.analysis = Analysis.concat (read.packets.map packetAnalysis) :=
  ⟨analyzePcap_sedpCapture, analyzePcap_packetwise analyzePcap_sedpCapture⟩

/-- Packets count those the front end accepts, and the SPDP and SEDP DATA submessages in them. -/
theorem concat_packetAnalysis_counts (pkts : List Packet) :
    (Analysis.concat (pkts.map packetAnalysis)).rtpsCount =
        pkts.countP (fun pkt => FrontEndOk pkt.data) ∧
      (Analysis.concat (pkts.map packetAnalysis)).spdpCount =
        (pkts.flatMap packetSubmessages).countP isSpdpData ∧
      (Analysis.concat (pkts.map packetAnalysis)).sedpCount =
        (pkts.flatMap packetSubmessages).countP isSedpData := by
  induction pkts with
  | nil => exact ⟨rfl, rfl, rfl⟩
  | cons p ps ih =>
    obtain ⟨h1, h2, h3⟩ := packetAnalysis_counts p
    simp only [List.map_cons, Analysis.concat_cons, Analysis.merge_rtpsCount,
      Analysis.merge_spdpCount, Analysis.merge_sedpCount, List.countP_cons, List.flatMap_cons,
      List.countP_append, h1, h2, h3, ih, decide_eq_true_eq, and_true]
    omega

/-- The summary of every run that returns: the RTPS count is the number of packets the front end
    accepts, the SPDP count the number of DATA submessages classified SPDP in them, and the SEDP
    count the number of those classified SEDP_PUB or SEDP_SUB. -/
theorem analyzePcap_summary {file : Bytes} {rep : Report} (h : analyzePcap file = .ok rep) :
    ∃ read, readPcap file = .ok read ∧ rep.totalPackets = read.packets.length ∧
      rep.analysis.rtpsCount = read.packets.countP (fun pkt => FrontEndOk pkt.data) ∧
      rep.analysis.spdpCount = (read.packets.flatMap packetSubmessages).countP isSpdpData ∧
      rep.analysis.sedpCount = (read.packets.flatMap packetSubmessages).countP isSedpData := by
  cases hr : readPcap file with
  | error err => simp [analyzePcap, hr] at h
  | ok read =>
    rw [analyzePcap_of_readPcap hr, foldlM_analyzePacket_eq] at h
    cases Except.ok.inj h
    exact ⟨read, rfl, rfl, by rw [Analysis.empty_merge]; exact concat_packetAnalysis_counts _⟩

/-- The two-frame capture's summary: two accepted packets, no SPDP and two SEDP DATA
    submessages in them. -/
theorem analyzePcap_summary_sedpCapture :
    analyzePcap sedpCapture = .ok sedpCaptureReport ∧
      ∃ read, readPcap sedpCapture = .ok read ∧ 2 = read.packets.length ∧
        2 = read.packets.countP (fun pkt => FrontEndOk pkt.data) ∧
        0 = (read.packets.flatMap packetSubmessages).countP isSpdpData ∧
        2 = (read.packets.flatMap packetSubmessages).countP isSedpData :=
  ⟨analyzePcap_sedpCapture, analyzePcap_summary analyzePcap_sedpCapture⟩

end ValidateSedp
