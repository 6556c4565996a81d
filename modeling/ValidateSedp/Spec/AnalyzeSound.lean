import ValidateSedp.Spec.AnalyzeComplete

/-!
# `analyze_pcap` soundness

What every run that returns holds, whatever the capture. `analyzeSubmessage_cases` says what one
submessage can do to the analysis; the run invariant `Analysis.Sound` follows from it, one
submessage and one packet at a time, and so does the order of the reports (`ReportsBefore`).
Split from `AnalyzeCorrect`, and placed after `AnalyzeComplete` so that each result is shown on
the capture of two SEDP frames built there.

## Key results

- `analyzePcap_sound`: the summary counts the packets the front end accepts, and every SEDP report
  belongs to an accepted packet and carries the verdict `sedpIssues` of its parameters.
- `analyzePcap_reports_sorted`: the reports come in packet order.
-/

namespace ValidateSedp

/-! ### The run invariant -/

/-- What one submessage does to the analysis: nothing, count an SPDP announcement, or count an
    SEDP announcement and report it with its decoded parameters and its verdict. -/
theorem analyzeSubmessage_cases {pkt : Packet} {udp : UdpDatagram} {rtps : RtpsHeader}
    {acc acc' : Analysis} {submsg : Submessage}
    (h : analyzeSubmessage pkt udp rtps acc submsg = .ok acc') :
    acc' = acc ∨ acc' = { acc with spdpCount := acc.spdpCount + 1 } ∨
      ∃ df params, submsg.dataFields = some df ∧
        (df.entityType = .SEDP_PUB ∨ df.entityType = .SEDP_SUB) ∧
        parseCdrParameterList df.payload = .ok params ∧
        acc' = { acc with
          sedpCount := acc.sedpCount + 1
          reports := acc.reports ++ [⟨pkt.num, df.entityType, udp.srcIp, udp.srcPort, udp.dstIp,
            udp.dstPort, pkt.size, rtps.guidPrefix, df.writerId, df.readerId, df.sequenceNumber,
            params, (validateSedpPacket submsg params).1, (validateSedpPacket submsg params).2⟩] } := by
  unfold analyzeSubmessage at h
  split_ifs at h
  · exact .inl (Except.ok.inj h).symm
  cases hdf : submsg.dataFields with
  | none => rw [hdf] at h; exact .inl (Except.ok.inj h).symm
  | some df =>
    rw [hdf] at h
    simp only at h
    split_ifs at h with hspdp hsedp
    · exact .inr (.inl (Except.ok.inj h).symm)
    · obtain ⟨ps, hps⟩ := parseCdrParameterList_ok df.payload
      rw [hps] at h
      exact .inr (.inr ⟨df, ps, rfl, hsedp, hps, (Except.ok.inj h).symm⟩)
    · exact .inl (Except.ok.inj h).symm

/-- A report the tool can print after packets `pkts`: it belongs to a packet the front end
    accepts, whose number and size it shows; its role is an SEDP one; its issues are
    `sedpIssues` of its parameters; and it warns exactly on sequence number 0. -/
structure ReportOk (pkts : List Packet) (rpt : SedpReport) : Prop where
  packet : ∃ pkt ∈ pkts, FrontEndOk pkt.data ∧ rpt.num = pkt.num ∧ rpt.size = pkt.size
  role : rpt.entityType = .SEDP_PUB ∨ rpt.entityType = .SEDP_SUB
  issues : rpt.issues = sedpIssues nameAccepted rpt.params
  warnings : rpt.warnings = if rpt.sequenceNumber = 0 then [seqZeroWarning] else []

/-- A report stays sound when more packets follow. -/
theorem ReportOk.append {pkts : List Packet} {rpt : SedpReport} (h : ReportOk pkts rpt)
    (more : List Packet) : ReportOk (pkts ++ more) rpt :=
  ⟨let ⟨pkt, hpkt, hrest⟩ := h.packet; ⟨pkt, List.mem_append_left _ hpkt, hrest⟩,
    h.role, h.issues, h.warnings⟩

/-- The analysis after packets `pkts`: it counted the packets the front end accepts, and one SEDP
    announcement per report, each a `ReportOk`. -/
structure Analysis.Sound (pkts : List Packet) (a : Analysis) : Prop where
  rtpsCount_eq : a.rtpsCount = pkts.countP fun pkt => FrontEndOk pkt.data
  sedpCount_eq : a.sedpCount = a.reports.length
  reports_ok : ∀ rpt ∈ a.reports, ReportOk pkts rpt

/-- Nothing is analysed before the first packet. -/
theorem Analysis.sound_empty : Analysis.Sound [] Analysis.empty := ⟨rfl, rfl, by simp [empty]⟩

/-- One submessage of an accepted packet keeps the invariant. -/
theorem analyzeSubmessage_sound {pkts : List Packet} {pkt : Packet} (hpkt : pkt ∈ pkts)
    (hok : FrontEndOk pkt.data) {data : Bytes} {offset : Nat} {subs : List Submessage}
    (hsubs : parseSubmessages data offset = .ok subs) {submsg : Submessage} (hsub : submsg ∈ subs)
    {udp : UdpDatagram} {rtps : RtpsHeader} {acc acc' : Analysis} (hacc : Analysis.Sound pkts acc)
    (h : analyzeSubmessage pkt udp rtps acc submsg = .ok acc') : Analysis.Sound pkts acc' := by
  rcases analyzeSubmessage_cases h with rfl | rfl | ⟨df, params, hdf, hrole, hparams, rfl⟩
  · exact hacc
  · exact ⟨hacc.rtpsCount_eq, hacc.sedpCount_eq, hacc.reports_ok⟩
  · refine ⟨hacc.rtpsCount_eq, by simp [hacc.sedpCount_eq], ?_⟩
    simp only [List.mem_append, List.mem_singleton]
    rintro rpt (hrpt | rfl)
    · exact hacc.reports_ok rpt hrpt
    · refine ⟨⟨pkt, hpkt, hok, rfl, rfl⟩, hrole, ?_, ?_⟩
      · rw [validateSedpPacket_sedp hsubs hsub hdf hrole hparams]; rfl
      · rw [validateSedpPacket_of_sedp hdf hrole params]

/-- One packet keeps the invariant, with the packet added to those seen. -/
theorem analyzePacket_sound {pkts : List Packet} {acc acc' : Analysis} {pkt : Packet}
    (hacc : Analysis.Sound pkts acc) (h : analyzePacket acc pkt = .ok acc') :
    Analysis.Sound (pkts ++ [pkt]) acc' := by
  unfold analyzePacket at h
  rw [decapsulate_eq] at h
  by_cases hok : FrontEndOk pkt.data
  · rw [if_pos hok, Except.ok_bind] at h
    obtain ⟨subs, hs⟩ := parseSubmessages_ok (frontEndFields pkt.data).1.payload
      (frontEndFields pkt.data).2.submessagesOffset
    simp only [hs, Except.ok_bind] at h
    refine List.foldlM_except_inv (fun _ _ _ hsub hb hstep =>
      analyzeSubmessage_sound (by simp) hok hs hsub hb hstep) ?_ h
    exact ⟨by simp [hacc.rtpsCount_eq, List.countP_append, hok], hacc.sedpCount_eq,
      fun rpt hrpt => (hacc.reports_ok rpt hrpt).append _⟩
  · rw [if_neg hok, Except.ok_bind] at h
    cases Except.ok.inj h
    exact ⟨by simp [hacc.rtpsCount_eq, List.countP_append, hok], hacc.sedpCount_eq,
      fun rpt hrpt => (hacc.reports_ok rpt hrpt).append _⟩

/-- Every run that returns reports the packets `read_pcap` read and the record it stopped at, and
    its analysis of them is sound. -/
theorem analyzePcap_sound {file : Bytes} {rep : Report} (h : analyzePcap file = .ok rep) :
    ∃ read, readPcap file = .ok read ∧ rep.totalPackets = read.packets.length ∧
      rep.truncated = read.truncated ∧ Analysis.Sound read.packets rep.analysis := by
  cases hr : readPcap file with
  | error err => simp [analyzePcap, hr] at h
  | ok read =>
    obtain ⟨analysis, ha⟩ := List.foldlM_except_ok analyzePacket_ok read.packets Analysis.empty
    rw [analyzePcap_of_readPcap hr, ha] at h
    cases Except.ok.inj h
    exact ⟨read, rfl, rfl, rfl, List.foldlM_except_inv_prefix (fun _ _ _ _ => analyzePacket_sound)
      read.packets Analysis.sound_empty ha⟩

/-- On the two-frame capture both packets are accepted and both reports are sound. -/
theorem analyzePcap_sound_sedpCapture :
    analyzePcap sedpCapture = .ok sedpCaptureReport ∧
      ∃ read, readPcap sedpCapture = .ok read ∧ sedpCaptureReport.totalPackets = read.packets.length ∧
        sedpCaptureReport.truncated = read.truncated ∧
        Analysis.Sound read.packets sedpCaptureReport.analysis :=
  ⟨analyzePcap_sedpCapture, analyzePcap_sound analyzePcap_sedpCapture⟩

/-! ### Report order -/

/-- The reports so far come in packet order, each for a packet numbered from 1 to below `m`. -/
def ReportsBefore (m : Nat) (a : Analysis) : Prop :=
  (a.reports.map SedpReport.num).Pairwise (· ≤ ·) ∧ ∀ r ∈ a.reports, 1 ≤ r.num ∧ r.num < m

/-- The submessages of packet `pkt` add reports for `pkt` only. -/
theorem analyzeSubmessage_before {pkt : Packet} {udp : UdpDatagram} {rtps : RtpsHeader}
    {acc acc' : Analysis} {submsg : Submessage} (hnum : 1 ≤ pkt.num)
    (hacc : ReportsBefore (pkt.num + 1) acc)
    (h : analyzeSubmessage pkt udp rtps acc submsg = .ok acc') :
    ReportsBefore (pkt.num + 1) acc' := by
  rcases analyzeSubmessage_cases h with rfl | rfl | ⟨df, params, -, -, -, rfl⟩
  · exact hacc
  · exact hacc
  · refine ⟨?_, ?_⟩
    · rw [List.map_append, List.pairwise_append]
      refine ⟨hacc.1, List.pairwise_singleton _ _, fun a ha b hb => ?_⟩
      obtain ⟨r, hr, rfl⟩ := List.mem_map.1 ha
      rw [List.mem_singleton.1 hb]
      exact Nat.le_of_lt_succ (hacc.2 r hr).2
    · simp only [List.mem_append, List.mem_singleton]
      rintro r (hr | rfl)
      · exact hacc.2 r hr
      · exact ⟨hnum, Nat.lt_succ_self _⟩

/-- A packet numbered above every report so far adds reports for itself only. -/
theorem analyzePacket_before {acc acc' : Analysis} {pkt : Packet} (hnum : 1 ≤ pkt.num)
    (hacc : ReportsBefore pkt.num acc) (h : analyzePacket acc pkt = .ok acc') :
    ReportsBefore (pkt.num + 1) acc' := by
  have hacc' : ReportsBefore (pkt.num + 1) acc :=
    ⟨hacc.1, fun r hr => ⟨(hacc.2 r hr).1, Nat.lt_succ_of_lt (hacc.2 r hr).2⟩⟩
  unfold analyzePacket at h
  rw [decapsulate_eq] at h
  by_cases hok : FrontEndOk pkt.data
  · rw [if_pos hok, Except.ok_bind] at h
    obtain ⟨subs, hs⟩ := parseSubmessages_ok (frontEndFields pkt.data).1.payload
      (frontEndFields pkt.data).2.submessagesOffset
    simp only [hs, Except.ok_bind] at h
    exact List.foldlM_except_inv (fun _ _ _ _ hb hstep => analyzeSubmessage_before hnum hb hstep)
      (show ReportsBefore _ { acc with rtpsCount := acc.rtpsCount + 1 } from hacc') h
  · rw [if_neg hok, Except.ok_bind] at h
    cases Except.ok.inj h
    exact hacc'

/-- The packet loop over packets numbered `s`, `s + 1`, ... keeps the reports in packet order. -/
theorem foldlM_analyzePacket_before {pkts : List Packet} {s : Nat} {acc acc' : Analysis}
    (hnums : pkts.map Packet.num = List.range' s pkts.length) (hs : 1 ≤ s)
    (hacc : ReportsBefore s acc) (h : pkts.foldlM analyzePacket acc = .ok acc') :
    ReportsBefore (s + pkts.length) acc' := by
  induction pkts generalizing s acc with
  | nil => cases Except.ok.inj h; simpa using hacc
  | cons p ps ih =>
    obtain ⟨a1, h1, hl⟩ := List.foldlM_except_cons h
    simp only [List.map_cons, List.length_cons, List.range'_succ, List.cons.injEq] at hnums
    have h1' := analyzePacket_before (hnums.1 ▸ hs) (hnums.1 ▸ hacc) h1
    rw [hnums.1] at h1'
    simpa [Nat.add_assoc, Nat.add_comm 1] using ih hnums.2 (by omega) h1' hl

/-- The reports of every run come in the order of their packets, each for a packet numbered
    from 1 to the number of packets read. -/
theorem analyzePcap_reports_sorted {file : Bytes} {rep : Report} (h : analyzePcap file = .ok rep) :
    (rep.analysis.reports.map SedpReport.num).Pairwise (· ≤ ·) ∧
      ∀ r ∈ rep.analysis.reports, 1 ≤ r.num ∧ r.num ≤ rep.totalPackets := by
  cases hr : readPcap file with
  | error err => simp [analyzePcap, hr] at h
  | ok read =>
    obtain ⟨analysis, ha⟩ := List.foldlM_except_ok analyzePacket_ok read.packets Analysis.empty
    rw [analyzePcap_of_readPcap hr, ha] at h
    cases Except.ok.inj h
    have hempty : ReportsBefore 1 Analysis.empty := ⟨List.Pairwise.nil, fun _ h => nomatch h⟩
    obtain ⟨hsorted, hbound⟩ := foldlM_analyzePacket_before (readPcap_num hr) le_rfl hempty ha
    exact ⟨hsorted, fun r hr => ⟨(hbound r hr).1, by have := (hbound r hr).2; dsimp; omega⟩⟩

/-- On the two-frame capture the reports of packets 1 and 2 come in that order. -/
theorem analyzePcap_reports_sorted_sedpCapture :
    analyzePcap sedpCapture = .ok sedpCaptureReport ∧
      (sedpCaptureReport.analysis.reports.map SedpReport.num).Pairwise (· ≤ ·) ∧
      ∀ r ∈ sedpCaptureReport.analysis.reports, 1 ≤ r.num ∧ r.num ≤ sedpCaptureReport.totalPackets :=
  ⟨analyzePcap_sedpCapture, analyzePcap_reports_sorted analyzePcap_sedpCapture⟩

end ValidateSedp
