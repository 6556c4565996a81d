import ValidateSedp.Native.Analyze
import ValidateSedp.Spec.PcapCorrect
import ValidateSedp.Spec.FrameCorrect
import ValidateSedp.Spec.ValidateCorrect

/-!
# `analyze_pcap` correctness: no stage raises

The tool's run is a fold of `analyzePacket` over the packets `read_pcap` returns, and inside
each accepted packet a fold of `analyzeSubmessage` over its submessages. Neither loop body ever
raises, so the run raises exactly where `read_pcap` does. What the run computes is the subject of
`AnalyzeSound` (what every report holds), `AnalyzeComplete` (well-formed announcements pass) and
`AnalyzePacketwise` (the run as a merge of per-packet analyses).

## Key results

- `analyzePcap_error_iff`: the whole pipeline raises exactly when `read_pcap` rejects the global
  header; past it, no stage raises on any packet, submessage or parameter list.
- `analyzePcap_error_eq`: what it raises then.
-/

namespace ValidateSedp

/-! ### No stage raises -/

/-- The submessage loop's body never raises. -/
theorem analyzeSubmessage_ok (pkt : Packet) (udp : UdpDatagram) (rtps : RtpsHeader)
    (acc : Analysis) (submsg : Submessage) :
    ∃ acc', analyzeSubmessage pkt udp rtps acc submsg = .ok acc' := by
  unfold analyzeSubmessage
  split_ifs
  · exact ⟨_, rfl⟩
  cases submsg.dataFields with
  | none => exact ⟨_, rfl⟩
  | some df =>
    obtain ⟨ps, hps⟩ := parseCdrParameterList_ok df.payload
    simp only
    split_ifs
    · exact ⟨_, rfl⟩
    · exact ⟨_, by rw [hps]; rfl⟩
    · exact ⟨_, rfl⟩

/-- The packet loop's body never raises. -/
theorem analyzePacket_ok (acc : Analysis) (pkt : Packet) :
    ∃ acc', analyzePacket acc pkt = .ok acc' := by
  unfold analyzePacket
  rw [decapsulate_eq]
  split_ifs
  · obtain ⟨subs, hs⟩ := parseSubmessages_ok (frontEndFields pkt.data).1.payload
      (frontEndFields pkt.data).2.submessagesOffset
    simp only [Except.ok_bind, hs]
    exact List.foldlM_except_ok (analyzeSubmessage_ok _ _ _) _ _
  · exact ⟨_, rfl⟩

/-- Past a global header `read_pcap` accepts, the run is the fold over the packets read. -/
theorem analyzePcap_of_readPcap {file : Bytes} {read : PcapRead} (h : readPcap file = .ok read) :
    analyzePcap file = (read.packets.foldlM analyzePacket Analysis.empty).map
      fun analysis => ⟨read.packets.length, read.truncated, analysis⟩ := by
  rw [analyzePcap, h, Except.ok_bind]
  cases read.packets.foldlM analyzePacket Analysis.empty <;> rfl

/-- A run past a global header `read_pcap` accepts returns. -/
theorem analyzePcap_ok {file : Bytes} {read : PcapRead} (h : readPcap file = .ok read) :
    ∃ rep, analyzePcap file = .ok rep := by
  obtain ⟨analysis, ha⟩ := List.foldlM_except_ok analyzePacket_ok read.packets Analysis.empty
  exact ⟨_, by rw [analyzePcap_of_readPcap h, ha]; rfl⟩

/-- The pipeline raises exactly on a global header shorter than 24 bytes or with an unknown magic
    number. -/
theorem analyzePcap_error_iff (file : Bytes) :
    (∃ err, analyzePcap file = .error err) ↔
      file.length < 24 ∨
        (readUInt .little file 0 4 ≠ 0xa1b2c3d4 ∧ readUInt .little file 0 4 ≠ 0xd4c3b2a1) := by
  rw [← readPcap_error_iff]
  cases hr : readPcap file with
  | error err => simp [analyzePcap, hr]
  | ok read =>
    obtain ⟨rep, ha⟩ := analyzePcap_ok hr
    simp [ha]

/-- What the pipeline raises: `read_pcap`'s `ValueError` for a short global header, or its
    `ValueError` naming an unknown magic number in eight hex digits; nothing else. -/
theorem analyzePcap_error_eq (file : Bytes) (err : PyError) :
    analyzePcap file = .error err ↔
      (file.length < 24 ∧ err = .valueError "Invalid pcap file: header too short") ∨
      (24 ≤ file.length ∧ readUInt .little file 0 4 ≠ 0xa1b2c3d4 ∧
        readUInt .little file 0 4 ≠ 0xd4c3b2a1 ∧
        err = .valueError s!"Invalid pcap magic: {formatHex false 8 (readUInt .little file 0 4)}") := by
  by_cases h : file.length < 24
  · simp [analyzePcap, readPcap_short h, h, eq_comm]
  have h24 : 24 ≤ file.length := by omega
  have hok : ∀ e, readPcap file = readPackets e 0 (file.drop 24) →
      ¬ analyzePcap file = .error err := fun e he herr => by
    obtain ⟨r, hr⟩ := readPackets_ok e 0 (file.drop 24)
    obtain ⟨rep, ha⟩ := analyzePcap_ok (he.trans hr)
    cases ha.symm.trans herr
  by_cases h1 : readUInt .little file 0 4 = 0xa1b2c3d4
  · simp [hok .little (readPcap_little h24 h1), h, h1]
  by_cases h2 : readUInt .little file 0 4 = 0xd4c3b2a1
  · simp [hok .big (readPcap_big h24 h2), h, h2]
  simp [analyzePcap, readPcap_bad_magic h24 h1 h2, h, h24, h1, h2, eq_comm]

end ValidateSedp
