import ValidateSedp.Native.Pcap
import ValidateSedp.Native.Frame
import ValidateSedp.Native.Validate

/-!
# `analyze_pcap`

The tool's main loop: read the capture, take each packet through the front end
(`decapsulate`), walk the submessages of each RTPS message, count the SPDP and SEDP DATA
submessages, and for each SEDP announcement decode its parameter list and validate it.

The source prints as it goes. The model returns what it prints: the packet count, the record
that ran past the end of the file, the three counters of the summary, and one `SedpReport` per
announcement with the values of its printed lines.
-/

namespace ValidateSedp

/-- The values `analyze_pcap` prints for one SEDP announcement. -/
structure SedpReport where
  num : Nat
  entityType : EntityType
  srcIp : String
  srcPort : Nat
  dstIp : String
  dstPort : Nat
  size : Nat
  guidPrefix : String
  writerId : Nat
  readerId : Nat
  sequenceNumber : Nat
  params : List Parameter
  issues : List String
  warnings : List String

/-- The counters of the summary and the announcements reported so far. -/
structure Analysis where
  rtpsCount : Nat
  spdpCount : Nat
  sedpCount : Nat
  reports : List SedpReport

/-- The counters before the first packet. -/
def Analysis.empty : Analysis := ⟨0, 0, 0, []⟩

/-- The body of the submessage loop: only DATA submessages count, by the `entity_type` key
    (`'UNKNOWN'` when the DATA fields were not read); an SEDP announcement's payload is decoded
    and validated. -/
def analyzeSubmessage (pkt : Packet) (udp : UdpDatagram) (rtps : RtpsHeader) (acc : Analysis)
    (submsg : Submessage) : Except PyError Analysis := do
  if submsg.id ≠ rtpsSubmsgData then return acc
  let some df := submsg.dataFields | return acc
  if df.entityType = .SPDP then return { acc with spdpCount := acc.spdpCount + 1 }
  if df.entityType = .SEDP_PUB ∨ df.entityType = .SEDP_SUB then
    let params ← parseCdrParameterList df.payload
    let (issues, warnings) := validateSedpPacket submsg params
    let report : SedpReport :=
      ⟨pkt.num, df.entityType, udp.srcIp, udp.srcPort, udp.dstIp, udp.dstPort, pkt.size,
        rtps.guidPrefix, df.writerId, df.readerId, df.sequenceNumber, params, issues, warnings⟩
    return { acc with sedpCount := acc.sedpCount + 1, reports := acc.reports ++ [report] }
  return acc

/-- The body of the packet loop: a packet the front end skips leaves the counters as they are. -/
def analyzePacket (acc : Analysis) (pkt : Packet) : Except PyError Analysis := do
  let some (udp, rtps) ← decapsulate pkt.data | return acc
  let acc := { acc with rtpsCount := acc.rtpsCount + 1 }
  let submessages ← parseSubmessages udp.payload rtps.submessagesOffset
  submessages.foldlM (analyzeSubmessage pkt udp rtps) acc

/-- What `analyze_pcap` prints: the number of packets read, the truncated record if any, and the
    analysis. -/
structure Report where
  totalPackets : Nat
  truncated : Option Nat
  analysis : Analysis

/-- `analyze_pcap`, on the bytes of the capture file. -/
def analyzePcap (file : Bytes) : Except PyError Report := do
  let read ← readPcap file
  let analysis ← read.packets.foldlM analyzePacket Analysis.empty
  return ⟨read.packets.length, read.truncated, analysis⟩

end ValidateSedp
