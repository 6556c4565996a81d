import ValidateSedp.Native.Bytes

/-!
# Decapsulation: Ethernet, IPv4, UDP and the RTPS header

`parse_ethernet`, `parse_ip` and `parse_rtps_header` each return `None` for a frame that is
not theirs. `analyze_pcap` chains them, skipping the packet at the first `None` and also when
`parse_ethernet` returns an empty IP packet (`if not ip_pkt`); `decapsulate` is that chain.
-/

namespace ValidateSedp

/-- `parse_ethernet`: the IPv4 packet carried by an Ethernet II frame. -/
def parseEthernet (data : Bytes) : Except PyError (Option Bytes) := do
  if data.length < 14 then return none
  let ethertype ← unpack .big 2 (slice data 12 14)
  if ethertype ≠ 0x0800 then return none
  return some (data.drop 14)

/-- The dictionary `parse_ip` returns. -/
structure UdpDatagram where
  srcIp : String
  dstIp : String
  srcPort : Nat
  dstPort : Nat
  payload : Bytes

/-- `'.'.join(str(b) for b in bs)`. -/
def dottedQuad (bs : Bytes) : String := ".".intercalate (bs.map fun b => toString b.toNat)

/-- `parse_ip`: the UDP datagram carried by an IPv4 packet. -/
def parseIp (data : Bytes) : Except PyError (Option UdpDatagram) := do
  if data.length < 20 then return none
  let versionIhl ← getItem data 0
  let version := versionIhl.toNat >>> 4
  let ihl := (versionIhl.toNat &&& 0x0F) * 4
  if version ≠ 4 then return none
  let protocol ← getItem data 9
  if protocol.toNat ≠ 17 then return none
  let srcIp := dottedQuad (slice data 12 16)
  let dstIp := dottedQuad (slice data 16 20)
  let udpData := data.drop ihl
  if udpData.length < 8 then return none
  let srcPort ← unpack .big 2 (slice udpData 0 2)
  let dstPort ← unpack .big 2 (slice udpData 2 4)
  let _udpLength ← unpack .big 2 (slice udpData 4 6)
  let payload := udpData.drop 8
  return some ⟨srcIp, dstIp, srcPort, dstPort, payload⟩

/-- The dictionary `parse_rtps_header` returns. -/
structure RtpsHeader where
  protocolVersion : String
  vendorId : Nat
  guidPrefix : String
  submessagesOffset : Nat

/-- `b'RTPS'`. -/
def rtpsMagic : Bytes := [0x52, 0x54, 0x50, 0x53]

/-- `parse_rtps_header`: the fixed 20-byte RTPS header. -/
def parseRtpsHeader (data : Bytes) : Except PyError (Option RtpsHeader) := do
  if data.length < 20 then return none
  let magic := slice data 0 4
  if magic ≠ rtpsMagic then return none
  let major ← getItem data 4
  let minor ← getItem data 5
  let protocolVersion := s!"{major.toNat}.{minor.toNat}"
  let vendorId ← unpack .big 2 (slice data 6 8)
  let guidPrefix := hexlify (slice data 8 20)
  return some ⟨protocolVersion, vendorId, guidPrefix, 20⟩

/-- The front of `analyze_pcap`'s packet loop: a frame's UDP datagram and RTPS header, or
    `none` where the loop `continue`s. -/
def decapsulate (frame : Bytes) : Except PyError (Option (UdpDatagram × RtpsHeader)) := do
  let some ipPkt ← parseEthernet frame | return none
  if ipPkt.isEmpty then return none
  let some udp ← parseIp ipPkt | return none
  let some rtps ← parseRtpsHeader udp.payload | return none
  return some (udp, rtps)

end ValidateSedp
