import ValidateSedp.Native.Frame
import ValidateSedp.Spec.Wire

/-!
# Decapsulation correctness

One lemma per parser gives its result in closed form, which shows at once that it never raises:
`parseEthernet_eq`, `parseIp_eq`, `parseRtpsHeader_eq`. `decapsulate_eq` composes them into the
exact set of frames `analyze_pcap` goes on with, and the fields it extracts from them.
`decapsulate_encode` is the round trip: a frame laid out by a sender, with the minimal IPv4
header, reads back as its fields.
-/

namespace ValidateSedp

/-- `parse_ethernet` never raises: it returns the bytes after the 14-byte header of a frame that
    has one and whose ethertype is `0x0800`, and `None` otherwise. -/
theorem parseEthernet_eq (data : Bytes) :
    parseEthernet data =
      .ok (if 14 ≤ data.length ∧ readUInt .big data 12 2 = 0x0800 then some (data.drop 14)
        else none) := by
  by_cases h : data.length < 14
  · simp [parseEthernet, h, show ¬ 14 ≤ data.length by omega]
  · simp [parseEthernet, h, unpack_slice (show 12 + 2 = 14 from rfl) (show 14 ≤ data.length by omega)]
    split_ifs <;> simp_all

/-- `ihl`: the IPv4 header length `parse_ip` computes from the version/IHL byte. -/
def ihlOf (data : Bytes) : Nat := ((byteAt data 0).toNat &&& 0x0F) * 4

/-- `parse_ip` never raises: on a packet of at least 20 bytes with version 4, protocol 17 and
    room for the UDP header after `ihl` bytes, it returns the dotted quads of bytes 12 to 15 and
    16 to 19, the two ports after the IPv4 header and the bytes after the UDP header; otherwise
    `None`. -/
theorem parseIp_eq (data : Bytes) :
    parseIp data =
      .ok (if 20 ≤ data.length ∧ (byteAt data 0).toNat >>> 4 = 4 ∧ (byteAt data 9).toNat = 17 ∧
            ihlOf data + 8 ≤ data.length then
          some ⟨dottedQuad (slice data 12 16), dottedQuad (slice data 16 20),
            readUInt .big data (ihlOf data) 2, readUInt .big data (ihlOf data + 2) 2,
            data.drop (ihlOf data + 8)⟩
        else none) := by
  by_cases h : data.length < 20
  · simp [parseIp, h, show ¬ 20 ≤ data.length by omega]
  rw [parseIp, if_neg h]
  simp only [getItem_of_lt (show 0 < data.length by omega), getItem_of_lt (show 9 < data.length by omega),
    Except.ok_bind, ihlOf]
  generalize ((byteAt data 0).toNat &&& 0x0F) * 4 = ihl
  by_cases hv : (byteAt data 0).toNat >>> 4 = 4
  swap; · simp [hv]
  by_cases hp : (byteAt data 9).toNat = 17
  swap; · simp [hv, hp]
  by_cases hl : ihl + 8 ≤ data.length
  · simp [hv, hp, hl, h, slice_drop, show 20 ≤ data.length by omega, show ¬ data.length - ihl < 8 by omega,
      unpack_slice (show ihl + 2 = ihl + 2 from rfl) (show ihl + 2 ≤ data.length by omega),
      unpack_slice (show ihl + 2 + 2 = ihl + 4 by omega) (show ihl + 4 ≤ data.length by omega),
      unpack_slice (show ihl + 4 + 2 = ihl + 6 by omega) (show ihl + 6 ≤ data.length by omega)]
  · simp [hv, hp, hl, show data.length - ihl < 8 by omega]

/-- `parse_rtps_header` never raises: on a payload of at least 20 bytes that starts with `RTPS`,
    it returns the protocol version, the vendor id, the hex of the GUID prefix and offset 20;
    otherwise `None`. -/
theorem parseRtpsHeader_eq (data : Bytes) :
    parseRtpsHeader data =
      .ok (if 20 ≤ data.length ∧ slice data 0 4 = rtpsMagic then
          some ⟨s!"{(byteAt data 4).toNat}.{(byteAt data 5).toNat}", readUInt .big data 6 2,
            hexlify (slice data 8 20), 20⟩
        else none) := by
  by_cases h : data.length < 20
  · simp [parseRtpsHeader, h, show ¬ 20 ≤ data.length by omega]
  by_cases hm : slice data 0 4 = rtpsMagic
  · simp [parseRtpsHeader, h, hm, show 20 ≤ data.length by omega,
      getItem_of_lt (show 4 < data.length by omega), getItem_of_lt (show 5 < data.length by omega),
      unpack_slice (show 6 + 2 = 8 from rfl) (show 8 ≤ data.length by omega)]
  · simp [parseRtpsHeader, h, hm]

/-! ### The chain -/

/-- What `decapsulate` checks of a frame, with `ip` the bytes after the Ethernet header and
    `u` the bytes after the IPv4 and UDP headers. The header length is taken from the IHL field
    as it stands: nothing asks it to be at least 20. -/
structure FrontEndOk (frame : Bytes) : Prop where
  ethernet : 14 ≤ frame.length
  ethertype : readUInt .big frame 12 2 = 0x0800
  ipLength : 20 ≤ (frame.drop 14).length
  version : (byteAt (frame.drop 14) 0).toNat >>> 4 = 4
  protocol : (byteAt (frame.drop 14) 9).toNat = 17
  udpHeader : ihlOf (frame.drop 14) + 8 ≤ (frame.drop 14).length
  rtpsLength : 20 ≤ ((frame.drop 14).drop (ihlOf (frame.drop 14) + 8)).length
  rtpsMagic : slice ((frame.drop 14).drop (ihlOf (frame.drop 14) + 8)) 0 4 = rtpsMagic

/-- The front end's tests are decided one by one, so a frame's acceptance can be evaluated. -/
instance (frame : Bytes) : Decidable (FrontEndOk frame) :=
  decidable_of_iff (14 ≤ frame.length ∧ readUInt .big frame 12 2 = 0x0800 ∧
      20 ≤ (frame.drop 14).length ∧ (byteAt (frame.drop 14) 0).toNat >>> 4 = 4 ∧
      (byteAt (frame.drop 14) 9).toNat = 17 ∧ ihlOf (frame.drop 14) + 8 ≤ (frame.drop 14).length ∧
      20 ≤ ((frame.drop 14).drop (ihlOf (frame.drop 14) + 8)).length ∧
      slice ((frame.drop 14).drop (ihlOf (frame.drop 14) + 8)) 0 4 = rtpsMagic)
    ⟨fun ⟨a, b, c, d, e, f, g, h⟩ => ⟨a, b, c, d, e, f, g, h⟩,
      fun ⟨a, b, c, d, e, f, g, h⟩ => ⟨a, b, c, d, e, f, g, h⟩⟩

/-- The datagram and header `decapsulate` extracts from a frame it accepts. -/
def frontEndFields (frame : Bytes) : UdpDatagram × RtpsHeader :=
  let ip := frame.drop 14
  let u := ip.drop (ihlOf ip + 8)
  (⟨dottedQuad (slice ip 12 16), dottedQuad (slice ip 16 20), readUInt .big ip (ihlOf ip) 2,
      readUInt .big ip (ihlOf ip + 2) 2, u⟩,
    ⟨s!"{(byteAt u 4).toNat}.{(byteAt u 5).toNat}", readUInt .big u 6 2, hexlify (slice u 8 20), 20⟩)

/-- The front end never raises; it accepts exactly the frames of `FrontEndOk`, and then
    returns `frontEndFields`. -/
theorem decapsulate_eq (frame : Bytes) :
    decapsulate frame = .ok (if FrontEndOk frame then some (frontEndFields frame) else none) := by
  rw [decapsulate, parseEthernet_eq]
  by_cases he : 14 ≤ frame.length ∧ readUInt .big frame 12 2 = 0x0800
  swap
  · rw [if_neg he, if_neg (fun h => he ⟨h.ethernet, h.ethertype⟩)]; rfl
  rw [if_pos he]
  simp only [Except.ok_bind]
  by_cases hempty : (frame.drop 14).isEmpty = true
  · have hno : ¬ FrontEndOk frame := fun h => by
      have := h.ipLength; rw [List.isEmpty_iff.mp hempty] at this; simp at this
    rw [if_pos hempty, if_neg hno]; rfl
  rw [if_neg hempty]
  simp only [Except.pure_eq_ok, Except.ok_bind, parseIp_eq]
  by_cases hip : 20 ≤ (frame.drop 14).length ∧ (byteAt (frame.drop 14) 0).toNat >>> 4 = 4 ∧
      (byteAt (frame.drop 14) 9).toNat = 17 ∧ ihlOf (frame.drop 14) + 8 ≤ (frame.drop 14).length
  swap
  · rw [if_neg hip, if_neg (fun h => hip ⟨h.ipLength, h.version, h.protocol, h.udpHeader⟩)]
  rw [if_pos hip]
  simp only [Except.ok_bind, parseRtpsHeader_eq]
  by_cases hr : 20 ≤ ((frame.drop 14).drop (ihlOf (frame.drop 14) + 8)).length ∧
      slice ((frame.drop 14).drop (ihlOf (frame.drop 14) + 8)) 0 4 = rtpsMagic
  swap
  · rw [if_neg hr, if_neg (fun h => hr ⟨h.rtpsLength, h.rtpsMagic⟩)]
  rw [if_pos hr, if_pos ⟨he.1, he.2, hip.1, hip.2.1, hip.2.2.1, hip.2.2.2, hr.1, hr.2⟩]
  rfl

/-- The front end never raises: it returns `frontEndFields` of exactly the frames of
    `FrontEndOk`, and skips every other frame. -/
theorem decapsulate_accepts (frame : Bytes) :
    (∀ x, decapsulate frame = .ok (some x) ↔ FrontEndOk frame ∧ x = frontEndFields frame) ∧
      (decapsulate frame = .ok none ↔ ¬ FrontEndOk frame) := by
  rw [decapsulate_eq]
  by_cases h : FrontEndOk frame <;> simp [h, eq_comm]

/-- Interpolating a string writes it as it is. -/
private theorem toString_string (x : String) : toString x = x := rfl

/-- `'.'.join(str(b) for b in bs)` on four bytes. -/
theorem dottedQuad_four (a b c d : UInt8) :
    dottedQuad [a, b, c, d] = s!"{a.toNat}.{b.toNat}.{c.toNat}.{d.toNat}" :=
  String.ext (by simp [dottedQuad, String.intercalate, String.intercalate.go, toString_string])

/-- The text of the addresses and of the GUID prefix of a frame the front end accepts: the
    decimal dotted quads of frame bytes 26 to 29 and 30 to 33 (IPv4 bytes 12 to 19), and two
    lower-case hexadecimal digits for each of the twelve GUID prefix bytes of the RTPS header. -/
theorem frontEndFields_text {frame : Bytes} (h : FrontEndOk frame) :
    (frontEndFields frame).1.srcIp = s!"{(byteAt frame 26).toNat}.{(byteAt frame 27).toNat}.{(byteAt frame 28).toNat}.{(byteAt frame 29).toNat}" ∧
      (frontEndFields frame).1.dstIp = s!"{(byteAt frame 30).toNat}.{(byteAt frame 31).toNat}.{(byteAt frame 32).toNat}.{(byteAt frame 33).toNat}" ∧
      (frontEndFields frame).2.guidPrefix =
        String.mk ((slice (frontEndFields frame).1.payload 8 20).flatMap hexPair) ∧
      (frontEndFields frame).2.guidPrefix.length = 24 := by
  have hip := h.ipLength
  have hu := h.rtpsLength
  refine ⟨?_, ?_, hexlify_eq _, ?_⟩
  · show dottedQuad (slice (frame.drop 14) 12 (12 + 4)) = _
    simp only [slice_four (show 12 + 4 ≤ (frame.drop 14).length by omega), byteAt_drop]
    exact dottedQuad_four ..
  · show dottedQuad (slice (frame.drop 14) 16 (16 + 4)) = _
    simp only [slice_four (show 16 + 4 ≤ (frame.drop 14).length by omega), byteAt_drop]
    exact dottedQuad_four ..
  · show (hexlify _).length = 24
    rw [length_hexlify, length_slice_of_le (by omega) hu]

/-- An Ethernet frame whose IPv4 header declares IHL = 1, a 4-byte header below the minimum
    of five words, and holds `RTPS` where the source address sits. -/
def shortIhlFrame : Bytes :=
  List.replicate 12 0 ++ [0x08, 0x00] ++
    [0x41, 0, 0, 0, 0, 0, 0, 0, 0, 17, 0, 0] ++ rtpsMagic ++ List.replicate 16 0

/-- The front end takes the IPv4 header length from an IHL of 1 as it stands and reads the
    UDP header and the RTPS header from inside the IPv4 header: the frame is accepted. -/
theorem decapsulate_shortIhlFrame :
    ihlOf (shortIhlFrame.drop 14) = 4 ∧
      decapsulate shortIhlFrame = .ok (some (frontEndFields shortIhlFrame)) :=
  ⟨by decide, by rw [decapsulate_eq, if_pos (by decide)]⟩

/-! ### Round trip -/

/-- An RTPS message as a sender puts it on the wire: in a UDP datagram, in an IPv4 packet with
    the minimal 20-byte header (version 4, IHL 5) for protocol 17, in an Ethernet II frame. The
    bytes the front end does not read (the MAC addresses, IPv4 bytes 1 to 8 and the checksum,
    the UDP length and checksum) are kept as they stand. -/
structure RtpsFrame where
  macs : Bytes
  ipFields : Bytes
  ipChecksum : Bytes
  srcIp : Bytes
  dstIp : Bytes
  srcPort : Nat
  dstPort : Nat
  udpFields : Bytes
  major : UInt8
  minor : UInt8
  vendorId : Nat
  guidPrefix : Bytes
  macs_length : macs.length = 12
  ipFields_length : ipFields.length = 8
  ipChecksum_length : ipChecksum.length = 2
  srcIp_length : srcIp.length = 4
  dstIp_length : dstIp.length = 4
  srcPort_lt : srcPort < 2 ^ 16
  dstPort_lt : dstPort < 2 ^ 16
  udpFields_length : udpFields.length = 4
  vendorId_lt : vendorId < 2 ^ 16
  guidPrefix_length : guidPrefix.length = 12

/-- The IPv4 and UDP headers: version and IHL `0x45`, bytes 1 to 8, protocol 17, the checksum,
    the addresses, then the ports, length and checksum. -/
def RtpsFrame.header (f : RtpsFrame) : Bytes :=
  [0x45] ++ f.ipFields ++ [17] ++ f.ipChecksum ++ f.srcIp ++ f.dstIp ++
    encodeUInt .big 2 f.srcPort ++ encodeUInt .big 2 f.dstPort ++ f.udpFields

/-- The RTPS header: `RTPS`, the protocol version, the vendor id, the GUID prefix. -/
def RtpsFrame.messageHeader (f : RtpsFrame) : Bytes :=
  rtpsMagic ++ [f.major, f.minor] ++ encodeUInt .big 2 f.vendorId ++ f.guidPrefix

/-- The RTPS message: its header, then the submessages `body`. -/
def RtpsFrame.message (f : RtpsFrame) (body : Bytes) : Bytes := f.messageHeader ++ body

/-- The frame: the MAC addresses, ethertype `0x0800`, the headers, the message. -/
def RtpsFrame.encode (f : RtpsFrame) (body : Bytes) : Bytes :=
  f.macs ++ [0x08, 0x00] ++ (f.header ++ f.message body)

/-- The datagram the front end should return. -/
def RtpsFrame.udp (f : RtpsFrame) (body : Bytes) : UdpDatagram :=
  ⟨dottedQuad f.srcIp, dottedQuad f.dstIp, f.srcPort, f.dstPort, f.message body⟩

/-- The RTPS header the front end should return. -/
def RtpsFrame.rtps (f : RtpsFrame) : RtpsHeader :=
  ⟨s!"{f.major.toNat}.{f.minor.toNat}", f.vendorId, hexlify f.guidPrefix, 20⟩

/-- The IPv4 and UDP headers take 28 bytes. -/
theorem RtpsFrame.length_header (f : RtpsFrame) : f.header.length = 28 := by
  simp [RtpsFrame.header, f.ipFields_length, f.ipChecksum_length, f.srcIp_length, f.dstIp_length,
    f.udpFields_length]

/-- The RTPS header takes 20 bytes. -/
theorem RtpsFrame.length_messageHeader (f : RtpsFrame) : f.messageHeader.length = 20 := by
  simp [RtpsFrame.messageHeader, rtpsMagic, f.guidPrefix_length]

/-- A frame is 62 bytes of headers and its submessages. -/
theorem RtpsFrame.length_encode (f : RtpsFrame) (body : Bytes) :
    (f.encode body).length = 62 + body.length := by
  simp [RtpsFrame.encode, RtpsFrame.message, f.macs_length, f.length_header,
    f.length_messageHeader]; omega

/-- The IPv4 header starts with version 4 and IHL 5. -/
theorem RtpsFrame.byteAt_header (f : RtpsFrame) (r : Bytes) : byteAt (f.header ++ r) 0 = 0x45 := by
  simp [RtpsFrame.header, byteAt]

/-- The front end reads a frame laid out by a sender back as the sender's addresses, ports,
    protocol version, vendor id and GUID prefix, with the RTPS message as the UDP payload. -/
theorem decapsulate_encode (f : RtpsFrame) (body : Bytes) :
    decapsulate (f.encode body) = .ok (some (f.udp body, f.rtps)) := by
  have hip : (f.encode body).drop 14 = f.header ++ f.message body :=
    List.drop_left' (by simp [f.macs_length])
  have hihl : ihlOf (f.header ++ f.message body) = 20 := by rw [ihlOf, f.byteAt_header]; rfl
  have hu : (f.header ++ f.message body).drop (20 + 8) = f.message body :=
    List.drop_left' f.length_header
  have hok : FrontEndOk (f.encode body) := by
    refine ⟨by simp [RtpsFrame.encode, f.macs_length]; omega, ?_, ?_, ?_, ?_, ?_, ?_, ?_⟩
    · simp only [RtpsFrame.encode, List.append_assoc, readUInt_append_of_le, f.macs_length,
        Nat.reduceLeDiff, Nat.reduceSub]
      rw [readUInt_append_of_length .big _ (show ([8, 0] : Bytes).length = 2 from rfl)]
      rfl
    · rw [hip, List.length_append, f.length_header]; omega
    · rw [hip, f.byteAt_header]; rfl
    · simp only [hip, RtpsFrame.header, List.append_assoc, byteAt_append_of_le,
        List.length_singleton, f.ipFields_length, Nat.reduceLeDiff, Nat.reduceSub]
      rfl
    · rw [hip, hihl, List.length_append, f.length_header]; omega
    · rw [hip, hihl, hu, RtpsFrame.message, List.length_append, f.length_messageHeader]; omega
    · rw [hip, hihl, hu, RtpsFrame.message, RtpsFrame.messageHeader]
      simp only [List.append_assoc]
      exact slice_append_of_length _ rfl
  have hsp : f.srcPort < 256 ^ 2 := f.srcPort_lt
  have hdp : f.dstPort < 256 ^ 2 := f.dstPort_lt
  have hv : f.vendorId < 256 ^ 2 := f.vendorId_lt
  rw [decapsulate_eq, if_pos hok, frontEndFields]
  simp only [hip, hihl, hu]
  simp only [RtpsFrame.header, RtpsFrame.message, RtpsFrame.messageHeader, List.append_assoc,
    slice_append_of_le,
    readUInt_append_of_le, byteAt_append_of_le, rtpsMagic, List.length_cons, List.length_nil,
    List.length_singleton, length_encodeUInt, f.ipFields_length, f.ipChecksum_length,
    f.srcIp_length, f.dstIp_length, f.guidPrefix_length, Nat.reduceAdd, Nat.reduceLeDiff,
    Nat.reduceSub, slice_append_of_length, readUInt_append_encodeUInt _ _ hsp,
    readUInt_append_encodeUInt _ _ hdp, readUInt_append_encodeUInt _ _ hv]
  rfl

end ValidateSedp
