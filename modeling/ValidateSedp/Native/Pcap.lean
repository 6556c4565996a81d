import ValidateSedp.Native.Bytes

/-!
# Reading the capture file

`read_pcap` checks the 24-byte global header, picks the byte order from its magic number, and
then reads records, each a 16-byte header (`ts_sec`, `ts_usec`, `incl_len`, `orig_len`)
followed by `incl_len` bytes of frame data. The file is streamed through `f.read(n)`, which
at the end of the file returns fewer than `n` bytes; we model the stream as the list of bytes
from the current position on, so that `f.read(n)` is `take n` and the position moves by `drop`.

The record loop is `readPackets`, by well-founded recursion on the bytes left: every turn of
the Python `while True` either breaks or consumes at least the 16 header bytes.
-/

namespace ValidateSedp

/-- A packet as `read_pcap` returns it (`num`, `timestamp`, `data`, `size`). -/
structure Packet where
  num : Nat
  timestamp : Float
  data : Bytes
  size : Nat

/-- The result of `read_pcap`: its packets, and the number of the record whose data ran past
    the end of the file, for which the source prints `Warning: Packet n truncated`. -/
structure PcapRead where
  packets : List Packet
  truncated : Option Nat

/-- `struct.unpack(f'{endian}IIII', pkt_header)`. -/
def unpackRecordHeader (e : Endian) (buf : Bytes) : Except PyError (Nat × Nat × Nat × Nat) :=
  if buf.length = 16 then
    .ok (decodeUInt e (slice buf 0 4), decodeUInt e (slice buf 4 8),
      decodeUInt e (slice buf 8 12), decodeUInt e (slice buf 12 16))
  else .error (.structError "unpack requires a buffer of 16 bytes")

/-- `ts_sec + ts_usec / 1_000_000.0`. -/
def timestampOf (tsSec tsUsec : Nat) : Float :=
  Float.ofNat tsSec + Float.ofNat tsUsec / 1000000.0

/-- The record loop of `read_pcap`, from the file position whose remaining bytes are `rest`;
    `packetNum` counts the record headers read so far. -/
def readPackets (endian : Endian) (packetNum : Nat) (rest : Bytes) : Except PyError PcapRead :=
  if _h : (rest.take 16).length < 16 then .ok ⟨[], none⟩
  else do
    let packetNum := packetNum + 1
    let (tsSec, tsUsec, inclLen, _origLen) ← unpackRecordHeader endian (rest.take 16)
    let pktData := (rest.drop 16).take inclLen
    if pktData.length < inclLen then
      return ⟨[], some packetNum⟩
    let tail ← readPackets endian packetNum (rest.drop (16 + inclLen))
    return { tail with
      packets := ⟨packetNum, timestampOf tsSec tsUsec, pktData, inclLen⟩ :: tail.packets }
termination_by rest.length
decreasing_by simp only [List.length_take, List.length_drop] at _h ⊢; omega

/-- `read_pcap`: the global header, its magic number, then the records. -/
def readPcap (file : Bytes) : Except PyError PcapRead := do
  let header := file.take 24
  if header.length < 24 then
    throw (.valueError "Invalid pcap file: header too short")
  let magic ← unpack .little 4 (slice header 0 4)
  let endian ←
    if magic = 0xa1b2c3d4 then pure Endian.little
    else if magic = 0xd4c3b2a1 then pure Endian.big
    else throw (.valueError s!"Invalid pcap magic: {formatHex false 8 magic}")
  readPackets endian 0 (file.drop 24)

end ValidateSedp
