import ValidateSedp.Native.Bytes

/-!
# `bytes.decode('utf-8', errors='ignore')`

The topic and type names are decoded with Python's UTF-8 decoder in `ignore` mode. The decoder
reads a sequence from its lead byte: one byte below `0x80`, two for `C2`–`DF`, three for
`E0`–`EF`, four for `F0`–`F4`; any other byte cannot start a sequence. The first continuation
byte has a narrower range after `E0`, `ED`, `F0` and `F4` (no overlong forms, no surrogates,
nothing above `U+10FFFF`), the others lie in `80`–`BF`. On an invalid byte the decoder drops the
valid part read so far and goes on at the invalid byte; a sequence cut off by the end of the
input is dropped whole. This is CPython's `utf8_decode` with its error handler skipping each
reported range.
-/

namespace ValidateSedp

/-- A continuation byte: `80`–`BF`. -/
def isContinuation (c : UInt8) : Bool := 0x80 ≤ c && c ≤ 0xBF

/-- The range of the byte after a lead byte of three or four bytes. -/
def secondByteOk (lead c : UInt8) : Bool :=
  if lead = 0xE0 then 0xA0 ≤ c && c ≤ 0xBF
  else if lead = 0xED then 0x80 ≤ c && c ≤ 0x9F
  else if lead = 0xF0 then 0x90 ≤ c && c ≤ 0xBF
  else if lead = 0xF4 then 0x80 ≤ c && c ≤ 0x8F
  else isContinuation c

/-- The number of bytes of a sequence led by `b`: 1 for ASCII, 2 to 4 for a lead byte, 0 for a
    byte that cannot start a sequence. -/
def seqLength (b : UInt8) : Nat :=
  if b < 0x80 then 1 else if b < 0xC2 then 0 else if b < 0xE0 then 2 else if b < 0xF0 then 3
  else if b < 0xF5 then 4 else 0

/-- Whether `c` may be byte `pos` (`pos ≥ 1`) of a sequence led by `lead`. -/
def continues (lead : UInt8) (pos : Nat) (c : UInt8) : Bool :=
  if pos = 1 then secondByteOk lead c else isContinuation c

/-- The low six bits of a continuation byte. -/
def contBits (c : UInt8) : Nat := c.toNat % 0x40

/-- The code point of a complete sequence: the lead byte's payload bits, then six bits per
    continuation byte. -/
def codePoint (lead : UInt8) (conts : List UInt8) : Nat :=
  conts.foldl (fun acc c => acc * 0x40 + contBits c) (lead.toNat % (0x40 >>> conts.length))

/-- The decoder between two bytes: the characters so far, and the pending sequence's lead byte
    and the continuation bytes read after it. -/
abbrev Utf8State := List Char × Option (UInt8 × List UInt8)

/-- Byte `b` where no sequence is pending: ASCII is a character, a lead byte opens a sequence,
    any other byte is dropped. -/
def utf8Start (out : List Char) (b : UInt8) : Utf8State :=
  match seqLength b with
  | 0 => (out, none)
  | 1 => (out ++ [Char.ofNat b.toNat], none)
  | _ => (out, some (b, []))

/-- One byte. A byte that does not continue the pending sequence drops that sequence and is read
    again as the start of a new one. -/
def utf8Step : Utf8State → UInt8 → Utf8State
  | (out, none), b => utf8Start out b
  | (out, some (lead, conts)), c =>
    if continues lead (conts.length + 1) c then
      if conts.length + 2 = seqLength lead then
        (out ++ [Char.ofNat (codePoint lead (conts ++ [c]))], none)
      else (out, some (lead, conts ++ [c]))
    else utf8Start out c

/-- UTF-8 decoding with every ill-formed part dropped, including a sequence cut off by the end. -/
def utf8DecodeIgnore (bs : Bytes) : List Char := (bs.foldl utf8Step ([], none)).1

/-- `bytes.decode('utf-8', errors='ignore')`. -/
def decodeUtf8Ignore (bs : Bytes) : String := String.mk (utf8DecodeIgnore bs)

end ValidateSedp
