import ValidateSedp.Native.Bytes
import ValidateSedp.Native.Utf8

/-!
# The CDR parameter list

`parse_cdr_parameter_list` skips the 4-byte encapsulation header and walks PID/length/value
records, each padded to a 4-byte boundary, until `PID_SENTINEL` or until fewer than 4 bytes are
left. A value that runs past the end of the buffer is taken as empty. A few well-known ids get a
`decoded` value; the topic and type names are read inside `try`, so that any exception there
becomes the marker `'<decode error>'`.

The walk is `parseParameters`, by well-founded recursion on the bytes left after `offset`.
-/

namespace ValidateSedp

/-- `PID_MAP` (RTPS v2.3 Table 8.76, DDS-XTypes v1.3), with the source's names. -/
def pidMap : List (Nat × String) :=
  [(0x0001, "PID_SENTINEL"), (0x0002, "PID_USER_DATA"),
   (0x0003, "PID_TOPIC_NAME"), (0x0004, "PID_TYPE_NAME"),
   (0x0005, "PID_GROUP_DATA"), (0x0006, "PID_TOPIC_DATA"),
   (0x0007, "PID_DURABILITY"), (0x000B, "PID_DEADLINE"),
   (0x000D, "PID_LATENCY_BUDGET"), (0x000F, "PID_LIVELINESS"),
   (0x0011, "PID_RELIABILITY"), (0x0016, "PID_LIFESPAN"),
   (0x001A, "PID_DESTINATION_ORDER"), (0x001D, "PID_PRESENTATION"),
   (0x001F, "PID_PARTITION"), (0x0023, "PID_TIME_BASED_FILTER"),
   (0x0025, "PID_OWNERSHIP"), (0x0029, "PID_OWNERSHIP_STRENGTH"),
   (0x002B, "PID_DESTINATION_ORDER"), (0x002F, "PID_METATRAFFIC_UNICAST_LOCATOR"),
   (0x0030, "PID_METATRAFFIC_MULTICAST_LOCATOR"), (0x0031, "PID_DEFAULT_UNICAST_LOCATOR"),
   (0x0032, "PID_DEFAULT_MULTICAST_LOCATOR"), (0x0033, "PID_METATRAFFIC_UNICAST_IPADDRESS"),
   (0x0034, "PID_METATRAFFIC_MULTICAST_IPADDRESS"), (0x0035, "PID_DEFAULT_UNICAST_IPADDRESS"),
   (0x0040, "PID_PROTOCOL_VERSION"), (0x0041, "PID_VENDOR_ID"),
   (0x0043, "PID_MULTICAST_IPADDRESS"), (0x0044, "PID_DEFAULT_UNICAST_PORT"),
   (0x0045, "PID_METATRAFFIC_UNICAST_PORT"), (0x0046, "PID_METATRAFFIC_MULTICAST_PORT"),
   (0x0048, "PID_UNICAST_LOCATOR"), (0x0050, "PID_EXPECTS_INLINE_QOS"),
   (0x0058, "PID_PARTICIPANT_MANUAL_LIVELINESS_COUNT"), (0x0059, "PID_PARTICIPANT_BUILTIN_ENDPOINTS"),
   (0x005A, "PID_ENDPOINT_GUID"), (0x005B, "PID_PARTICIPANT_GUID"),
   (0x005C, "PID_PARTICIPANT_LEASE_DURATION"), (0x005D, "PID_CONTENT_FILTER_PROPERTY"),
   (0x005E, "PID_PARTICIPANT_ENTITY_ID"), (0x0060, "PID_GROUP_GUID"),
   (0x0061, "PID_GROUP_ENTITYID"), (0x0062, "PID_BUILTIN_ENDPOINT_SET"),
   (0x0063, "PID_PROPERTY_LIST"), (0x0071, "PID_TYPE_MAX_SIZE_SERIALIZED"),
   (0x0072, "PID_ENTITY_NAME"), (0x0073, "PID_KEY_HASH"),
   (0x0074, "PID_STATUS_INFO"), (0x0075, "PID_CONTENT_FILTER_INFO"),
   (0x8000, "PID_RELATED_SAMPLE_IDENTITY"), (0x8001, "PID_TOPIC_QUERY_GUID"),
   (0x8002, "PID_DATA_REPRESENTATION"), (0x8003, "PID_TYPE_CONSISTENCY_ENFORCEMENT"),
   (0x8004, "PID_TYPE_INFORMATION"), (0x8005, "PID_TYPE_OBJECT"),
   (0x8007, "PID_DATA_TAGS"), (0x8014, "PID_EXTENDED_BUILTIN_ENDPOINTS"),
   (0x8016, "PID_PRODUCT_VERSION"), (0x8017, "PID_PLUGIN_PROMISCUITY_KIND"),
   (0x8018, "PID_ENTITY_VIRTUAL_GUID"), (0x8019, "PID_SERVICE_INSTANCE_NAME")]

/-- `PID_MAP.get(pid, f"UNKNOWN_0x{pid:04X}")`. -/
def pidName (pid : Nat) : String := (pidMap.lookup pid).getD s!"UNKNOWN_0x{formatHex true 4 pid}"

/-- A parameter's dictionary; `decoded` holds the `decoded` key when it was set. -/
structure Parameter where
  pid : Nat
  name : String
  length : Nat
  value : Bytes
  offset : Nat
  decoded : Option String
  deriving DecidableEq

/-- `'<decode error>'`. -/
def decodeErrorMarker : String := "<decode error>"

/-- The `PID_TOPIC_NAME` and `PID_TYPE_NAME` branches: a 4-byte length prefix, then a
    null-terminated UTF-8 string; any exception gives `'<decode error>'`. -/
def decodeCdrString (paramValue : Bytes) : String :=
  match unpack .little 4 (paramValue.take 4) with
  | .ok strLen => decodeUtf8Ignore (slice paramValue 4 (4 + strLen - 1))
  | .error _ => decodeErrorMarker

/-- `durability_map`. -/
def durabilityMap : List (Nat × String) :=
  [(0, "VOLATILE"), (1, "TRANSIENT_LOCAL"), (2, "TRANSIENT"), (3, "PERSISTENT")]

/-- The `if pid == ...` chain of `parse_cdr_parameter_list`: the `decoded` key, if it is set. -/
def decodeParameterValue (pid : Nat) (paramValue : Bytes) : Except PyError (Option String) :=
  if pid = 0x0003 then pure (some (decodeCdrString paramValue))
  else if pid = 0x0004 then pure (some (decodeCdrString paramValue))
  else if pid = 0x005A then
    pure (if paramValue.length ≥ 16 then some (hexlify (paramValue.take 16)) else none)
  else if pid = 0x001A then
    if paramValue.length ≥ 12 then do
      let kind ← unpack .little 4 (slice paramValue 0 4)
      pure (some (if kind = 1 then "RELIABLE" else "BEST_EFFORT"))
    else pure none
  else if pid = 0x001D then
    if paramValue.length ≥ 4 then do
      let kind ← unpack .little 4 (slice paramValue 0 4)
      pure (some ((durabilityMap.lookup kind).getD s!"UNKNOWN({kind})"))
    else pure none
  else pure none

/-- `(length + 3) & ~3`: clearing the two low bits of a non-negative integer. -/
def alignUp4 (length : Nat) : Nat := (length + 3) >>> 2 <<< 2

/-- The loop of `parse_cdr_parameter_list`, from `offset`. -/
def parseParameters (data : Bytes) (offset : Nat) : Except PyError (List Parameter) :=
  if _h : offset + 4 ≤ data.length then do
    let pid ← unpack .little 2 (slice data offset (offset + 2))
    let length ← unpack .little 2 (slice data (offset + 2) (offset + 4))
    if pid = 0x0001 then return []
    let paramValue :=
      if offset + 4 + length ≤ data.length then slice data (offset + 4) (offset + 4 + length) else []
    let decoded ← decodeParameterValue pid paramValue
    let param : Parameter := ⟨pid, pidName pid, length, paramValue, offset, decoded⟩
    let paddedLength := alignUp4 length
    let rest ← parseParameters data (offset + 4 + paddedLength)
    return param :: rest
  else .ok []
termination_by data.length - offset
decreasing_by omega

/-- `parse_cdr_parameter_list`. -/
def parseCdrParameterList (data : Bytes) : Except PyError (List Parameter) := do
  if data.length < 4 then return []
  let _encapsulation ← unpack .little 2 (slice data 0 2)
  parseParameters data 4

end ValidateSedp
