import ValidateSedp.Native.Submessage
import ValidateSedp.Native.ParameterList

/-!
# `validate_sedp_packet`

The validator looks at a DATA submessage's dictionary and its parameter list. For an SEDP
publication or subscription it reports each required parameter id that no parameter carries,
each topic or type name that decoded empty or to the `<decode error>` marker, and a warning for
sequence number 0; for any other submessage it reports nothing.

The two name checks of the source differ only in the id and the message, so they are one
definition, `nameIssue`, applied to each pair.
-/

namespace ValidateSedp

/-- `REQUIRED_SEDP_WRITER_PIDS`, in the dictionary's order. -/
def requiredSedpWriterPids : List (Nat × String) :=
  [(0x005A, "PID_ENDPOINT_GUID"), (0x0003, "PID_TOPIC_NAME"), (0x0004, "PID_TYPE_NAME"),
   (0x001A, "PID_RELIABILITY"), (0x001D, "PID_DURABILITY")]

/-- `REQUIRED_SEDP_READER_PIDS`, in the dictionary's order. -/
def requiredSedpReaderPids : List (Nat × String) :=
  [(0x005A, "PID_ENDPOINT_GUID"), (0x0003, "PID_TOPIC_NAME"), (0x0004, "PID_TYPE_NAME"),
   (0x001A, "PID_RELIABILITY"), (0x001D, "PID_DURABILITY")]

/-- The issue for a required id that no parameter carries. -/
def missingPidIssue (reqPid : Nat) (reqName : String) : String :=
  s!"Missing required PID: {reqName} (0x{formatHex true 4 reqPid})"

/-- The loop over `required.items()`: one issue per required id outside `found_pids`. -/
def missingPidIssues (required : List (Nat × String)) (params : List Parameter) : List String :=
  let foundPids := params.map Parameter.pid
  required.filterMap fun (reqPid, reqName) =>
    if reqPid ∈ foundPids then none else some (missingPidIssue reqPid reqName)

/-- `decoded = param.get('decoded', '')`, then `not decoded or decoded == '<decode error>'`;
    a string is falsy exactly when its length is 0. -/
def nameRejected (param : Parameter) : Bool :=
  let decoded := param.decoded.getD ""
  decoded.length == 0 || decoded == decodeErrorMarker

/-- One of the two name checks: `message` for a parameter with id `pid` whose name is rejected. -/
def nameIssue (pid : Nat) (message : String) (param : Parameter) : List String :=
  if param.pid = pid ∧ nameRejected param then [message] else []

/-- The loop over `params`: the `PID_TOPIC_NAME` check, then the `PID_TYPE_NAME` check. -/
def nameIssues (params : List Parameter) : List String :=
  params.flatMap fun param =>
    nameIssue 0x0003 "Empty or invalid TOPIC_NAME" param ++
      nameIssue 0x0004 "Empty or invalid TYPE_NAME" param

/-- The warning for sequence number 0. -/
def seqZeroWarning : String := "Sequence number is 0 (should start from 1 for Reliable QoS)"

/-- `validate_sedp_packet`: the issues and the warnings. The dictionary's `entity_type` and
    `sequence_number` keys are the DATA fields, absent when the submessage has none. -/
def validateSedpPacket (submsg : Submessage) (params : List Parameter) :
    List String × List String :=
  let entityType := submsg.dataFields.map DataFields.entityType
  let required :=
    if entityType = some .SEDP_PUB then some requiredSedpWriterPids
    else if entityType = some .SEDP_SUB then some requiredSedpReaderPids
    else none
  match required with
  | none => ([], [])
  | some required =>
    let seqNum := (submsg.dataFields.map DataFields.sequenceNumber).getD 0
    (missingPidIssues required params ++ nameIssues params,
      if seqNum = 0 then [seqZeroWarning] else [])

end ValidateSedp
