import ValidateSedp.Native.Bytes
import Mathlib.Data.List.Infix

/-!
# Submessages and entity classification

`parse_submessages` walks the submessages after the RTPS header: a 4-byte header (kind, flags,
little-endian `octetsToNextHeader`) and a body of `octetsToNextHeader` bytes. For a DATA
submessage with a body of at least 20 bytes it also reads the DATA fields and classifies the
writer's entity id with `classify_entity_id`.

The walk is `parseSubmessages`, by well-founded recursion on the bytes left after `offset`:
the Python loop stops at a zero length and otherwise advances by at least 5.
-/

namespace ValidateSedp

/-- `RTPS_SUBMSG_DATA`. -/
def rtpsSubmsgData : UInt8 := 0x15

/-- The roles `classify_entity_id` returns, under the source's strings. -/
inductive EntityType where
  | SPDP
  | SEDP_PUB
  | SEDP_SUB
  | BUILTIN
  | USER
  deriving Repr, DecidableEq

/-- `ENTITY_IDS`: the well-known builtin entity ids and their names (RTPS v2.3 Table 9.1). -/
def entityIds : List (Nat × String) :=
  [(0x000000C0, "ENTITYID_UNKNOWN"),
   (0x000100C2, "ENTITYID_SPDP_BUILTIN_PARTICIPANT_WRITER"),
   (0x000001C1, "ENTITYID_SPDP_BUILTIN_PARTICIPANT_READER"),
   (0x000003C2, "ENTITYID_SEDP_BUILTIN_PUBLICATIONS_WRITER"),
   (0x000004C2, "ENTITYID_SEDP_BUILTIN_PUBLICATIONS_READER"),
   (0x000003C7, "ENTITYID_SEDP_BUILTIN_SUBSCRIPTIONS_WRITER"),
   (0x000004C7, "ENTITYID_SEDP_BUILTIN_SUBSCRIPTIONS_READER"),
   (0x000200C2, "ENTITYID_SEDP_BUILTIN_TOPIC_WRITER"),
   (0x000201C2, "ENTITYID_SEDP_BUILTIN_TOPIC_READER")]

/-- `classify_entity_id`: the role of a known id, found by looking for `SPDP`, `PUBLICATIONS`
    and `SUBSCRIPTIONS` in its name; unknown ids are `USER`. -/
def classifyEntityId (entityId : Nat) : EntityType :=
  match entityIds.lookup entityId with
  | some name =>
    if "SPDP".toList <:+: name.toList then .SPDP
    else if "PUBLICATIONS".toList <:+: name.toList then .SEDP_PUB
    else if "SUBSCRIPTIONS".toList <:+: name.toList then .SEDP_SUB
    else .BUILTIN
  | none => .USER

/-- The keys `parse_submessages` adds to a DATA submessage's dictionary. -/
structure DataFields where
  extraFlags : Nat
  octetsToInlineQos : Nat
  readerId : Nat
  writerId : Nat
  sequenceNumber : Nat
  entityType : EntityType
  payload : Bytes
  deriving DecidableEq

/-- A submessage's dictionary; `dataFields` holds the DATA keys when they were set. -/
structure Submessage where
  id : UInt8
  flags : UInt8
  length : Nat
  data : Bytes
  offset : Nat
  dataFields : Option DataFields
  deriving DecidableEq

/-- The DATA branch of `parse_submessages`, on a body of at least 20 bytes. -/
def parseDataFields (submsgData : Bytes) : Except PyError DataFields := do
  let extraFlags ← unpack .little 2 (slice submsgData 0 2)
  let octetsToInlineQos ← unpack .little 2 (slice submsgData 2 4)
  let readerId ← unpack .big 4 (slice submsgData 4 8)
  let writerId ← unpack .big 4 (slice submsgData 8 12)
  let sequenceNumber ← unpack .little 8 (slice submsgData 12 20)
  let entityType := classifyEntityId writerId
  let qosOffset := octetsToInlineQos
  let payload := if qosOffset ≥ 20 then submsgData.drop qosOffset else submsgData.drop 20
  return ⟨extraFlags, octetsToInlineQos, readerId, writerId, sequenceNumber, entityType, payload⟩

/-- `parse_submessages`: the submessages from `offset` on. -/
def parseSubmessages (data : Bytes) (offset : Nat) : Except PyError (List Submessage) :=
  if _h : offset < data.length then
    if offset + 4 > data.length then .ok []
    else do
      let submsgId ← getItem data offset
      let flags ← getItem data (offset + 1)
      let octetsToNext ← unpack .little 2 (slice data (offset + 2) (offset + 4))
      let submsgData :=
        if octetsToNext > 0 then slice data (offset + 4) (offset + 4 + octetsToNext) else []
      let dataFields ←
        (if submsgId = rtpsSubmsgData ∧ submsgData.length ≥ 20 then some <$> parseDataFields submsgData
          else pure none)
      let submsg : Submessage := ⟨submsgId, flags, octetsToNext, submsgData, offset, dataFields⟩
      if octetsToNext = 0 then return [submsg]
      let rest ← parseSubmessages data (offset + 4 + octetsToNext)
      return submsg :: rest
  else .ok []
termination_by data.length - offset
decreasing_by omega

end ValidateSedp
