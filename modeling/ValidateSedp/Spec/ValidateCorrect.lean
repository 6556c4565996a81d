import ValidateSedp.Native.Validate
import ValidateSedp.Spec.SubmessageCorrect
import ValidateSedp.Spec.ParameterListCorrect

/-!
# `validate_sedp_packet` correctness

`sedpVerdict` is the verdict on an SEDP announcement read off the bytes alone: the required ids
that no parameter carries, the topic and type name values the validator does not accept
(`nameAccepted`, a condition on the value's bytes), and the sequence-number bytes. The validator
reads the `decoded` keys and the DATA fields instead; for the records the walker returns and the
parameters the parameter-list decoder returns, those are functions of the same bytes.

## Key results

- `validateSedpPacket_sedp`: on every SEDP DATA record of the walker and every parsed parameter
  list, the validator returns `sedpVerdict`; the publication and subscription tables agree.
- `validateSedpPacket_exact`: where the declared names fit their values, the validator reports
  exactly the missing required ids and the names that are not well-formed non-empty CDR strings
  or read as the marker; `validateSedpPacket_markerTopic` is a well-formed name it reports.
-/

namespace ValidateSedp

/-! ### Names -/

/-- A name value the validator accepts: it holds a length prefix, and its text is neither empty
    nor the `<decode error>` marker. -/
def nameAccepted (v : Bytes) : Prop :=
  4 ≤ v.length ∧ cdrStringText v ≠ [] ∧ String.mk (cdrStringText v) ≠ decodeErrorMarker

/-- Whether a name is accepted can be evaluated. -/
instance : DecidablePred nameAccepted := fun _ => inferInstanceAs (Decidable (_ ∧ _ ∧ _))

/-- An accepted name declares a length of at least 2: a declared length of 0 or 1 leaves no
    text. -/
theorem two_le_of_nameAccepted {v : Bytes} (h : nameAccepted v) : 2 ≤ readUInt .little v 0 4 := by
  refine Nat.not_lt.1 fun hn => h.2.1 ?_
  simp only [cdrStringText, slice, show 4 + readUInt .little v 0 4 - 1 - 4 = 0 by omega,
    List.take_zero]
  rfl

/-- On a name whose `decoded` key is the decoder's, the validator's test is `nameAccepted`. -/
theorem nameRejected_iff {q : Parameter} (hname : q.pid = 0x0003 ∨ q.pid = 0x0004)
    (hdec : q.decoded = decodedOf q.pid q.value) :
    nameRejected q = true ↔ ¬ nameAccepted q.value := by
  rw [nameRejected, hdec, decodedOf_name _ hname]
  by_cases h : 4 ≤ q.value.length
  · simp [decodeCdrString_of_le h, nameAccepted, h, or_iff_not_imp_left]
  · simp [decodeCdrString_short (Nat.not_le.1 h), nameAccepted, h, decodeErrorMarker]

/-! ### The verdict -/

section Verdict

variable (accepted : Bytes → Prop) [DecidablePred accepted]

/-- A name check of a verdict, for a test `accepted` of name values: `message` for a parameter
    with id `pid` whose value fails it. -/
def nameCheck (pid : Nat) (message : String) (q : Parameter) : List String :=
  if q.pid = pid ∧ ¬ accepted q.value then [message] else []

/-- The issues of an SEDP announcement with parameters `params`, read off the bytes: one for each
    required id that no parameter carries, in the table's order, then one for each topic or type
    name whose value fails `accepted`, in the list's order. -/
def sedpIssues (params : List Parameter) : List String :=
  (requiredSedpWriterPids.filter fun req => req.1 ∉ params.map Parameter.pid).map
      (fun req => missingPidIssue req.1 req.2) ++
    params.flatMap fun q => nameCheck accepted 0x0003 "Empty or invalid TOPIC_NAME" q ++
      nameCheck accepted 0x0004 "Empty or invalid TYPE_NAME" q

end Verdict

/-- Two tests that agree on the name values of `params` give the same issues. -/
theorem sedpIssues_congr {accepted accepted' : Bytes → Prop} [DecidablePred accepted]
    [DecidablePred accepted'] {params : List Parameter}
    (h : ∀ q ∈ params, q.pid = 0x0003 ∨ q.pid = 0x0004 → (accepted q.value ↔ accepted' q.value)) :
    sedpIssues accepted params = sedpIssues accepted' params := by
  refine congrArg _ (List.flatMap_congr fun q hq => ?_)
  by_cases h3 : q.pid = 0x0003
  · simp [nameCheck, h3, h q hq (.inl h3)]
  by_cases h4 : q.pid = 0x0004
  · simp [nameCheck, h4, h q hq (.inr h4)]
  simp [nameCheck, h3, h4]

/-- On a parameter the decoder returns, the source's name check is `nameCheck` with `nameAccepted`. -/
theorem nameIssue_eq {q : Parameter} (hdec : q.decoded = decodedOf q.pid q.value) {pid : Nat}
    (hpid : pid = 0x0003 ∨ pid = 0x0004) (message : String) :
    nameIssue pid message q = nameCheck nameAccepted pid message q := by
  by_cases hq : q.pid = pid
  · subst hq
    simp only [nameIssue, nameCheck, true_and, ← nameRejected_iff hpid hdec]
  · simp [nameIssue, nameCheck, hq]

/-- The verdict on an SEDP announcement with DATA body `body`: its issues, and the warning
    exactly when the eight sequence-number bytes of the body are all zero. -/
def sedpVerdict (body : Bytes) (params : List Parameter) : List String × List String :=
  (sedpIssues nameAccepted params, if ∀ b ∈ slice body 12 20, b = 0 then [seqZeroWarning] else [])

/-- Publications and subscriptions require the same ids. -/
theorem requiredSedpReaderPids_eq : requiredSedpReaderPids = requiredSedpWriterPids := rfl

/-- One issue per required id that no parameter carries, in the order of the requirements. -/
theorem missingPidIssues_eq (required : List (Nat × String)) (params : List Parameter) :
    missingPidIssues required params =
      (required.filter fun req => req.1 ∉ params.map Parameter.pid).map
        (fun req => missingPidIssue req.1 req.2) := by
  induction required with
  | nil => rfl
  | cons req required ih =>
    by_cases h : req.1 ∈ params.map Parameter.pid
    · rw [List.filter_cons_of_neg (by simpa using h), ← ih]
      simp only [missingPidIssues, List.filterMap_cons, if_pos h]
    · rw [List.filter_cons_of_pos (by simpa using h), List.map_cons, ← ih]
      simp only [missingPidIssues, List.filterMap_cons, if_neg h]

/-- The sequence number is 0 exactly when its eight bytes are. -/
theorem sequenceNumber_eq_zero_iff (body : Bytes) :
    (DataFields.ofBody body).sequenceNumber = 0 ↔ ∀ b ∈ slice body 12 20, b = 0 :=
  decodeLE_eq_zero_iff _

/-- For an SEDP endpoint's DATA fields the validator checks the parameters against the writer
    table and warns on sequence number 0. -/
theorem validateSedpPacket_of_sedp {r : Submessage} {df : DataFields} (hdf : r.dataFields = some df)
    (hrole : df.entityType = .SEDP_PUB ∨ df.entityType = .SEDP_SUB) (params : List Parameter) :
    validateSedpPacket r params =
      (missingPidIssues requiredSedpWriterPids params ++ nameIssues params,
        if df.sequenceNumber = 0 then [seqZeroWarning] else []) := by
  rcases hrole with h | h <;> simp [validateSedpPacket, hdf, h, requiredSedpReaderPids_eq]

/-- Any other submessage gets no issue and no warning. -/
theorem validateSedpPacket_of_not_sedp {r : Submessage}
    (h : ∀ df ∈ r.dataFields, df.entityType ≠ .SEDP_PUB ∧ df.entityType ≠ .SEDP_SUB)
    (params : List Parameter) : validateSedpPacket r params = ([], []) := by
  cases hdf : r.dataFields with
  | none => simp [validateSedpPacket, hdf]
  | some df => simp [validateSedpPacket, hdf, (h df hdf).1, (h df hdf).2]

/-- On every SEDP DATA record the walker returns and every parameter list the decoder returns,
    the validator's verdict is `sedpVerdict` of the record's data. -/
theorem validateSedpPacket_sedp {data : Bytes} {offset : Nat} {subs : List Submessage}
    (hsubs : parseSubmessages data offset = .ok subs) {r : Submessage} (hr : r ∈ subs)
    {df : DataFields} (hdf : r.dataFields = some df)
    (hrole : df.entityType = .SEDP_PUB ∨ df.entityType = .SEDP_SUB)
    {p : Bytes} {params : List Parameter} (hparams : parseCdrParameterList p = .ok params) :
    validateSedpPacket r params = sedpVerdict r.data params := by
  have hbody := dataFields_of_mem hsubs hr hdf
  have hnames : nameIssues params = params.flatMap fun q =>
      nameCheck nameAccepted 0x0003 "Empty or invalid TOPIC_NAME" q ++
        nameCheck nameAccepted 0x0004 "Empty or invalid TYPE_NAME" q :=
    List.flatMap_congr fun q hq => by
      rw [nameIssue_eq (decoded_of_mem hparams hq) (.inl rfl),
        nameIssue_eq (decoded_of_mem hparams hq) (.inr rfl)]
  rw [validateSedpPacket_of_sedp hdf hrole, sedpVerdict, sedpIssues, missingPidIssues_eq, hnames,
    hbody]
  simp only [sequenceNumber_eq_zero_iff]

/-! ### The verdict in terms of well-formed CDR strings -/

/-- A name value holding a well-formed non-empty CDR string: a length prefix `n` with
    `2 ≤ n ≤ |v| - 4` (room for `n - 1` bytes of text and the terminating zero) and a non-empty
    text. -/
def cdrNameWellFormed (v : Bytes) : Prop :=
  4 ≤ v.length ∧ 2 ≤ readUInt .little v 0 4 ∧ readUInt .little v 0 4 ≤ v.length - 4 ∧
    cdrStringText v ≠ []

/-- Whether a name is well formed can be evaluated. -/
instance : DecidablePred cdrNameWellFormed := fun _ =>
  inferInstanceAs (Decidable (_ ∧ _ ∧ _ ∧ _))

/-- Where the declared string fits its value, the validator accepts exactly the well-formed
    non-empty strings whose text is not the marker. -/
theorem nameAccepted_iff {v : Bytes}
    (hfit : 4 ≤ v.length → readUInt .little v 0 4 ≤ v.length - 4) :
    nameAccepted v ↔ cdrNameWellFormed v ∧ String.mk (cdrStringText v) ≠ decodeErrorMarker :=
  ⟨fun h => ⟨⟨h.1, two_le_of_nameAccepted h, hfit h.1, h.2.1⟩, h.2.2⟩,
    fun ⟨⟨h4, _, _, hne⟩, hm⟩ => ⟨h4, hne, hm⟩⟩

/-- On every DATA record the walker returns and every parameter list the decoder returns whose
    topic and type names fit their values, the validator reports, for an SEDP role, the missing
    required ids and each name that is not a well-formed non-empty CDR string or whose text is
    the marker, and warns exactly on zero sequence-number bytes; for any other role it reports
    nothing. -/
theorem validateSedpPacket_exact {data : Bytes} {offset : Nat} {subs : List Submessage}
    (hsubs : parseSubmessages data offset = .ok subs) {r : Submessage} (hr : r ∈ subs)
    {p : Bytes} {params : List Parameter} (hparams : parseCdrParameterList p = .ok params)
    (hfit : ∀ q ∈ params, q.pid = 0x0003 ∨ q.pid = 0x0004 → 4 ≤ q.value.length →
      readUInt .little q.value 0 4 ≤ q.value.length - 4) :
    validateSedpPacket r params =
      if r.dataFields.map DataFields.entityType ∈ [some .SEDP_PUB, some .SEDP_SUB] then
        (sedpIssues (fun v => cdrNameWellFormed v ∧
            String.mk (cdrStringText v) ≠ decodeErrorMarker) params,
          if ∀ b ∈ slice r.data 12 20, b = 0 then [seqZeroWarning] else [])
      else ([], []) := by
  by_cases hsedp : r.dataFields.map DataFields.entityType ∈ [some .SEDP_PUB, some .SEDP_SUB]
  · obtain ⟨df, hdf, hrole⟩ : ∃ df, r.dataFields = some df ∧
        (df.entityType = .SEDP_PUB ∨ df.entityType = .SEDP_SUB) := by
      cases hdf : r.dataFields with
      | none => simp [hdf] at hsedp
      | some df => exact ⟨df, rfl, by simpa [hdf] using hsedp⟩
    rw [if_pos hsedp, validateSedpPacket_sedp hsubs hr hdf hrole hparams, sedpVerdict]
    exact Prod.ext (sedpIssues_congr fun q hq hpid => nameAccepted_iff (hfit q hq hpid)) rfl
  · rw [if_neg hsedp]
    exact validateSedpPacket_of_not_sedp (fun df hdf => by simp_all) params

/-! ### A topic name that reads `<decode error>` -/

/-- One DATA submessage from the SEDP publications writer (`0x000003C2`) with sequence number 1
    and no payload. -/
def sedpPubData : Bytes :=
  [0x15, 0x00, 0x14, 0x00] ++ [0x00, 0x00, 0x10, 0x00] ++ [0x00, 0x00, 0x03, 0xc7] ++
    [0x00, 0x00, 0x03, 0xc2] ++ [0x01, 0x00, 0x00, 0x00, 0x00, 0x00, 0x00, 0x00]

/-- The walker reads `sedpPubData` as one record. -/
theorem parseSubmessages_sedpPubData :
    parseSubmessages sedpPubData 0 = .ok [Submessage.read sedpPubData 0] := by
  rw [parseSubmessages_next (by decide) (by decide), parseSubmessages_end (by decide)]
  rfl

/-- A `PID_TOPIC_NAME` value holding the well-formed string `"<decode error>"` (length 15 with
    its terminating zero), padded by one byte. -/
def markerTopic : ParamFrame :=
  ⟨0x0003, encodeUInt .little 4 15 ++ decodeErrorMarker.toUTF8.data.toList ++ [0], [0],
    by decide, by decide, by decide, by decide⟩

/-- A parameter list that holds only `markerTopic`. -/
def markerTopicList : Bytes := [0x00, 0x03, 0x00, 0x00] ++ markerTopic.encode

/-- `markerTopicList` reads as the record of `markerTopic`. -/
theorem parseCdrParameterList_markerTopicList :
    parseCdrParameterList markerTopicList = .ok (ParamFrame.records 4 [markerTopic]) := by
  rw [parseCdrParameterList_of_le (by decide)]
  exact parseParameters_encode [0x00, 0x03, 0x00, 0x00] [markerTopic] .atEnd

/-- The amended verdict on `sedpPubData` with `markerTopicList`. -/
theorem validateSedpPacket_exact_markerTopic :
    parseSubmessages sedpPubData 0 = .ok [Submessage.read sedpPubData 0] ∧
      Submessage.read sedpPubData 0 ∈ [Submessage.read sedpPubData 0] ∧
      parseCdrParameterList markerTopicList = .ok (ParamFrame.records 4 [markerTopic]) ∧
      (∀ q ∈ ParamFrame.records 4 [markerTopic], q.pid = 0x0003 ∨ q.pid = 0x0004 →
        4 ≤ q.value.length → readUInt .little q.value 0 4 ≤ q.value.length - 4) ∧
      validateSedpPacket (Submessage.read sedpPubData 0) (ParamFrame.records 4 [markerTopic]) =
        if (Submessage.read sedpPubData 0).dataFields.map DataFields.entityType ∈
            [some .SEDP_PUB, some .SEDP_SUB] then
          (sedpIssues (fun v => cdrNameWellFormed v ∧
              String.mk (cdrStringText v) ≠ decodeErrorMarker) (ParamFrame.records 4 [markerTopic]),
            if ∀ b ∈ slice (Submessage.read sedpPubData 0).data 12 20, b = 0 then [seqZeroWarning]
            else [])
        else ([], []) := by
  have hfit : ∀ q ∈ ParamFrame.records 4 [markerTopic], q.pid = 0x0003 ∨ q.pid = 0x0004 →
      4 ≤ q.value.length → readUInt .little q.value 0 4 ≤ q.value.length - 4 := by decide
  exact ⟨parseSubmessages_sedpPubData, .head _, parseCdrParameterList_markerTopicList, hfit,
    validateSedpPacket_exact parseSubmessages_sedpPubData (.head _)
      parseCdrParameterList_markerTopicList hfit⟩

/-- `markerTopic` is a well-formed non-empty CDR string, yet the SEDP announcement with it as its
    only parameter gets a name issue besides the four missing ids. -/
theorem validateSedpPacket_markerTopic :
    cdrNameWellFormed markerTopic.value ∧
      ((parseSubmessages sedpPubData 0).bind fun subs =>
        (parseCdrParameterList markerTopicList).map fun params =>
          subs.map fun r => validateSedpPacket r params) =
        .ok [(["Missing required PID: PID_ENDPOINT_GUID (0x005A)",
          "Missing required PID: PID_TYPE_NAME (0x0004)",
          "Missing required PID: PID_RELIABILITY (0x001A)",
          "Missing required PID: PID_DURABILITY (0x001D)",
          "Empty or invalid TOPIC_NAME"], [])] := by
  refine ⟨by decide, ?_⟩
  rw [parseSubmessages_sedpPubData, parseCdrParameterList_markerTopicList]
  exact congrArg Except.ok (by decide)

end ValidateSedp
