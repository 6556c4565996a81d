import ValidateSedp.Spec.AnalyzePacketwise

/-!
# Cut input

A capture that is still being written ends at an arbitrary byte, and a capture taken with a snap
length keeps only the first bytes of each frame. Each layer of the tool reads the first `m`
bytes of its input as it reads the whole input up to the place where the cut falls: the records
before the cut are read the same, nothing is read after it, and only the record the cut falls in
can differ. Each result below is proved from the one-step lemmas of its loop, by induction on
the bytes left.

## Key results

- `analyzePcap_take`: analysing a capture cut anywhere past its global header shows a prefix of
  the SEDP reports of the whole capture, and counters no larger (`readPcap_take`: its packets are
  a prefix of the whole capture's).
- `decapsulate_take`: the front end accepts a cut frame only if it accepts the whole frame, and
  the submessages walked in the cut frame are those of the whole frame up to the cut, the last
  one with its body cut (`frontEnd_take`, `parseSubmessages_take`).
- `parseCdrParameterList_take`: a cut parameter list reads as the whole list's parameters up to
  the cut, the parameter whose value the cut falls in recorded without its value.
-/

namespace ValidateSedp

/-! ### A cut capture -/

/-- The record loop over the first `m` bytes of `rest` reads a prefix of what it reads over all
    of `rest`: a record that ends before the cut reads the same, and the loop stops at the record
    the cut falls in. -/
theorem readPackets_take (e : Endian) (n : Nat) (rest : Bytes) (m : Nat) {r : PcapRead}
    (h : readPackets e n rest = .ok r) :
    ∃ r', readPackets e n (rest.take m) = .ok r' ∧ r'.packets <+: r.packets := by
  obtain ⟨k, hk⟩ : ∃ k, rest.length = k := ⟨_, rfl⟩
  induction k using Nat.strong_induction_on generalizing n rest m r with
  | _ k ih =>
  by_cases hs : (rest.take m).length < 16
  · exact ⟨_, readPackets_short hs, List.nil_prefix⟩
  have hlen : (rest.take m).length = min m rest.length := List.length_take _ _
  have hinc : readUInt e (rest.take m) 8 4 = readUInt e rest 8 4 := readUInt_take e rest (by omega)
  by_cases ht : (rest.take m).length < 16 + readUInt e rest 8 4
  · exact ⟨_, readPackets_truncated (by omega) (by rw [hinc]; exact ht), List.nil_prefix⟩
  -- the record ends before the cut
  generalize hl : readUInt e rest 8 4 = len at hinc ht
  obtain ⟨t, htail⟩ := readPackets_ok e (n + 1) (rest.drop (16 + len))
  rw [readPackets_record (show 16 + readUInt e rest 8 4 ≤ rest.length by omega), hl, htail] at h
  cases Except.ok.inj h
  obtain ⟨t', ht', hpre⟩ := ih _ (by rw [← hk, List.length_drop]; omega) (n + 1)
    (rest.drop (16 + len)) (m - (16 + len)) htail rfl
  refine ⟨{ t' with packets := _ :: t'.packets }, ?_, (List.prefix_cons_inj _).2 hpre⟩
  rw [readPackets_record (by rw [hinc]; omega), hinc, List.drop_take, List.drop_take, ht',
    readUInt_take e rest (show 0 + 4 ≤ m by omega), readUInt_take e rest (show 4 + 4 ≤ m by omega),
    List.take_take, Nat.min_eq_left (by omega)]
  rfl

/-- A capture cut anywhere past its global header reads as a prefix of the packets of the whole
    capture. -/
theorem readPcap_take {file : Bytes} {read : PcapRead} (h : readPcap file = .ok read) {n : Nat}
    (hn : 24 ≤ n) : ∃ read', readPcap (file.take n) = .ok read' ∧ read'.packets <+: read.packets := by
  have h24 : 24 ≤ file.length := by
    by_contra hlt
    rw [readPcap_short (by omega)] at h
    cases h
  have h24' : 24 ≤ (file.take n).length := by simp only [List.length_take]; omega
  have hmagic : readUInt .little (file.take n) 0 4 = readUInt .little file 0 4 :=
    readUInt_take _ _ (by omega)
  by_cases h1 : readUInt .little file 0 4 = 0xa1b2c3d4
  · rw [readPcap_little h24 h1] at h
    rw [readPcap_little h24' (hmagic ▸ h1), List.drop_take]
    exact readPackets_take _ _ _ _ h
  by_cases h2 : readUInt .little file 0 4 = 0xd4c3b2a1
  · rw [readPcap_big h24 h2] at h
    rw [readPcap_big h24' (hmagic ▸ h2), List.drop_take]
    exact readPackets_take _ _ _ _ h
  · rw [readPcap_bad_magic h24 h1 h2] at h
    cases h

/-- Analysing a capture cut anywhere past its global header shows the beginning of what
    analysing the whole capture shows: no more packets, a prefix of the SEDP reports, and
    counters no larger. -/
theorem analyzePcap_take {file : Bytes} {rep : Report} (h : analyzePcap file = .ok rep) {n : Nat}
    (hn : 24 ≤ n) :
    ∃ rep', analyzePcap (file.take n) = .ok rep' ∧ rep'.totalPackets ≤ rep.totalPackets ∧
      rep'.analysis.reports <+: rep.analysis.reports ∧
      rep'.analysis.rtpsCount ≤ rep.analysis.rtpsCount ∧
      rep'.analysis.spdpCount ≤ rep.analysis.spdpCount ∧
      rep'.analysis.sedpCount ≤ rep.analysis.sedpCount := by
  cases hr : readPcap file with
  | error err => simp [analyzePcap, hr] at h
  | ok read =>
    rw [analyzePcap_of_readPcap hr, foldlM_analyzePacket_eq] at h
    cases Except.ok.inj h
    obtain ⟨read', hr', more, hmore⟩ := readPcap_take hr hn
    refine ⟨_, by rw [analyzePcap_of_readPcap hr', foldlM_analyzePacket_eq]; rfl, ?_⟩
    simp only [← hmore, List.length_append, List.map_append, Analysis.concat_append,
      Analysis.empty_merge, Analysis.merge_reports, Analysis.merge_rtpsCount,
      Analysis.merge_spdpCount, Analysis.merge_sedpCount]
    exact ⟨Nat.le_add_right _ _, List.prefix_append _ _, Nat.le_add_right _ _,
      Nat.le_add_right _ _, Nat.le_add_right _ _⟩

/-- The two-frame capture cut 30 bytes into its second record, inside the frame. -/
theorem analyzePcap_take_sedpCapture :
    analyzePcap sedpCapture = .ok sedpCaptureReport ∧
      24 ≤ 24 + (sedpPubCapture.toPcapFrame.encode .little).length + 30 ∧
      ∃ rep', analyzePcap (sedpCapture.take
          (24 + (sedpPubCapture.toPcapFrame.encode .little).length + 30)) = .ok rep' ∧
        rep'.totalPackets ≤ sedpCaptureReport.totalPackets ∧
        rep'.analysis.reports <+: sedpCaptureReport.analysis.reports ∧
        rep'.analysis.rtpsCount ≤ sedpCaptureReport.analysis.rtpsCount ∧
        rep'.analysis.spdpCount ≤ sedpCaptureReport.analysis.spdpCount ∧
        rep'.analysis.sedpCount ≤ sedpCaptureReport.analysis.sedpCount :=
  ⟨analyzePcap_sedpCapture, by omega, analyzePcap_take analyzePcap_sedpCapture (by omega)⟩

/-! ### A cut frame -/

/-- The record `s` with its body cut to its first `j` bytes: what `parse_submessages` makes of
    the same header when the buffer ends `j` bytes into the body. -/
def Submessage.cut (s : Submessage) (j : Nat) : Submessage :=
  Submessage.ofBody s.id s.flags s.length (s.data.take j) s.offset

/-- A header before the cut reads the same record, with its body cut where the buffer ends. -/
theorem Submessage.read_take (data : Bytes) {offset m : Nat} (h : offset + 4 ≤ m) :
    Submessage.read (data.take m) offset = (Submessage.read data offset).cut (m - (offset + 4)) := by
  simp only [Submessage.read, byteAt_take data (show offset < m by omega),
    byteAt_take data (show offset + 1 < m by omega),
    readUInt_take .little data (show offset + 2 + 2 ≤ m by omega), slice_take_eq_take]
  rfl

/-- A record whose body ends before the cut reads the same. -/
theorem Submessage.read_take_of_le (data : Bytes) {offset m : Nat}
    (h : offset + 4 + (Submessage.read data offset).length ≤ m) :
    Submessage.read (data.take m) offset = Submessage.read data offset := by
  have hlen : (Submessage.read data offset).length = readUInt .little data (offset + 2) 2 := rfl
  simp only [Submessage.read, byteAt_take data (show offset < m by omega),
    byteAt_take data (show offset + 1 < m by omega),
    readUInt_take .little data (show offset + 2 + 2 ≤ m by omega),
    slice_take data (show offset + 4 + readUInt .little data (offset + 2) 2 ≤ m by omega)]

/-- The walk over a cut buffer reads the whole buffer's records up to the cut: a prefix of them,
    or a prefix followed by the record the cut falls in, with its body cut. -/
theorem parseSubmessages_take {data : Bytes} {offset : Nat} {subs : List Submessage}
    (h : parseSubmessages data offset = .ok subs) (m : Nat) :
    ∃ subs', parseSubmessages (data.take m) offset = .ok subs' ∧
      (subs' <+: subs ∨ ∃ pre s post j, subs = pre ++ s :: post ∧ subs' = pre ++ [s.cut j]) := by
  obtain ⟨k, hk⟩ : ∃ k, data.length - offset = k := ⟨_, rfl⟩
  induction k using Nat.strong_induction_on generalizing offset subs with
  | _ k ih =>
  have hlen : (data.take m).length = min m data.length := List.length_take _ _
  by_cases hcut : (data.take m).length < offset + 4
  · exact ⟨_, parseSubmessages_end hcut, .inl List.nil_prefix⟩
  have hin : offset + 4 ≤ data.length := by omega
  have hread := Submessage.read_take data (show offset + 4 ≤ m by omega)
  by_cases hz : (Submessage.read data offset).length = 0
  · -- a last record: the cut reads it with its body cut
    rw [parseSubmessages_last hin hz] at h
    cases Except.ok.inj h
    exact ⟨_, parseSubmessages_last (by omega) (by rw [hread]; exact hz),
      .inr ⟨[], _, [], _, rfl, by rw [hread]; rfl⟩⟩
  obtain ⟨rest, hrest⟩ := parseSubmessages_ok data (offset + 4 + (Submessage.read data offset).length)
  rw [parseSubmessages_next hin hz, hrest] at h
  cases Except.ok.inj h
  rw [parseSubmessages_next (by omega) (by rw [hread]; exact hz)]
  by_cases hwhole : offset + 4 + (Submessage.read data offset).length ≤ m
  · -- the record ends before the cut: the walk goes on over the same tail
    rw [Submessage.read_take_of_le data hwhole]
    obtain ⟨rest', hrest', hcases⟩ := ih _ (by omega) hrest rfl
    refine ⟨_, by rw [hrest']; rfl, ?_⟩
    rcases hcases with hpre | ⟨pre, s, post, j, rfl, rfl⟩
    · exact .inl ((List.prefix_cons_inj _).2 hpre)
    · exact .inr ⟨_ :: pre, s, post, j, rfl, rfl⟩
  · -- the cut falls in the body: this record is the last one read
    rw [parseSubmessages_end (by rw [hread]; simp only [Submessage.cut, Submessage.ofBody_length]; omega),
      hread]
    exact ⟨_, rfl, .inr ⟨[], _, rest, _, rfl, rfl⟩⟩

/-- The front end accepts a cut frame only if it accepts the whole frame, and then extracts the
    same fields from it, with the RTPS message cut where the frame ends. -/
theorem frontEnd_take {frame : Bytes} {m : Nat} (hok : FrontEndOk (frame.take m)) :
    FrontEndOk frame ∧ frontEndFields (frame.take m) =
      ({ Prod.fst (frontEndFields frame) with
          payload := (frontEndFields frame).1.payload.take (m - (14 + ihlOf (frame.drop 14) + 8)) },
        (frontEndFields frame).2) := by
  obtain ⟨heth, htype, hipLen, hver, hproto, hudp, hrtpsLen, hmagic⟩ := hok
  have hip : (frame.take m).drop 14 = (frame.drop 14).take (m - 14) := List.drop_take _ _ _
  rw [hip] at hipLen hver hproto hudp hrtpsLen hmagic
  simp only [List.length_take, Nat.le_min] at heth hipLen
  have hihl : ihlOf ((frame.drop 14).take (m - 14)) = ihlOf (frame.drop 14) := by
    rw [ihlOf, byteAt_take _ (show 0 < m - 14 by omega), ihlOf]
  rw [hihl] at hudp hrtpsLen hmagic
  generalize hl : ihlOf (frame.drop 14) = ihl at hihl hudp hrtpsLen hmagic
  have hu : ((frame.drop 14).take (m - 14)).drop (ihl + 8) =
      ((frame.drop 14).drop (ihl + 8)).take (m - (14 + ihl + 8)) := by
    rw [List.drop_take, show m - 14 - (ihl + 8) = m - (14 + ihl + 8) by omega]
  rw [hu] at hrtpsLen hmagic
  simp only [List.length_take, Nat.le_min] at hudp hrtpsLen
  rw [slice_take _ (show 4 ≤ m - (14 + ihl + 8) by omega)] at hmagic
  refine ⟨⟨heth.2, by rwa [readUInt_take _ _ (show 12 + 2 ≤ m by omega)] at htype, hipLen.2,
    by rwa [byteAt_take _ (show 0 < m - 14 by omega)] at hver,
    by rwa [byteAt_take _ (show 9 < m - 14 by omega)] at hproto,
    hl ▸ hudp.2, hl ▸ hrtpsLen.2, hl ▸ hmagic⟩, ?_⟩
  simp only [frontEndFields, hip, hihl, hl, hu, slice_take _ (show 16 ≤ m - 14 by omega),
    slice_take _ (show 20 ≤ m - 14 by omega),
    readUInt_take _ _ (show ihl + 2 ≤ m - 14 by omega),
    readUInt_take _ _ (show ihl + 2 + 2 ≤ m - 14 by omega),
    byteAt_take _ (show 4 < m - (14 + ihl + 8) by omega),
    byteAt_take _ (show 5 < m - (14 + ihl + 8) by omega),
    readUInt_take _ _ (show 6 + 2 ≤ m - (14 + ihl + 8) by omega),
    slice_take _ (show 20 ≤ m - (14 + ihl + 8) by omega)]

/-- Cutting a frame to its first `m` bytes, as a snap length does, never makes the tool walk a
    submessage the whole frame does not have. Either the front end skips the cut frame, or it
    accepts the whole frame too, and on the cut frame returns the same RTPS header and the same
    datagram with its payload cut where the frame ends; the submessages walked in the cut payload
    are the whole payload's up to the cut, the one the cut falls in with its body cut. -/
theorem decapsulate_take (frame : Bytes) (m : Nat) :
    decapsulate (frame.take m) = .ok none ∨
      ∃ udp rtps subs subs', decapsulate frame = .ok (some (udp, rtps)) ∧
        decapsulate (frame.take m) = .ok (some ({ udp with
          payload := udp.payload.take (m - (14 + ihlOf (frame.drop 14) + 8)) }, rtps)) ∧
        parseSubmessages udp.payload rtps.submessagesOffset = .ok subs ∧
        parseSubmessages (udp.payload.take (m - (14 + ihlOf (frame.drop 14) + 8)))
          rtps.submessagesOffset = .ok subs' ∧
        (subs' <+: subs ∨ ∃ pre s post j, subs = pre ++ s :: post ∧ subs' = pre ++ [s.cut j]) := by
  rw [decapsulate_eq (frame.take m)]
  by_cases hok : FrontEndOk (frame.take m)
  · obtain ⟨hfull, hfields⟩ := frontEnd_take hok
    obtain ⟨subs, hsubs⟩ := parseSubmessages_ok (frontEndFields frame).1.payload
      (frontEndFields frame).2.submessagesOffset
    obtain ⟨subs', hsubs', hcases⟩ := parseSubmessages_take hsubs
      (m - (14 + ihlOf (frame.drop 14) + 8))
    refine .inr ⟨_, _, subs, subs', by rw [decapsulate_eq, if_pos hfull], ?_, hsubs, hsubs', hcases⟩
    rw [if_pos hok, hfields]
  · exact .inl (by rw [if_neg hok])

/-! ### A cut parameter list -/

/-- The record of a parameter whose value the end of the buffer cuts: `param_value` is empty,
    and so is what is decoded from it. -/
def Parameter.withoutValue (p : Parameter) : Parameter :=
  { p with value := [], decoded := decodedOf p.pid [] }

/-- A parameter header before the cut reads the same record if its value ends before the cut,
    and the record without its value otherwise. -/
theorem Parameter.read_take (data : Bytes) {offset m : Nat} (h : offset + 4 ≤ m) :
    Parameter.read (data.take m) offset =
      if offset + 4 + (Parameter.read data offset).length ≤ m then Parameter.read data offset
      else (Parameter.read data offset).withoutValue := by
  have hpid := readUInt_take .little data (show offset + 2 ≤ m by omega)
  have hlen := readUInt_take .little data (show offset + 2 + 2 ≤ m by omega)
  have hval : paramValueAt (data.take m) offset (readUInt .little data (offset + 2) 2) =
      if offset + 4 + readUInt .little data (offset + 2) 2 ≤ m then
        paramValueAt data offset (readUInt .little data (offset + 2) 2) else [] := by
    unfold paramValueAt
    by_cases hm : offset + 4 + readUInt .little data (offset + 2) 2 ≤ m
    · simp only [if_pos hm, List.length_take, Nat.le_min, hm, true_and, slice_take _ hm, if_true]
    · rw [if_neg hm, if_neg (by simp only [List.length_take, Nat.le_min]; omega)]
  simp only [Parameter.read, hpid, hlen, hval]
  split_ifs <;> rfl

/-- The walk over a cut buffer reads the whole buffer's parameters up to the cut: a prefix of
    them, or a prefix followed by the parameter whose value the cut falls in, without its value. -/
theorem parseParameters_take {data : Bytes} {offset : Nat} {params : List Parameter}
    (h : parseParameters data offset = .ok params) (m : Nat) :
    ∃ params', parseParameters (data.take m) offset = .ok params' ∧
      (params' <+: params ∨
        ∃ pre p post, params = pre ++ p :: post ∧ params' = pre ++ [p.withoutValue]) := by
  obtain ⟨k, hk⟩ : ∃ k, data.length - offset = k := ⟨_, rfl⟩
  induction k using Nat.strong_induction_on generalizing offset params with
  | _ k ih =>
  have hlen : (data.take m).length = min m data.length := List.length_take _ _
  by_cases hcut : (data.take m).length < offset + 4
  · exact ⟨_, parseParameters_end hcut, .inl List.nil_prefix⟩
  have hin : offset + 4 ≤ data.length := by omega
  have hpid := readUInt_take .little data (show offset + 2 ≤ m by omega)
  by_cases hs : readUInt .little data offset 2 = 0x0001
  · rw [parseParameters_sentinel hin hs] at h
    cases Except.ok.inj h
    exact ⟨_, parseParameters_sentinel (by omega) (hpid ▸ hs), .inl List.nil_prefix⟩
  obtain ⟨rest, hrest, -⟩ := parseParameters_walk data (offset + 4 +
    pad4 (Parameter.read data offset).length)
  rw [parseParameters_next hin hs, hrest] at h
  cases Except.ok.inj h
  have hpad := (pad4_spec (Parameter.read data offset).length).1
  rw [parseParameters_next (by omega) (hpid ▸ hs), Parameter.read_take data (by omega)]
  split_ifs with hwhole
  · -- the value ends before the cut: the walk goes on over the same tail
    obtain ⟨rest', hrest', hcases⟩ := ih _ (by omega) hrest rfl
    refine ⟨_, by rw [hrest']; rfl, ?_⟩
    rcases hcases with hpre | ⟨pre, p, post, rfl, rfl⟩
    · exact .inl ((List.prefix_cons_inj _).2 hpre)
    · exact .inr ⟨_ :: pre, p, post, rfl, rfl⟩
  · -- the cut falls in the value: this record, without its value, is the last one read
    rw [parseParameters_end (by simp only [Parameter.withoutValue]; omega)]
    exact ⟨_, rfl, .inr ⟨[], _, rest, rfl, rfl⟩⟩

/-- A parameter list cut anywhere reads as the whole list's parameters up to the cut: a prefix
    of them, or a prefix followed by the parameter whose value the cut falls in, recorded with
    its declared length and without its value. -/
theorem parseCdrParameterList_take {d : Bytes} {params : List Parameter}
    (h : parseCdrParameterList d = .ok params) (m : Nat) :
    ∃ params', parseCdrParameterList (d.take m) = .ok params' ∧
      (params' <+: params ∨
        ∃ pre p post, params = pre ++ p :: post ∧ params' = pre ++ [p.withoutValue]) := by
  by_cases hcut : (d.take m).length < 4
  · exact ⟨_, parseCdrParameterList_short hcut, .inl List.nil_prefix⟩
  have h4 : 4 ≤ d.length ∧ 4 ≤ m := by simp only [List.length_take] at hcut; omega
  rw [parseCdrParameterList_of_le h4.1] at h
  rw [parseCdrParameterList_of_le (by omega)]
  exact parseParameters_take h m

/-- The example list cut inside `tempSensorTopic`'s value. -/
theorem parseCdrParameterList_take_tempSensor :
    parseCdrParameterList tempSensorList = .ok (ParamFrame.records 4 [tempSensorTopic]) ∧
      ∃ params', parseCdrParameterList (tempSensorList.take 10) = .ok params' ∧
        (params' <+: ParamFrame.records 4 [tempSensorTopic] ∨
          ∃ pre p post, ParamFrame.records 4 [tempSensorTopic] = pre ++ p :: post ∧
            params' = pre ++ [p.withoutValue]) :=
  ⟨parseCdrParameterList_tempSensorList,
    parseCdrParameterList_take parseCdrParameterList_tempSensorList 10⟩

end ValidateSedp
