import Msap1.Ipc.Codecs

/-! What the codecs of `meter_stream_ipc.cpp` and `historian_ipc.cpp` give back. A value
survives exactly when the decoder can yield it at all. -/

namespace Msap1.Ipc

open ByteCodec Meter Spool Ledger

set_option synthInstance.maxSize 1000

instance : Local readReading := by unfold readReading; infer_instance
instance : Local readGroup := by unfold readGroup; infer_instance
instance : Local readSamples := by unfold readSamples; infer_instance
instance : Local decodeEnergyValues := by unfold decodeEnergyValues; infer_instance
instance : Local decodeDemandValues := by unfold decodeDemandValues; infer_instance
instance : Local decodeRecord := by unfold decodeRecord; infer_instance
instance : Local decodeRecords := by unfold decodeRecords; infer_instance
instance : Local readHistoryCursor := by unfold readHistoryCursor; infer_instance
instance : Local decodeQuery := by unfold decodeQuery; infer_instance
instance : Local readEventId := by unfold readEventId; infer_instance
instance : Local readPerPhase := by unfold readPerPhase; infer_instance
instance : Local readSettingsDigest := by unfold readSettingsDigest; infer_instance
instance : Local readEventSnapshot := by unfold readEventSnapshot; infer_instance

instance : Local readUuid where
  extend := by
    intro input uuid rest more read
    simp only [readUuid, StateT.run] at read ⊢
    split at read
    · next enough =>
      cases read
      have longer : 16 ≤ (input ++ more).length := by
        rw [List.length_append]
        omega
      rw [dif_pos longer, List.drop_append_of_le_length enough]
      simp only [List.take_append_of_le_length enough]
    · cases read

instance : Local decodePowerQualityEventQuery := by
  unfold decodePowerQualityEventQuery
  infer_instance

instance : Local decodePowerQualityEventEntry := by
  unfold decodePowerQualityEventEntry
  infer_instance

instance {α : Type} (reader : Reader α) [Local reader] : Local (readSnapshot reader) := by
  unfold readSnapshot
  infer_instance

theorem qualityOf_qualityCode (quality : MeasurementQuality) :
    qualityOf (qualityCode quality) = quality := by
  cases quality <;> rfl

theorem reads_reading {reading : Reading} (fits : 0 ≤ reading.calculationWindow.duration) :
    Reads readReading (encodeReading reading) reading := by
  have code : decide (qualityCode reading.quality ≤ 5) = true := by
    cases reading.quality <;> rfl
  refine reads_next (reads_i64 _) ?_
  refine reads_next (reads_u8 _) (reads_require code ?_)
  refine reads_next (reads_u8 _) ?_
  refine reads_next (reads_u16 _) (reads_require rfl ?_)
  refine reads_next (reads_u64 _) ?_
  refine reads_next (reads_i64 _) ?_
  refine reads_next (reads_u32 _) ?_
  refine reads_next (reads_u32 _) (reads_require rfl ?_)
  refine reads_next (reads_i64 _) (reads_require (decide_eq_true fits) ?_)
  rw [qualityOf_qualityCode]
  exact reads_pure

theorem yields_reading :
    Yields readReading fun reading => 0 ≤ reading.calculationWindow.duration := by
  iterate 11 refine yields_skip fun _ => ?_
  refine yields_skip fun duration => yields_require fun fits => yields_pure ?_
  exact of_decide_eq_true fits

/-- The group's durations are the ones that a reader admits. -/
def GroupFits (group : PhaseABCTotal Reading) : Prop :=
  ∀ index, 0 ≤ (group.lane index).calculationWindow.duration

theorem groupFits_iff (group : PhaseABCTotal Reading) :
    GroupFits group ↔ 0 ≤ group.phaseA.calculationWindow.duration ∧
      0 ≤ group.phaseB.calculationWindow.duration ∧
      0 ≤ group.phaseC.calculationWindow.duration ∧
      0 ≤ group.total.calculationWindow.duration := by
  simp [GroupFits, PhaseABCTotal.lane, Fin.forall_fin_succ]

theorem reads_group {group : PhaseABCTotal Reading} (fits : GroupFits group) :
    Reads readGroup (encodeGroup group) group := by
  obtain ⟨first, second, third, fourth⟩ := (groupFits_iff group).mp fits
  refine reads_next (reads_reading first) ?_
  refine reads_next (reads_reading second) ?_
  refine reads_next (reads_reading third) ?_
  exact reads_next (reads_reading fourth) reads_pure

theorem yields_group : Yields readGroup GroupFits := by
  refine yields_bind yields_reading fun phaseA first => ?_
  refine yields_bind yields_reading fun phaseB second => ?_
  refine yields_bind yields_reading fun phaseC third => ?_
  refine yields_bind yields_reading fun total fourth => ?_
  exact yields_pure ((groupFits_iff _).mpr ⟨first, second, third, fourth⟩)

theorem reads_samples (samples : PhaseABCTotal UInt64) :
    Reads readSamples (encodeSamples samples) samples := by
  iterate 4 refine reads_next (reads_u64 _) ?_
  exact reads_pure

/-- The energy values that a client can be given. -/
def EnergyFits (values : EnergyValues) : Prop :=
  values.discontinuity = false ∧
    ∀ index, 0 ≤ (values.readings index).calculationWindow.duration

def energyGroups (values : EnergyValues) : Fin 7 → PhaseABCTotal Reading :=
  ![values.activeImport, values.activeExport, values.apparent, values.reactiveQuadrants 0,
    values.reactiveQuadrants 1, values.reactiveQuadrants 2, values.reactiveQuadrants 3]

theorem energyDurations_iff (values : EnergyValues) :
    (∀ index, 0 ≤ (values.readings index).calculationWindow.duration) ↔
      ∀ family, GroupFits (energyGroups values family) := by
  constructor
  · intro durations family index
    have same : values.readings ⟨4 * family + index, by omega⟩ =
        (energyGroups values family).lane index := by
      have high : (4 * family.val + index.val) / 4 = family.val := by omega
      have low : (4 * family.val + index.val) % 4 = index.val := by omega
      simp only [EnergyValues.readings, energyGroups, high, low]
    rw [← same]
    exact durations _
  · intro families index
    exact families ⟨index / 4, by omega⟩ ⟨index % 4, by omega⟩

theorem reads_energy {values : EnergyValues} (fits : EnergyFits values) :
    Reads decodeEnergyValues (encodeEnergyValues values) values := by
  have families := (energyDurations_iff values).mp fits.2
  have flags : ((packFlags [values.saturated, values.incompleteInput] &&& ~~~0x3 == 0 &&
      (0 : UInt32) == 0) = true) ∧
      flagSet (packFlags [values.saturated, values.incompleteInput]) 1 = values.saturated ∧
      flagSet (packFlags [values.saturated, values.incompleteInput]) 2 =
        values.incompleteInput := by
    cases values.saturated <;> cases values.incompleteInput <;> decide
  refine reads_next (reads_group (families 0)) ?_
  refine reads_next (reads_group (families 1)) ?_
  refine reads_next (reads_group (families 2)) ?_
  refine reads_next (reads_group (families 3)) ?_
  refine reads_next (reads_group (families 4)) ?_
  refine reads_next (reads_group (families 5)) ?_
  refine reads_next (reads_group (families 6)) ?_
  iterate 4 refine reads_next (reads_u64 _) ?_
  iterate 2 refine reads_next (reads_u32 _) ?_
  refine reads_next (reads_u64 _) ?_
  refine reads_next (reads_u32 _) ?_
  refine reads_next (reads_u32 _) (reads_require flags.1 ?_)
  have quadrants : ![values.reactiveQuadrants 0, values.reactiveQuadrants 1,
      values.reactiveQuadrants 2, values.reactiveQuadrants 3] = values.reactiveQuadrants := by
    funext quadrant
    fin_cases quadrant <;> rfl
  rw [quadrants, flags.2.1, flags.2.2, ← fits.1]
  exact reads_pure

theorem yields_energy : Yields decodeEnergyValues EnergyFits := by
  refine yields_bind yields_group fun activeImport first => ?_
  refine yields_bind yields_group fun activeExport second => ?_
  refine yields_bind yields_group fun apparent third => ?_
  refine yields_bind yields_group fun quadrant fourth => ?_
  refine yields_bind yields_group fun quadrant fifth => ?_
  refine yields_bind yields_group fun quadrant sixth => ?_
  refine yields_bind yields_group fun quadrant seventh => ?_
  iterate 10 refine yields_skip fun _ => ?_
  refine yields_pure ⟨rfl, (energyDurations_iff _).mpr ?_⟩
  simp only [Fin.forall_fin_succ]
  exact ⟨first, second, third, fourth, fifth, sixth, seventh, fun none => none.elim0⟩

/-- The demand values that a client can be given. -/
def DemandFits (values : DemandValues) : Prop :=
  GroupFits values.currentActive ∧ GroupFits values.importPeak ∧ GroupFits values.exportPeak

theorem reads_demand {values : DemandValues} (fits : DemandFits values) :
    Reads decodeDemandValues (encodeDemandValues values) values := by
  have method : decide (methodCode values.method ≤ 1) = true ∧
      (if methodCode values.method = 0 then DemandMethod.fixedBlock else .sliding) =
        values.method := by
    cases values.method <;> decide
  obtain ⟨aligned, contaminated, boundary, saturated, incomplete⟩ :=
    packFlags_five values.timeAligned values.contaminated values.boundaryValid values.saturated
      values.incompleteInput
  have unused : ∀ first second third fourth fifth : Bool,
      (packFlags [first, second, third, fourth, fifth] &&& ~~~0x1f == 0 &&
        (0 : UInt32) == 0) = true := by
    decide
  refine reads_next (reads_group fits.1) ?_
  refine reads_next (reads_group fits.2.1) ?_
  refine reads_next (reads_group fits.2.2) ?_
  iterate 2 refine reads_next (reads_samples _) ?_
  iterate 3 refine reads_next (reads_u64 _) ?_
  iterate 2 refine reads_next (reads_u32 _) ?_
  refine reads_next (reads_u64 _) ?_
  refine reads_next (reads_u32 _) (reads_require method.1 ?_)
  iterate 4 refine reads_next (reads_u32 _) ?_
  refine reads_next (reads_u32 _) (reads_require (unused _ _ _ _ _) ?_)
  rw [method.2, aligned, contaminated, boundary, saturated, incomplete]
  exact reads_pure

theorem yields_demand : Yields decodeDemandValues DemandFits := by
  refine yields_bind yields_group fun currentActive first => ?_
  refine yields_bind yields_group fun importPeak second => ?_
  refine yields_bind yields_group fun exportPeak third => ?_
  iterate 16 refine yields_skip fun _ => ?_
  exact yields_pure ⟨first, second, third⟩

/-- The size of the payload fits the word that announces it. -/
def RecordFits (cursored : CursoredRecord) : Prop := cursored.record.payload.length < 2 ^ 32

theorem presence_some {α : Type} (field : Option α) (default : α) :
    (if UInt8.ofNat field.isSome.toNat != 0 then some (field.getD default) else none) = field := by
  cases field <;> rfl

theorem reads_record {cursored : CursoredRecord} (fits : RecordFits cursored) :
    Reads decodeRecord (encodeRecord cursored) cursored := by
  have size : (UInt32.ofNat cursored.record.payload.length).toNat =
      cursored.record.payload.length := UInt32.toNat_ofNat_of_lt fits
  have payload := reads_take cursored.record.payload
  rw [← size] at payload
  refine reads_next (reads_u64 _) ?_
  refine reads_next (reads_u32 _) ?_
  refine reads_next (reads_u16 _) ?_
  iterate 2 refine reads_next (reads_u8 _) ?_
  refine reads_next (reads_u64 _) ?_
  refine reads_next (reads_u32 _) ?_
  refine reads_next (reads_i64 _) ?_
  refine reads_next (reads_u64 _) ?_
  iterate 2 refine reads_next (reads_u32 _) ?_
  iterate 2 refine reads_next (reads_u8 _) ?_
  refine reads_next (reads_u16 _) ?_
  refine reads_next (reads_i64 _) ?_
  refine reads_next (reads_u64 _) ?_
  refine reads_next (reads_u32 _) ?_
  refine reads_next payload ?_
  rw [presence_some, presence_some]
  exact reads_pure

theorem yields_record : Yields decodeRecord RecordFits := by
  iterate 16 refine yields_skip fun _ => ?_
  refine yields_skip fun size => ?_
  refine yields_bind (yields_take size.toNat) fun payload same => yields_pure ?_
  rw [RecordFits, same]
  exact size.toNat_lt

theorem reads_records {records : List CursoredRecord} {encoding : Bytes}
    (accepted : encodeRecords records = some encoding)
    (fits : ∀ cursored ∈ records, RecordFits cursored) :
    Reads decodeRecords encoding records := by
  simp only [encodeRecords, Bool.or_eq_true, List.isEmpty_iff, decide_eq_true_iff,
    Option.ite_none_left_eq_some, not_or, not_lt, Option.some.injEq] at accepted
  obtain ⟨⟨filled, short⟩, rfl⟩ := accepted
  have bound : records.length < UInt32.size := Nat.lt_of_le_of_lt short (by decide)
  have size : (UInt32.ofNat records.length).toNat = records.length :=
    UInt32.toNat_ofNat_of_lt bound
  have counted : decide (UInt32.ofNat records.length ≠ 0 ∧
      (UInt32.ofNat records.length).toNat ≤ maximumPublishRecords) = true := by
    rw [decide_eq_true_iff, size]
    refine ⟨?_, short⟩
    intro zero
    rw [zero] at size
    exact filled (List.length_eq_zero_iff.mp size.symm)
  refine reads_next (reads_u32 _) (reads_require counted ?_)
  rw [size]
  exact reads_last (reads_many fun cursored member => reads_record (fits cursored member))

theorem yields_records :
    Yields decodeRecords fun records => ∀ cursored ∈ records, RecordFits cursored := by
  refine yields_skip fun count => yields_require fun _ => ?_
  intro input records rest read
  exact (yields_many yields_record count.toNat input records rest read).2

theorem reads_historyCursor (cursor : HistoryCursor) :
    Reads readHistoryCursor (encodeHistoryCursor cursor) cursor := by
  refine reads_next (reads_i64 _) ?_
  refine reads_next (reads_u64 _) ?_
  refine reads_next (reads_u32 _) ?_
  refine reads_next (reads_u64 _) ?_
  exact reads_next (reads_u16 _) reads_pure

theorem reads_query {query : HistoryQuery} (fits : query.attributes.length < 2 ^ 16) :
    Reads decodeQuery (encodeQuery query) query := by
  have size : (UInt16.ofNat query.attributes.length).toNat = query.attributes.length :=
    UInt16.toNat_ofNat_of_lt fits
  have attributes : Reads (many u16 query.attributes.length)
      (query.attributes.map writeU16).flatten query.attributes :=
    reads_many fun id _ => reads_u16 id
  rw [← size] at attributes
  have present : ((UInt8.ofNat query.after.isSome.toNat &&& ~~~1 == 0) = true) ∧
      (UInt8.ofNat query.after.isSome.toNat &&& 1 != 0) = query.after.isSome := by
    cases query.after.isSome <;> decide
  refine reads_next (reads_u8 _) ?_
  refine reads_next (reads_u8 _) (reads_require present.1 ?_)
  refine reads_next (reads_u16 _) ?_
  iterate 2 refine reads_next (reads_i64 _) ?_
  refine reads_next (reads_u32 _) ?_
  refine reads_next (reads_optional present.2 fun cursor _ => reads_historyCursor cursor) ?_
  exact reads_next attributes reads_pure

theorem yields_query :
    Yields decodeQuery fun query => query.attributes.length < 2 ^ 16 := by
  iterate 3 refine yields_skip fun _ => ?_
  refine yields_skip fun count => ?_
  iterate 4 refine yields_skip fun _ => ?_
  have counted : Yields (many u16 count.toNat)
      fun ids => ids.length = count.toNat ∧ ∀ id ∈ ids, True :=
    yields_many (fun _ _ _ _ => trivial) count.toNat
  refine yields_bind counted fun attributes same => yields_pure ?_
  rw [same.1]
  exact count.toNat_lt

theorem reads_uuid (uuid : Uuid) : Reads readUuid uuid.val uuid := by
  intro rest
  have enough : 16 ≤ (uuid.val ++ rest).length := by
    rw [List.length_append, uuid.property]
    omega
  have taken : (uuid.val ++ rest).take 16 = uuid.val := List.take_left' uuid.property
  have dropped : (uuid.val ++ rest).drop 16 = rest := List.drop_left' uuid.property
  simp only [readUuid, StateT.run, dif_pos enough, taken, dropped]

theorem reads_eventId (id : PowerQualityEventId) : Reads readEventId (encodeEventId id) id := by
  iterate 2 refine reads_next (reads_u64 _) ?_
  exact reads_pure

theorem queryFlags (first second third fourth fifth : Bool) :
    ((packFlags [first, second, third, fourth, fifth]).toUInt8 &&& 0xe0 == 0) = true ∧
      ((packFlags [first, second, third, fourth, fifth]).toUInt8 &&& 1 != 0) = first ∧
      ((packFlags [first, second, third, fourth, fifth]).toUInt8 &&& 2 != 0) = second ∧
      ((packFlags [first, second, third, fourth, fifth]).toUInt8 &&& 4 != 0) = third ∧
      ((packFlags [first, second, third, fourth, fifth]).toUInt8 &&& 8 != 0) = fourth ∧
      ((packFlags [first, second, third, fourth, fifth]).toUInt8 &&& 16 == 0) = !fifth := by
  revert first second third fourth fifth
  decide

theorem reads_eventQuery {query : PowerQualityEventQuery} {encoding : Bytes}
    (accepted : encodePowerQualityEventQuery query = some encoding) :
    Reads decodePowerQualityEventQuery encoding query := by
  rw [encodePowerQualityEventQuery, Option.ite_none_left_eq_some] at accepted
  obtain ⟨single, same⟩ := accepted
  cases same
  obtain ⟨unused, id, eventUuid, start, finish, links⟩ := queryFlags query.id.isSome
    query.eventUuid.isSome query.startUtcNanoseconds.isSome query.endUtcNanoseconds.isSome
    (!query.includeWaveformLinks)
  refine reads_next (reads_u8 _) ?_
  refine reads_next (reads_u8 _) ?_
  refine reads_next (reads_u16 _) (reads_require (by rw [unused]; rfl) ?_)
  refine reads_next (reads_u32 _) ?_
  refine reads_next (reads_optional id fun field _ => reads_eventId field) ?_
  refine reads_next (reads_optional eventUuid fun field _ => reads_uuid field) ?_
  refine reads_next (reads_optional start fun field _ => reads_i64 field) ?_
  refine reads_next (reads_optional finish fun field _ => reads_i64 field) ?_
  refine reads_require (by rw [Bool.eq_false_of_not_eq_true single]; rfl) ?_
  rw [links, Bool.not_not]
  exact reads_pure

theorem reads_perPhase (values : PerPhase) :
    Reads readPerPhase (encodePerPhase values) values := by
  iterate 3 refine reads_next (reads_u32 _) ?_
  exact reads_pure

theorem reads_settingsDigest (digest : SettingsDigest) :
    Reads readSettingsDigest (encodeSettingsDigest digest) digest := by
  iterate 4 refine reads_next (reads_u32 _) ?_
  exact reads_pure

theorem eventFlags (first second third : Bool) :
    ((packFlags [first, second, third]).toUInt8 &&& ~~~0x7 == 0) = true ∧
      ((packFlags [first, second, third]).toUInt8 &&& 1 != 0) = first ∧
      ((packFlags [first, second, third]).toUInt8 &&& 2 != 0) = second ∧
      ((packFlags [first, second, third]).toUInt8 &&& 4 != 0) = third := by
  revert first second third
  decide

theorem reads_eventSnapshot (event : PowerQualityEventLifecycleSnapshot) :
    Reads readEventSnapshot (encodeEventSnapshot event) event := by
  obtain ⟨unused, enabled, perPhase, classified⟩ :=
    eventFlags event.waveformEnabled event.perPhase event.iecClassification
  refine reads_next (reads_eventId _) ?_
  iterate 4 refine reads_next (reads_u8 _) ?_
  iterate 4 refine reads_next (reads_u32 _) ?_
  iterate 4 refine reads_next (reads_u64 _) ?_
  iterate 5 refine reads_next (reads_u32 _) ?_
  iterate 3 refine reads_next (reads_perPhase _) ?_
  refine reads_next (reads_u8 _) (reads_require unused ?_)
  refine reads_next (reads_u8 _) ?_
  refine reads_next (reads_u16 _) (reads_require rfl ?_)
  iterate 3 refine reads_next (reads_u32 _) ?_
  iterate 2 refine reads_next (reads_u64 _) ?_
  iterate 2 refine reads_next (reads_u32 _) ?_
  refine reads_next (reads_settingsDigest _) ?_
  rw [enabled, perPhase, classified]
  exact reads_pure

theorem entryFlags (first second third : Bool) :
    ((packFlags [first, second, third]).toUInt16 &&& ~~~0x7 == 0) = true ∧
      ((packFlags [first, second, third]).toUInt16 &&& 1 != 0) = first ∧
      ((packFlags [first, second, third]).toUInt16 &&& 2 != 0) = second ∧
      ((packFlags [first, second, third]).toUInt16 &&& 4 != 0) = third := by
  revert first second third
  decide

theorem present_some {α : Type} (field : Option α) (default : α) :
    (if field.isSome then some (field.getD default) else none) = field := by
  cases field <;> rfl

/-- The entry declares at least the links that it carries. -/
def EntryFits (entry : PowerQualityEventCatalogEntry) : Prop :=
  entry.waveformCaptureUuids.length ≤ entry.waveformCaptureCount.toNat

theorem declaredCount {entry : PowerQualityEventCatalogEntry} (fits : EntryFits entry) :
    (if entry.waveformCaptureCount = 0 then UInt32.ofNat entry.waveformCaptureUuids.length
      else entry.waveformCaptureCount) = entry.waveformCaptureCount := by
  split
  · next zero =>
    rw [EntryFits, zero] at fits
    rw [zero, Nat.le_zero.mp fits]
    rfl
  · rfl

theorem reads_entry {entry : PowerQualityEventCatalogEntry} {encoding : Bytes}
    (accepted : encodePowerQualityEventEntry entry = some encoding) (fits : EntryFits entry) :
    Reads decodePowerQualityEventEntry encoding entry := by
  rw [encodePowerQualityEventEntry, Option.ite_none_left_eq_some, not_lt] at accepted
  obtain ⟨short, same⟩ := accepted
  cases same
  obtain ⟨unused, start, last, uncertainty⟩ := entryFlags entry.startUtcNanoseconds.isSome
    entry.lastUtcNanoseconds.isSome entry.utcUncertaintyNanoseconds.isSome
  have bound : entry.waveformCaptureUuids.length < UInt32.size :=
    Nat.lt_of_le_of_lt short (by decide)
  have size : (UInt32.ofNat entry.waveformCaptureUuids.length).toNat =
      entry.waveformCaptureUuids.length := UInt32.toNat_ofNat_of_lt bound
  have links : Reads (many readUuid entry.waveformCaptureUuids.length)
      (entry.waveformCaptureUuids.map Subtype.val).flatten entry.waveformCaptureUuids :=
    reads_many fun uuid _ => reads_uuid uuid
  rw [← size] at links
  have declared : Reads (optional true u32) (writeU32 entry.waveformCaptureCount)
      (some entry.waveformCaptureCount) :=
    reads_map (reads_u32 entry.waveformCaptureCount) rfl
  have covered : UInt32.ofNat entry.waveformCaptureUuids.length ≤ entry.waveformCaptureCount := by
    rw [UInt32.le_iff_toNat_le, size]
    exact fits
  rw [declaredCount fits]
  refine reads_next (reads_u16 _) (reads_require rfl ?_)
  refine reads_next (reads_u16 _) (reads_require unused ?_)
  refine reads_next (reads_uuid _) ?_
  refine reads_next (reads_eventSnapshot _) ?_
  refine reads_next (reads_u64 _) ?_
  iterate 2 refine reads_next (reads_i64 _) ?_
  refine reads_next (reads_u64 _) ?_
  refine reads_next declared ?_
  refine reads_next (reads_u32 _) (reads_require ?_ ?_)
  · rw [size]
    exact decide_eq_true short
  refine reads_next links (reads_require (decide_eq_true covered) ?_)
  rw [start, last, uncertainty, present_some, present_some, present_some]
  exact reads_pure

theorem yields_entry : Yields decodePowerQualityEventEntry EntryFits := by
  refine yields_skip fun version => yields_require fun known => ?_
  iterate 8 refine yields_skip fun _ => ?_
  refine yields_skip fun declared => ?_
  refine yields_skip fun count => yields_skip fun _ => ?_
  have counted : Yields (many readUuid count.toNat)
      fun links => links.length = count.toNat ∧ ∀ uuid ∈ links, True :=
    yields_many (fun _ _ _ _ => trivial) count.toNat
  refine yields_bind counted fun links same => yields_require fun covered => yields_pure ?_
  rw [EntryFits, same.1]
  by_cases older : version = 1
  · simp only [older, if_true, le_refl]
  · simp only [Bool.or_eq_true, beq_iff_eq, older, false_or, decide_eq_true_eq] at covered
    simp only [older, if_false]
    exact covered

section Snapshot

variable {α : Type} {write : α → Bytes} {reader : Reader α} {Fits : α → Prop}

theorem reads_snapshot {snapshot : Option α}
    (each : ∀ value ∈ snapshot, Reads reader (write value) value) :
    Reads (readSnapshot reader) (encodeSnapshot write snapshot) snapshot := by
  have present : (UInt8.ofNat snapshot.isSome.toNat != 0) = snapshot.isSome := by
    cases snapshot.isSome <;> rfl
  refine reads_next (reads_u32 _) (reads_require rfl ?_)
  refine reads_next (reads_u8 _) ?_
  refine reads_next (reads_u8 _) ?_
  refine reads_next (reads_u16 _) (reads_require rfl ?_)
  exact reads_last (reads_optional present each)

theorem yields_snapshot (yields : Yields reader Fits) :
    Yields (readSnapshot reader) fun snapshot => ∀ value ∈ snapshot, Fits value := by
  iterate 5 refine yields_skip fun _ => ?_
  exact yields_skip fun _ => yields_optional yields _

theorem snapshot_iff (yields : Yields reader Fits)
    (reads : ∀ value, Fits value → Reads reader (write value) value) (snapshot : Option α) :
    finished (readSnapshot reader) (encodeSnapshot write snapshot) = some snapshot ↔
      ∀ value ∈ snapshot, Fits value := by
  constructor
  · exact holds_of_finished (yields_snapshot yields)
  · intro fits
    exact finished_of_reads (reads_snapshot fun value member => reads value (fits value member))

end Snapshot

theorem codecs_lossless (energy : EnergyValues) (demand : DemandValues)
    (records : List CursoredRecord) (events : PowerQualityEventQuery) (ledger : EnergyLedger) :
    (Lossless (encodeEnergyValues energy) decodeEnergyValues energy ↔
      energy.discontinuity = false ∧
        ∀ index, 0 ≤ (energy.readings index).calculationWindow.duration) ∧
    (Lossless (encodeDemandValues demand) decodeDemandValues demand ↔
      ∀ group ∈ [demand.currentActive, demand.importPeak, demand.exportPeak], ∀ index,
        0 ≤ (group.lane index).calculationWindow.duration) ∧
    (∀ encoding, encodeRecords records = some encoding →
      (Lossless encoding decodeRecords records ↔
        ∀ cursored ∈ records, cursored.record.payload.length < 2 ^ 32)) ∧
    (∀ query, Lossless (encodeQuery query) decodeQuery query ↔
      query.attributes.length < 2 ^ 16) ∧
    (∀ encoding, encodePowerQualityEventQuery events = some encoding →
      Lossless encoding decodePowerQualityEventQuery events) ∧
    (∀ entry encoding, encodePowerQualityEventEntry entry = some encoding →
      (Lossless encoding decodePowerQualityEventEntry entry ↔
        entry.waveformCaptureUuids.length ≤ entry.waveformCaptureCount.toNat)) ∧
    (clientEnergy (getEnergySnapshot ledger) = some ledger.energy ↔
      ∀ values ∈ ledger.energy, values.discontinuity = false ∧
        ∀ index, 0 ≤ (values.readings index).calculationWindow.duration) ∧
    (clientDemand (getDemandSnapshot ledger) = some ledger.demand ↔
      ∀ values ∈ ledger.demand,
        ∀ group ∈ [values.currentActive, values.importPeak, values.exportPeak], ∀ index,
          0 ≤ (group.lane index).calculationWindow.duration) := by
  have groups : ∀ values : DemandValues, DemandFits values ↔
      ∀ group ∈ [values.currentActive, values.importPeak, values.exportPeak],
        GroupFits group := by
    intro values
    simp [DemandFits]
  refine ⟨?_, ?_, ?_, ?_, ?_, ?_, ?_, ?_⟩
  · exact lossless_iff yields_energy (fun values fits => reads_energy fits) energy
  · rw [lossless_iff yields_demand (fun values fits => reads_demand fits) demand]
    exact groups demand
  · intro encoding accepted
    constructor
    · intro lossless
      exact yields_records _ records [] (lossless.back [])
    · intro fits
      exact lossless_of_reads (reads_records accepted fits)
  · exact lossless_iff yields_query fun query fits => reads_query fits
  · intro encoding accepted
    exact lossless_of_reads (reads_eventQuery accepted)
  · intro entry encoding accepted
    constructor
    · intro lossless
      exact yields_entry _ entry [] (lossless.back [])
    · intro fits
      exact lossless_of_reads (reads_entry accepted fits)
  · exact snapshot_iff yields_energy (fun values fits => reads_energy fits) ledger.energy
  · rw [clientDemand, getDemandSnapshot,
      snapshot_iff yields_demand (fun values fits => reads_demand fits) ledger.demand]
    exact forall₂_congr fun values _ => groups values

def firstEventQuery : PowerQualityEventQuery where
  id := some { session := 7, counter := 1 }
  eventUuid := none
  startUtcNanoseconds := some 5
  endUtcNanoseconds := none
  limit := 1000
  includeWaveformLinks := true

def firstCursored : CursoredRecord where
  cursor := 1
  record := { recordFormat := 3, payload := [1, 2, 3] }

theorem accepted_values_survive :
    (∃ encoding, encodePowerQualityEventQuery firstEventQuery = some encoding ∧
      Lossless encoding decodePowerQualityEventQuery firstEventQuery) ∧
    (∃ encoding, encodeRecords [firstCursored] = some encoding ∧
      Lossless encoding decodeRecords [firstCursored]) := by
  obtain ⟨-, -, records, -, queries, -⟩ := codecs_lossless default default [firstCursored]
    firstEventQuery {}
  refine ⟨⟨_, rfl, queries _ rfl⟩, ⟨_, rfl, ?_⟩⟩
  exact (records _ rfl).mpr (by decide)

def discontinuousValues : EnergyValues := { (default : EnergyValues) with discontinuity := true }

/-- The encoder has no bit for the discontinuity, so the client sees a continuous register. -/
theorem discontinuity_lost :
    (finished decodeEnergyValues (encodeEnergyValues discontinuousValues)).map
        (fun values => values.discontinuity) = some false ∧
      ¬ Lossless (encodeEnergyValues discontinuousValues) decodeEnergyValues
        discontinuousValues ∧
      clientEnergy (getEnergySnapshot { latestEnergy := some discontinuousValues }) ≠
        some (some discontinuousValues) := by
  have back : Reads decodeEnergyValues (encodeEnergyValues discontinuousValues)
      { discontinuousValues with discontinuity := false } := by
    have fits : EnergyFits { discontinuousValues with discontinuity := false } := by
      refine ⟨rfl, ?_⟩
      decide
    exact reads_energy fits
  refine ⟨?_, ?_, ?_⟩
  · rw [finished_of_reads back]
    rfl
  · intro lossless
    have held := yields_energy _ discontinuousValues [] (lossless.back [])
    exact absurd held.1 (by decide)
  · intro same
    have held := holds_of_finished (yields_snapshot yields_energy) same
    exact absurd (held discontinuousValues rfl).1 (by decide)

end Msap1.Ipc
