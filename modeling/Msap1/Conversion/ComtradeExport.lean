import Msap1.Conversion.ComtradeRecords
import Msap1.Conversion.ComtradeHeader

/-! A COMTRADE export that returns is exact: the numbers, samples, timestamps and digital channels
of its records, the multiplier of its timestamps, and that the batches leave no trace. -/

namespace Msap1.Conversion

open ByteCodec Rounding TextLines

def frameUtc (metadata : WaveformMetadata) (frame : Nat) : ℚ :=
  match metadata.timebaseSegments.find? fun segment => segment.Covers frame with
  | none => 0
  | some segment => exactUtc segment (frameSequence segment frame)

def frameOffset (metadata : WaveformMetadata) (frame : Nat) : ℚ :=
  frameUtc metadata frame - frameUtc metadata 0

/-- Every timestamp of a source fits its field at a tick. -/
def Fits (source : WaveformSource) (tick : Nat) : Prop :=
  ∀ frame < source.frameCount, ∀ value : Int,
    NearestEven (frameOffset source.metadata frame / tick) value → value ≤ uint32Max

/-- The smallest power of ten for which they do. -/
def SmallestTick (source : WaveformSource) (tick : Nat) : Prop :=
  ∃ power, tick = 10 ^ power ∧ Fits source tick ∧ ∀ smaller < power, ¬Fits source (10 ^ smaller)

/-- An event whose end, if it has one, does not come before its start. -/
def InOrder (event : EventDescriptor) : Prop :=
  event.flags &&& eventEndValid ≠ 0 → event.startSequence ≤ event.endSequence

/-- Some source sample of a frame lies in the active range of an event. -/
def ActiveAt (metadata : WaveformMetadata) (segment : TimebaseSegment) (frame : Nat)
    (event : EventDescriptor) : Prop :=
  ∃ sequence, segment.Samples frame sequence ∧ event.startSequence ≤ sequence ∧
    sequence ≤ eventActiveLastSequence event metadata.lastSequence

/-- What the records of a source say, with timestamps in a multiple of a microsecond. -/
structure ExactRecords (source : WaveformSource) (multiplier : ℚ) (records : List DatRecord) :
    Prop where
  count : records.length = source.frameCount
  numbered : ∀ frame record, records[frame]? = some record →
    record.sampleNumber.toNat = frame + 1
  samples : ∀ frame record, records[frame]? = some record →
    record.samples.map Int32.toInt = (source.samples frame).map Int64.toInt
  nearest : ∀ frame record, records[frame]? = some record →
    |record.timestamp.toNat * (1000 * multiplier) - frameOffset source.metadata frame| ≤
      1000 * multiplier / 2
  ordered : ∀ (earlier later : Nat) (one two : DatRecord), records[earlier]? = some one →
    records[later]? = some two → earlier ≤ later → one.timestamp ≤ two.timestamp
  digital : ∀ frame record segment index event, records[frame]? = some record →
    segment ∈ source.metadata.timebaseSegments → segment.Covers frame →
      source.metadata.events[index]? = some event → InOrder event →
        (record.active index = true ↔ ActiveAt source.metadata segment frame event)

section Utc

variable {metadata : WaveformMetadata} {total : Nat}

theorem frameUtc_covered (tiled : Tiled total 0 metadata.timebaseSegments)
    {segment : TimebaseSegment} (member : segment ∈ metadata.timebaseSegments) {frame : Nat}
    (covers : segment.Covers frame) :
    frameUtc metadata frame = exactUtc segment (frameSequence segment frame) := by
  unfold frameUtc
  split
  · next none =>
      have missed := List.find?_eq_none.mp none segment member
      exact absurd (decide_eq_true covers) missed
  · next found looked =>
      have other := List.find?_some looked
      rw [decide_eq_true_iff] at other
      rw [tiled.unique (List.mem_of_find?_eq_some looked) member other covers]

theorem utcForFrame_value (tiled : Tiled total 0 metadata.timebaseSegments) {frame : Nat}
    {utc : BigRational} (computed : utcForFrame metadata frame = .ok utc) :
    0 < utc.denominator ∧ utc.value = frameUtc metadata frame := by
  rcases Loops.bind_ok computed with ⟨segment, looked, -⟩
  rcases segmentForFrame_ok looked with ⟨member, covers⟩
  rw [frameUtc_covered tiled member covers]
  exact utcForFrame_ok tiled computed member covers

theorem exactUtc_mono {segment : TimebaseSegment} (valid : segment.Valid) {first second : Nat}
    (ordered : first ≤ second) : exactUtc segment first ≤ exactUtc segment second := by
  have rate : (0 : ℚ) < segment.acquisitionRate.numerator := by exact_mod_cast valid.rate
  have cast : (first : ℚ) ≤ second := by exact_mod_cast ordered
  unfold exactUtc
  gcongr

theorem checkBoundary_ok (tiled : Tiled total 0 metadata.timebaseSegments)
    {segment : TimebaseSegment} {done : Unit}
    (checked : checkBoundary metadata segment = .ok done) :
    frameUtc metadata (segment.firstFrame - 1) ≤ frameUtc metadata segment.firstFrame := by
  rcases Loops.bind_ok checked with ⟨after, late, checked⟩
  rcases Loops.bind_ok checked with ⟨before, early, checked⟩
  have forward := failIf_ok checked
  rw [decide_eq_false_iff_not, not_lt] at forward
  rcases utcForFrame_value tiled late with ⟨latePositive, lateValue⟩
  rcases utcForFrame_value tiled early with ⟨earlyPositive, earlyValue⟩
  rcases subtract_value latePositive earlyPositive with ⟨positive, difference⟩
  rw [← value_nonneg_iff positive, difference, lateValue, earlyValue] at forward
  linarith

theorem forM_member {Item : Type} {check : Item → Checked Unit} {items : List Item} {done : Unit}
    (checked : items.forM check = .ok done) {item : Item} (member : item ∈ items) :
    ∃ passed, check item = .ok passed := by
  induction items with
  | nil => exact absurd member List.not_mem_nil
  | cons head tail ih =>
      rcases Loops.bind_ok checked with ⟨passed, first, rest⟩
      rcases List.mem_cons.mp member with rfl | later
      · exact ⟨passed, first⟩
      · exact ih rest later

theorem frameUtc_step (tiled : Tiled total 0 metadata.timebaseSegments) {done : Unit}
    (checked : metadata.timebaseSegments.tail.forM (checkBoundary metadata) = .ok done)
    {frame : Nat} (inside : frame + 1 < total) :
    frameUtc metadata frame ≤ frameUtc metadata (frame + 1) := by
  rcases tiled.covered (Nat.zero_le frame) (Nat.lt_of_succ_lt inside) with ⟨one, member, covers⟩
  rcases tiled.covered (Nat.zero_le (frame + 1)) inside with ⟨two, nextMember, nextCovers⟩
  rcases tiled.boundary member nextMember covers nextCovers with rfl | ⟨tail, edge⟩
  · rw [frameUtc_covered tiled member covers, frameUtc_covered tiled member nextCovers]
    apply exactUtc_mono (tiled.first_le member).2.2
    unfold frameSequence
    have further : frame - one.firstFrame ≤ frame + 1 - one.firstFrame := by omega
    exact Nat.add_le_add_left (Nat.mul_le_mul_right one.sequenceStep further) one.firstSequence
  · rcases forM_member checked tail with ⟨passed, boundary⟩
    have forward := checkBoundary_ok tiled boundary
    rw [edge, Nat.add_sub_cancel] at forward
    exact forward

theorem frameUtc_mono (tiled : Tiled total 0 metadata.timebaseSegments) {done : Unit}
    (checked : metadata.timebaseSegments.tail.forM (checkBoundary metadata) = .ok done)
    {earlier later : Nat} (ordered : earlier ≤ later) (inside : later < total) :
    frameUtc metadata earlier ≤ frameUtc metadata later := by
  induction later, ordered using Nat.le_induction with
  | base => exact le_refl _
  | succ later ordered ih =>
      exact le_trans (ih (Nat.lt_of_succ_lt inside)) (frameUtc_step tiled checked inside)

end Utc

section Digital

theorem sequenceRange_ok {metadata : WaveformMetadata} {total frame : Nat} {range : Nat × Nat}
    (tiled : Tiled total 0 metadata.timebaseSegments)
    (ranged : sequenceRangeForFrame metadata frame = .ok range) {segment : TimebaseSegment}
    (member : segment ∈ metadata.timebaseSegments) (covers : segment.Covers frame) :
    range.1 ≤ range.2 ∧ range.2 < segment.firstSequence + segment.sourceFrameCount ∧
      ∀ sequence, segment.Samples frame sequence ↔ range.1 ≤ sequence ∧ sequence ≤ range.2 := by
  rcases Loops.bind_ok ranged with ⟨found, looked, ranged⟩
  rcases Loops.bind_ok ranged with ⟨⟨⟩, bounds, ranged⟩
  cases ranged
  rcases segmentForFrame_ok looked with ⟨foundMember, foundCovers⟩
  have valid := (tiled.first_le member).2.2
  have step := valid.step
  have filled := valid.filled
  have begun := valid.begun
  have checked := failIf_ok bounds
  rw [Bool.or_eq_false_iff, decide_eq_false_iff_not, not_lt] at checked
  have ordered := checked.1
  rw [← tiled.unique member foundMember covers foundCovers] at ordered ⊢
  unfold TimebaseSegment.Covers at covers
  unfold TimebaseSegment.Samples
  rw [Nat.succ_mul]
  have last : frame - segment.firstFrame + 1 = segment.frameCount →
      segment.sourceFrameCount ≤
        (frame - segment.firstFrame) * segment.sequenceStep + segment.sequenceStep := by
    intro equal
    rw [← Nat.succ_mul, Nat.succ_eq_add_one, equal]
    exact filled
  generalize (frame - segment.firstFrame) * segment.sequenceStep = offset at ordered last ⊢
  refine ⟨ordered, ?_, ?_⟩
  · split <;> omega
  · intro sequence
    split <;> omega

theorem active_iff {metadata : WaveformMetadata} {total frame : Nat} {range : Nat × Nat}
    (tiled : Tiled total 0 metadata.timebaseSegments)
    (ended : ∀ segment ∈ metadata.timebaseSegments,
      segment.firstSequence + segment.sourceFrameCount ≤ metadata.lastSequence + 1)
    (ranged : sequenceRangeForFrame metadata frame = .ok range) {segment : TimebaseSegment}
    (member : segment ∈ metadata.timebaseSegments) (covers : segment.Covers frame)
    {event : EventDescriptor} (inOrder : InOrder event) :
    range.1 ≤ eventActiveLastSequence event metadata.lastSequence ∧ event.startSequence ≤ range.2 ↔
      ActiveAt metadata segment frame event := by
  rcases sequenceRange_ok tiled ranged member covers with ⟨ordered, below, samples⟩
  have finish := ended segment member
  constructor
  · rintro ⟨begins, starts⟩
    refine ⟨max range.1 event.startSequence, (samples _).mpr ⟨le_max_left _ _, ?_⟩,
      le_max_right _ _, ?_⟩
    · exact max_le ordered starts
    · apply max_le begins
      unfold eventActiveLastSequence
      split
      · next flagged => exact inOrder flagged
      · omega
  · rintro ⟨sequence, inside, starts, ends⟩
    rcases (samples sequence).mp inside with ⟨low, high⟩
    exact ⟨le_trans low ends, le_trans starts high⟩

end Digital

section Export

theorem convert_ok {source : WaveformSource} {sink : OutputSink} {options : ConversionOptions}
    {stopRequested : Nat → Bool} {written : Written}
    (converted : convert source sink options stopRequested = .ok written) :
    validateConversionSource source options = .ok () ∧
    ∃ start final trigger triggerUtc tick timemult cfg parts,
      utcForFrame source.metadata 0 = .ok start ∧
      utcForFrame source.metadata (source.frameCount - 1) = .ok final ∧
      source.metadata.timebaseSegments.tail.forM (checkBoundary source.metadata) = .ok () ∧
      selectTick (subtract final start) tickAttempts 1 = .ok tick ∧
      triggerEvent source.metadata options = .ok trigger ∧
      triggerTime source.metadata trigger = .ok triggerUtc ∧
      decimalText tick 1000 = .ok timemult ∧
      cfgText source.metadata start triggerUtc timemult = .ok cfg ∧
      written.texts = prefixText cfg (infText source.metadata options trigger tick)
        (hdrText source.metadata tick)
        ((8 + 4 * source.metadata.channels.length + 2 * digitalWords source.metadata) *
          source.frameCount) ∧
      (List.range' 0 source.frameCount).mapM (fun frame =>
        frameRecord source.metadata start tick frame (source.samples frame)) = .ok parts ∧
      written.dat = parts.flatten := by
  unfold convert at converted
  dsimp only at converted
  rcases Loops.bind_ok converted with ⟨⟨⟩, -, converted⟩
  rcases Loops.bind_ok converted with ⟨⟨⟩, validated, converted⟩
  rcases Loops.bind_ok converted with ⟨⟨⟩, -, converted⟩
  rcases Loops.unless_ok converted with ⟨-, converted⟩
  rcases Loops.bind_ok converted with ⟨⟨⟩, -, converted⟩
  rcases Loops.bind_ok converted with ⟨start, started, converted⟩
  rcases Loops.bind_ok converted with ⟨trigger, triggered, converted⟩
  rcases Loops.bind_ok converted with ⟨triggerUtc, triggerTimed, converted⟩
  rcases Loops.bind_ok converted with ⟨final, finished, converted⟩
  rcases Loops.bind_ok converted with ⟨⟨⟩, -, converted⟩
  rcases Loops.bind_ok converted with ⟨⟨⟩, boundaries, converted⟩
  rcases Loops.bind_ok converted with ⟨tick, selected, converted⟩
  rcases Loops.bind_ok converted with ⟨timemult, multiplied, converted⟩
  rcases Loops.bind_ok converted with ⟨⟨⟩, -, converted⟩
  rcases Loops.bind_ok converted with ⟨cfg, configured, converted⟩
  rcases Loops.bind_ok converted with ⟨⟨⟩, -, converted⟩
  rcases Loops.bind_ok converted with ⟨begun, opened, converted⟩
  rcases Loops.bind_ok converted with ⟨all, batches, converted⟩
  cases converted
  rcases convertBatches_ok (by omega) (Nat.zero_le _) batches with ⟨parts, recorded, whole⟩
  have head : begun = prefixText cfg (infText source.metadata options trigger tick)
      (hdrText source.metadata tick)
      ((8 + 4 * source.metadata.channels.length + 2 * digitalWords source.metadata) *
        source.frameCount) := by
    unfold OutputSink.write at opened
    split at opened
    · cases opened
    · cases opened
      rfl
  rw [Nat.sub_zero] at recorded
  refine ⟨validated, start, final, trigger, triggerUtc, tick, timemult, cfg, parts, started,
    finished, boundaries, selected, triggered, triggerTimed, multiplied, configured, rfl, recorded,
    ?_⟩
  rw [whole, head, List.drop_left]

theorem forall₂_at {Value : Type} {Related : Nat → Value → Prop} {first count : Nat}
    {values : List Value} (each : List.Forall₂ Related (List.range' first count) values)
    {position : Nat} {value : Value} (held : values[position]? = some value) :
    position < count ∧ Related (first + position) value := by
  induction count generalizing first values position with
  | zero =>
      cases each
      cases held
  | succ count ih =>
      rw [List.range'_succ] at each
      cases each with
      | cons here rest =>
          cases position with
          | zero =>
              cases held
              exact ⟨Nat.succ_pos count, here⟩
          | succ position =>
              rcases ih rest held with ⟨below, related⟩
              refine ⟨by omega, ?_⟩
              rw [show first + (position + 1) = first + 1 + position by omega]
              exact related

variable {source : WaveformSource} {start : BigRational} {tick : Nat}

theorem relative_value (tiled : Tiled source.frameCount 0 source.metadata.timebaseSegments)
    (started : utcForFrame source.metadata 0 = .ok start) {frame : Nat} {utc : BigRational}
    (timed : utcForFrame source.metadata frame = .ok utc) :
    (subtract utc start).value = frameOffset source.metadata frame := by
  rcases utcForFrame_value tiled started with ⟨startPositive, startValue⟩
  rcases utcForFrame_value tiled timed with ⟨positive, value⟩
  rw [(subtract_value positive startPositive).2, value, startValue, frameOffset]

theorem fits_iff (tiled : Tiled source.frameCount 0 source.metadata.timebaseSegments)
    (some : 0 < source.frameCount)
    (checked : source.metadata.timebaseSegments.tail.forM (checkBoundary source.metadata) = .ok ())
    {largest : Nat} (nearest : NearestEven
      (frameOffset source.metadata (source.frameCount - 1) / tick) largest) :
    Fits source tick ↔ largest ≤ uint32Max := by
  constructor
  · intro fits
    exact_mod_cast fits (source.frameCount - 1) (by omega) largest nearest
  · intro small frame inside value rounded
    have later := frameUtc_mono tiled checked (Nat.le_sub_one_of_lt inside) (by omega)
    have ordered : frameOffset source.metadata frame / tick ≤
        frameOffset source.metadata (source.frameCount - 1) / tick := by
      unfold frameOffset
      gcongr
    have below := rounded.mono nearest ordered
    exact le_trans below (by exact_mod_cast small)

theorem smallestTick_of_selectTick
    (tiled : Tiled source.frameCount 0 source.metadata.timebaseSegments)
    (some : 0 < source.frameCount)
    (checked : source.metadata.timebaseSegments.tail.forM (checkBoundary source.metadata) = .ok ())
    (started : utcForFrame source.metadata 0 = .ok start) {final : BigRational}
    (finished : utcForFrame source.metadata (source.frameCount - 1) = .ok final)
    (selected : selectTick (subtract final start) tickAttempts 1 = .ok tick) :
    SmallestTick source tick := by
  rcases selectTick_ok selected with ⟨power, equal, -, ⟨value, nearest, small⟩, before⟩
  rw [relative_value tiled started finished] at nearest
  refine ⟨power, by rw [equal, Nat.one_mul], (fits_iff tiled some checked nearest).mpr small, ?_⟩
  intro smaller below fits
  rcases before smaller below with ⟨value, nearest, large⟩
  rw [relative_value tiled started finished, Nat.one_mul] at nearest
  have kept := (fits_iff tiled some checked nearest).mp fits
  omega

theorem selectTick_pos {maximum : BigRational}
    (selected : selectTick maximum tickAttempts 1 = .ok tick) : 0 < tick := by
  rcases selectTick_ok selected with ⟨power, rfl, -⟩
  positivity

theorem FrameFacts.nearest {frame : Nat} {row : List Int64} {record : DatRecord}
    (facts : FrameFacts source.metadata start tick frame row record)
    (tiled : Tiled source.frameCount 0 source.metadata.timebaseSegments)
    (started : utcForFrame source.metadata 0 = .ok start) :
    NearestEven (frameOffset source.metadata frame / tick) record.timestamp.toNat := by
  rcases facts.time with ⟨utc, timed, nearest⟩
  rw [relative_value tiled started timed] at nearest
  exact nearest

theorem exactRecords {records : List DatRecord}
    (tiled : Tiled source.frameCount 0 source.metadata.timebaseSegments)
    (ended : ∀ segment ∈ source.metadata.timebaseSegments,
      segment.firstSequence + segment.sourceFrameCount ≤ source.metadata.lastSequence + 1)
    (checked : source.metadata.timebaseSegments.tail.forM (checkBoundary source.metadata) = .ok ())
    (started : utcForFrame source.metadata 0 = .ok start) (positive : 0 < tick)
    (each : List.Forall₂ (fun frame record =>
      FrameFacts source.metadata start tick frame (source.samples frame) record)
      (List.range' 0 source.frameCount) records) {multiplier : ℚ}
    (declared : 1000 * multiplier = tick) :
    ExactRecords source multiplier records := by
  have wide : (0 : ℚ) < tick := by exact_mod_cast positive
  have facts : ∀ {frame : Nat} {record : DatRecord}, records[frame]? = some record →
      frame < source.frameCount ∧
        FrameFacts source.metadata start tick frame (source.samples frame) record := by
    intro frame record held
    rcases forall₂_at each held with ⟨inside, facts⟩
    rw [Nat.zero_add] at facts
    exact ⟨inside, facts⟩
  constructor
  case count => rw [← each.length_eq, List.length_range']
  case numbered => exact fun frame record held => (facts held).2.number
  case samples => exact fun frame record held => (facts held).2.samples
  case nearest =>
    intro frame record held
    rw [declared]
    have near := ((facts held).2.nearest tiled started).near
    have scaled := mul_le_mul_of_nonneg_right near (le_of_lt wide)
    rw [← abs_of_pos wide, ← abs_mul, sub_mul, abs_of_pos wide, div_mul_cancel₀ _ wide.ne',
      abs_sub_comm] at scaled
    push_cast at scaled
    linarith
  case ordered =>
    intro earlier later one two oneHeld twoHeld ordered
    rcases facts oneHeld with ⟨-, oneFacts⟩
    rcases facts twoHeld with ⟨inside, twoFacts⟩
    have forward := frameUtc_mono tiled checked ordered inside
    have times : frameOffset source.metadata earlier / tick ≤
        frameOffset source.metadata later / tick := by
      unfold frameOffset
      gcongr
    have rounded := (oneFacts.nearest tiled started).mono (twoFacts.nearest tiled started) times
    exact UInt32.le_iff_toNat_le.mpr (by exact_mod_cast rounded)
  case digital =>
    intro frame record segment index event held member covers known inOrder
    rcases (facts held).2.digital with ⟨range, ranged, words⟩
    have below : index < source.metadata.events.length :=
      (List.getElem?_eq_some_iff.mp known).1
    have word : index / 16 < digitalWords source.metadata := by
      unfold digitalWords
      omega
    unfold DatRecord.active
    rw [words, List.getD_eq_getElem?_getD, List.getElem?_map, List.getElem?_range word,
      Option.map_some, Option.getD_some, digitalWord_bit _ _ _ _ (Nat.mod_lt index (by decide)),
      Nat.div_add_mod', ← active_iff tiled ended ranged member covers inOrder]
    constructor
    · rintro ⟨other, same, active⟩
      cases Option.mem_unique same known
      exact active
    · intro active
      exact ⟨event, known, active⟩

theorem multiplier_read {maximum : BigRational}
    (selected : selectTick maximum tickAttempts 1 = .ok tick) {timemult : Bytes}
    (printed : decimalText tick 1000 = .ok timemult) :
    readScientific timemult = some ((tick : ℚ) / 1000) := by
  have every : ∀ power < tickAttempts, readScientific (scientific 36 ((10 ^ power : Nat) : Int)
      1000) = some (((10 ^ power : Nat) : ℚ) / 1000) := by
    decide +kernel
  rcases selectTick_ok selected with ⟨power, equal, few, -⟩
  rw [Nat.one_mul] at equal
  cases printed
  rw [equal]
  exact every power few

end Export

/-- An export that returns is exact, in the multiplier that its own texts declare, and another
batch size would have written the same. -/
theorem comtrade_export_exact {source : WaveformSource} {sink : OutputSink}
    {options : ConversionOptions} {stopRequested : Nat → Bool} {written : Written}
    (converted : convert source sink options stopRequested = .ok written) :
    (∃ multiplier tick, declaredMultiplier written.texts = some multiplier ∧
      1000 * multiplier = (tick : Nat) ∧ SmallestTick source tick ∧
      ∃ records, decodeDat source.channelCount (digitalWords source.metadata) source.frameCount
        written.dat = some records ∧ ExactRecords source multiplier records) ∧
    ∀ frameBatchSize stops other, convert source sink { options with frameBatchSize } stops =
      .ok other → other = written := by
  rcases convert_ok converted with ⟨validated, start, final, trigger, triggerUtc, tick, timemult,
    cfg, parts, started, finished, boundaries, selected, triggered, timed, multiplied, configured,
    described, recorded, whole⟩
  rcases validated_tiled validated with ⟨tiled, some, -, -, ended⟩
  constructor
  · rcases records_ok recorded with ⟨records, reads, each⟩
    rw [List.length_range', ← whole] at reads
    have declared : 1000 * ((tick : ℚ) / 1000) = tick := by ring
    refine ⟨(tick : ℚ) / 1000, tick, ?_, declared,
      smallestTick_of_selectTick tiled some boundaries started finished selected, records,
      finished_of_reads reads,
      exactRecords tiled ended boundaries started (selectTick_pos selected) each declared⟩
    rw [described, declaredMultiplier_prefix configured (oneLine_decimalText multiplied)]
    exact multiplier_read selected multiplied
  · intro frameBatchSize stops other again
    rcases convert_ok again with ⟨-, start', final', trigger', triggerUtc', tick', timemult', cfg',
      parts', started', finished', -, selected', triggered', timed', multiplied', configured',
      described', recorded', whole'⟩
    cases started.symm.trans started'
    cases finished.symm.trans finished'
    cases triggered.symm.trans triggered'
    cases timed.symm.trans timed'
    cases selected.symm.trans selected'
    cases multiplied.symm.trans multiplied'
    cases configured.symm.trans configured'
    cases recorded.symm.trans recorded'
    have texts := described'.trans described.symm
    have dat := whole'.trans whole.symm
    cases written
    cases other
    cases texts
    cases dat
    rfl

/-- The same row in every frame, and reads that return all that they are asked for. -/
def steadySource (metadata : WaveformMetadata) (frameCount : Nat) (row : List Int64) :
    WaveformSource where
  metadata
  frameCount
  channelCount := row.length
  samples _ := row
  readFrames first capacity := .ok (List.replicate (min capacity (frameCount - first)) row)
  width _ := rfl
  reads first capacity rows read := by
    cases read
    rw [List.length_replicate, List.map_const', List.length_range']

def openSink : OutputSink where
  byteLimit := 2 ^ 30
  refusal _ _ := none

def plainChannel : ChannelDefinition where
  flags := channelTransformValid ||| channelRatioValid

/-- Two frames without decimation, and one group of two that has only its first sample. -/
def shortGroup : WaveformMetadata where
  timebaseSegments := [{
    frameCount := 2
    sequenceStep := 1
    acquisitionRate := { numerator := 3 }
    persistedRate := { numerator := 3 }
    correlationUtcNanoseconds := 10 ^ 18
    flags := timeUtcOffsetKnown
    sourceFrameCount := 2 }, {
    firstFrame := 2
    frameCount := 1
    firstSequence := 2
    sequenceStep := 2
    acquisitionRate := { numerator := 6 }
    persistedRate := { numerator := 3 }
    correlationUtcNanoseconds := 10 ^ 18 + 10 ^ 9
    decimationDivisor := 2
    decimationMethod := .boxcarMeanTowardZero
    flags := timeUtcOffsetKnown
    sourceFrameCount := 1 }]
  channels := [plainChannel]
  events := [{ eventUuid := 1, flags := eventTriggerValid, startSequence := 1 }]
  lastSequence := 2

theorem shortGroup_exported : ∃ written multiplier records,
    convert (steadySource shortGroup 3 [-7]) openSink { frameBatchSize := 2 } (fun _ => false) =
      .ok written ∧
    declaredMultiplier written.texts = some multiplier ∧
    decodeDat 1 1 3 written.dat = some records ∧
    ExactRecords (steadySource shortGroup 3 [-7]) multiplier records := by
  cases converted : convert (steadySource shortGroup 3 [-7]) openSink { frameBatchSize := 2 }
      (fun _ => false) with
  | error error =>
      have returns : (convert (steadySource shortGroup 3 [-7]) openSink { frameBatchSize := 2 }
          (fun _ => false)).toOption.isSome = true := by decide +kernel
      rw [converted] at returns
      cases returns
  | ok written =>
      rcases comtrade_export_exact converted with
        ⟨⟨multiplier, tick, declared, -, -, records, decoded, exact⟩, -⟩
      exact ⟨written, multiplier, records, rfl, declared, decoded, exact⟩

/-- One group of ten samples, and an event that ends before it starts. -/
def reversedEvent : WaveformMetadata where
  timebaseSegments := [{
    frameCount := 1
    sequenceStep := 10
    acquisitionRate := { numerator := 1000 }
    persistedRate := { numerator := 100 }
    correlationUtcNanoseconds := 10 ^ 18
    decimationDivisor := 10
    decimationMethod := .boxcarMeanTowardZero
    flags := timeUtcOffsetKnown
    sourceFrameCount := 10 }]
  channels := [plainChannel]
  events := [{
    eventUuid := 1
    flags := eventTriggerValid ||| eventEndValid
    startSequence := 8
    endSequence := 2 }]
  lastSequence := 9

/-- The bit of such an event is set, and no sample lies in its range. -/
theorem reversedEvent_bit_set :
    validateConversionSource (steadySource reversedEvent 1 [5]) {} = .ok () ∧
    (∃ written record, convert (steadySource reversedEvent 1 [5]) openSink {} (fun _ => false) =
        .ok written ∧
      decodeDat 1 1 1 written.dat = some [record] ∧ record.active 0 = true) ∧
    ∀ segment ∈ reversedEvent.timebaseSegments, ∀ event ∈ reversedEvent.events,
      ¬ActiveAt reversedEvent segment 0 event := by
  refine ⟨rfl, ?_, ?_⟩
  · have kept : (convert (steadySource reversedEvent 1 [5]) openSink {} (fun _ =>
        false)).toOption.map Written.dat =
          some [1, 0, 0, 0, 0, 0, 0, 0, 5, 0, 0, 0, 1, 0] := by
      decide +kernel
    cases converted : convert (steadySource reversedEvent 1 [5]) openSink {} (fun _ => false) with
    | error error =>
        rw [converted] at kept
        cases kept
    | ok written =>
        rw [converted] at kept
        have dat : written.dat = [1, 0, 0, 0, 0, 0, 0, 0, 5, 0, 0, 0, 1, 0] := Option.some.inj kept
        refine ⟨written, ⟨1, 0, [5], [1]⟩, rfl, ?_, by decide +kernel⟩
        rw [dat]
        decide +kernel
  · rintro segment member event listed ⟨sequence, -, starts, ends⟩
    cases List.mem_singleton.mp listed
    have begun : 8 ≤ sequence := starts
    have ended : sequence ≤ 2 := ends
    omega

end Msap1.Conversion
