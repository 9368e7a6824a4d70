import Msap1.Loops
import Msap1.Mncwf.Container

/-! The contents that `MncwfV4Reader` exposes: the six metadata sections, the samples of either
version and the rules that tie them together. Fields are read from records whose length the
envelope has checked. -/

namespace Msap1.Mncwf

open ByteCodec ByteLayout

/-- The continuation bytes of a sequence, its first bits and the least value it may encode. -/
def utf8Lead (first : UInt8) : Option (Nat × Nat × Nat) :=
  if first &&& 0xe0 == 0xc0 then some (1, (first &&& 0x1f).toNat, 0x80)
  else if first &&& 0xf0 == 0xe0 then some (2, (first &&& 0x0f).toNat, 0x800)
  else if first &&& 0xf8 == 0xf0 then some (3, (first &&& 0x07).toNat, 0x10000)
  else none

/-- The loop of `valid_utf8`, with as many rounds as there are bytes at most. -/
def validUtf8From : Nat → Bytes → Bool
  | _, [] => true
  | 0, _ => true
  | rounds + 1, first :: rest =>
      if first == 0 then false
      else if first < 0x80 then validUtf8From rounds rest
      else match utf8Lead first with
        | none => false
        | some (continuation, start, minimum) =>
            let tail := rest.take continuation
            let codepoint := tail.foldl (fun point next => point * 64 + (next &&& 0x3f).toNat) start
            rest.length ≥ continuation && tail.all (fun next => next &&& 0xc0 == 0x80) &&
              !(codepoint < minimum || 0x10ffff < codepoint ||
                (0xd800 ≤ codepoint && codepoint ≤ 0xdfff)) &&
              validUtf8From rounds (rest.drop continuation)

def validUtf8 (value : Bytes) : Bool := validUtf8From value.length value

def maxStringBytes : Nat := 64 * 1024

def readString (record : Bytes) (reference : Nat) (blob : Bytes) (label : String) :
    Checked Bytes := do
  let offset := natAt 4 record reference
  let size := natAt 4 record (reference + 4)
  rejectIf (maxStringBytes < size) (label ++ " exceeds the string bound")
  rejectIf (size == 0 && offset != 0) (label ++ " has a noncanonical empty reference")
  let text ← range blob offset size label
  rejectIf (!validUtf8 text) (label ++ " is not canonical UTF-8")
  .ok text

structure ParsedSection where
  records : Bytes
  blob : Bytes

def parseSectionEnvelope (info : SectionInfo) (expectedItemBytes minimumCount maximumCount : Nat)
    (allowBlob : Bool) : Checked ParsedSection := do
  rejectIf (info.version != 1) "unsupported mandatory-section version"
  rejectIf (info.flags != sectionRequired) "mandatory section is not marked required"
  rejectIf (info.itemBytes != expectedItemBytes || info.itemCount < minimumCount ||
    maximumCount < info.itemCount) "mandatory-section geometry is invalid"
  rejectIf (info.data.length < sectionHeaderBytes) "mandatory section header is truncated"
  rejectIf (natAt 4 info.data 0 != info.type || natAt 2 info.data 4 != info.version ||
    natAt 2 info.data 6 != sectionHeaderBytes || natAt 4 info.data 8 != 0 ||
    natAt 4 info.data 12 != info.itemBytes || natAt 8 info.data 16 != info.itemCount ||
    natAt 8 info.data 40 != 0) "mandatory section envelope disagrees with its directory entry"
  let recordsBytes ← checkedMultiply info.itemCount info.itemBytes "section records"
  let recordsEnd ← checkedAdd sectionHeaderBytes recordsBytes "section records"
  let blobOffset := natAt 8 info.data 24
  let blobBytes := natAt 8 info.data 32
  if blobBytes == 0 then
    rejectIf (blobOffset != 0 || recordsEnd != info.storedBytes)
      "section without a blob has trailing data"
  else
    let expectedOffset ← alignEight recordsEnd
    let blobEnd ← checkedAdd blobOffset blobBytes "section blob"
    rejectIf (!allowBlob || blobOffset != expectedOffset || blobEnd != info.storedBytes)
      "section blob geometry is invalid"
    let padding ← range info.data recordsEnd (blobOffset - recordsEnd) "section blob padding"
    rejectIf (!allZero padding) "section blob padding is nonzero"
  let records ← range info.data sectionHeaderBytes recordsBytes "section records"
  let blob ← if blobBytes == 0 then .ok [] else range info.data blobOffset blobBytes "section blob"
  .ok { records, blob }

def captureMetadataBytes : Nat := 256
def timebaseSegmentBytes : Nat := 128
def channelDefinitionBytes : Nat := 208
def eventDescriptorBytes : Nat := 256
def qualityIntervalBytes : Nat := 64
def lineageEntryBytes : Nat := 64
def chunkEntryBytes : Nat := 56
def maxChunkLogicalBytes : Nat := 1024 * 1024
def maxChunks : Nat := 4096
def chunkFrameChecksum : UInt16 := 1
def maxChannels : Nat := 64
def maxEvents : Nat := 4096
def maxLineageEntries : Nat := 4096

/-- The record of an index in a section of fixed-size records. -/
def recordAt (records : Bytes) (size index : Nat) : Bytes := slice records (index * size) size

def parseCapture (capture blob : Bytes) : Checked MncwfV4CaptureMetadata := do
  rejectIf (allZero (arrayAt 16 capture 0).val || allZero (arrayAt 16 capture 16).val ||
    allZero (arrayAt 32 capture 32).val || allZero (arrayAt 32 capture 64).val ||
    u64At capture 120 == 0 || u64At capture 136 == 0 ||
    u32At capture 144 > MncwfTopology.delta.code ||
    u32At capture 148 > MncwfCalibrationStatus.invalid.code || u32At capture 152 != 0 ||
    u32At capture 156 != 0) "capture metadata is invalid"
  let label := "capture metadata string"
  let stationName ← readString capture 160 blob label
  let siteName ← readString capture 168 blob label
  let circuitName ← readString capture 176 blob label
  let productName ← readString capture 184 blob label
  let deviceModel ← readString capture 192 blob label
  let firmwareVersion ← readString capture 200 blob label
  let softwareBuildId ← readString capture 208 blob label
  let sensorProfileId ← readString capture 216 blob label
  let configurationId ← readString capture 224 blob label
  let calibrationId ← readString capture 232 blob label
  let deviceSerial ← readString capture 240 blob label
  let comments ← readString capture 248 blob label
  rejectIf (productName.isEmpty || firmwareVersion.isEmpty || softwareBuildId.isEmpty ||
    sensorProfileId.isEmpty || configurationId.isEmpty) "required capture identity is empty"
  .ok {
    captureUuid := arrayAt 16 capture 0
    deviceUuid := arrayAt 16 capture 16
    configurationSha256 := arrayAt 32 capture 32
    sensorProfileSha256 := arrayAt 32 capture 64
    createdTaiNanoseconds := u64At capture 96
    createdUtcNanoseconds := u64At capture 104
    nominalVoltageNumerator := s64At capture 112
    nominalVoltageDenominator := u64At capture 120
    nominalFrequencyNumerator := u64At capture 128
    nominalFrequencyDenominator := u64At capture 136
    topology := ⟨u32At capture 144⟩
    calibrationStatus := ⟨u32At capture 148⟩
    flags := u32At capture 152
    stationName, siteName, circuitName, productName, deviceModel, firmwareVersion,
    softwareBuildId, sensorProfileId, configurationId, calibrationId, deviceSerial, comments }

def parseSegment (record : Bytes) : MncwfV4TimebaseSegment where
  firstFrame := u64At record 0
  frameCount := u64At record 8
  firstSequence := u64At record 16
  sequenceStep := u64At record 24
  acquisitionRateNumerator := u64At record 32
  acquisitionRateDenominator := u64At record 40
  persistedRateNumerator := u64At record 48
  persistedRateDenominator := u64At record 56
  correlationSequence := u64At record 64
  correlationPlTick := u64At record 72
  correlationTaiNanoseconds := u64At record 80
  correlationUtcNanoseconds := u64At record 88
  uncertaintyNanoseconds := u64At record 96
  decimationDivisor := u32At record 104
  decimationMethod := ⟨u16At record 108⟩
  clockSource := ⟨u16At record 110⟩
  timeQuality := ⟨u16At record 112⟩
  flags := u16At record 114
  utcOffsetSeconds := s32At record 116
  sourceFrameCount := u64At record 120

def flagged16 (flags mask : UInt16) : Bool := flags &&& mask != 0

def flagged (flags mask : UInt32) : Bool := flags &&& mask != 0

def reduced (numerator denominator : Nat) : Checked (Nat × Nat) := do
  rejectIf (numerator == 0 || denominator == 0) "sample-rate rational is zero"
  let divisor := Nat.gcd numerator denominator
  .ok (numerator / divisor, denominator / divisor)

def rateMatchesDecimation (segment : MncwfV4TimebaseSegment) : Checked Bool := do
  let numerator := segment.acquisitionRateNumerator.toNat
  let decimation := segment.decimationDivisor.toNat
  let cancellation := Nat.gcd numerator decimation
  let denominator ← checkedMultiply segment.acquisitionRateDenominator.toNat
    (decimation / cancellation) "decimated sample-rate denominator"
  let expected ← reduced (numerator / cancellation) denominator
  let persisted ← reduced segment.persistedRateNumerator.toNat
    segment.persistedRateDenominator.toNat
  .ok (expected == persisted)

/-- What the loop over the segments carries from one to the next. -/
structure TimebaseCursor where
  expectedFirstFrame : Nat := 0
  expectedNextSequence : Option Nat := none
  previous : Option MncwfV4TimebaseSegment := none

def checkSegmentGeometry (segment : MncwfV4TimebaseSegment) : Checked Unit :=
  if segment.decimationMethod = MncwfDecimationMethod.none then
    rejectIf (segment.decimationDivisor != 1 || segment.sequenceStep != 1 ||
      segment.sourceFrameCount != segment.frameCount)
      "non-decimated timebase geometry is inconsistent"
  else do
    let divisor := segment.decimationDivisor.toNat
    let frames := segment.frameCount.toNat
    rejectIf (segment.sequenceStep.toNat != divisor)
      "boxcar sequence step does not equal its divisor"
    let complete ← checkedMultiply (frames - 1) divisor "boxcar source-frame minimum"
    let minimum ← checkedAdd complete 1 "boxcar source-frame minimum"
    let maximum ← checkedMultiply frames divisor "boxcar source-frame maximum"
    rejectIf (segment.sourceFrameCount.toNat < minimum ||
      maximum < segment.sourceFrameCount.toNat) "boxcar source-frame count is inconsistent"

def rateChanged (previous segment : MncwfV4TimebaseSegment) : Checked Bool := do
  let previousAcquired ← reduced previous.acquisitionRateNumerator.toNat
    previous.acquisitionRateDenominator.toNat
  let acquired ← reduced segment.acquisitionRateNumerator.toNat
    segment.acquisitionRateDenominator.toNat
  let previousPersisted ← reduced previous.persistedRateNumerator.toNat
    previous.persistedRateDenominator.toNat
  let persisted ← reduced segment.persistedRateNumerator.toNat
    segment.persistedRateDenominator.toNat
  .ok (previousAcquired != acquired || previousPersisted != persisted ||
    previous.decimationDivisor != segment.decimationDivisor ||
    previous.decimationMethod != segment.decimationMethod)

def checkSegment (cursor : TimebaseCursor) (segment : MncwfV4TimebaseSegment) :
    Checked TimebaseCursor := do
  rejectIf (segment.firstFrame.toNat != cursor.expectedFirstFrame || segment.frameCount == 0 ||
    segment.sequenceStep == 0 || segment.decimationDivisor == 0 ||
    segment.decimationDivisor > 65536 || flagged16 segment.flags (~~~timeKnownFlags) ||
    segment.clockSource.code > MncwfClockSource.manual.code ||
    segment.timeQuality.code > MncwfTimeQuality.locked.code ||
    segment.decimationMethod.code > MncwfDecimationMethod.boxcarMeanTowardZero.code ||
    (!flagged16 segment.flags timeUtcOffsetKnown && (segment.utcOffsetSeconds != 0 ||
      segment.correlationUtcNanoseconds != 0 ||
      flagged16 segment.flags (timePositiveLeapPending ||| timeNegativeLeapPending))) ||
    segment.correlationTaiNanoseconds == 0 ||
    (flagged16 segment.flags timePositiveLeapPending &&
      flagged16 segment.flags timeNegativeLeapPending)) "timebase segment is invalid"
  checkSegmentGeometry segment
  let matching ← rateMatchesDecimation segment
  rejectIf (!matching) "persisted rate does not match acquisition rate/divisor"
  rejectIf (cursor.previous.isNone &&
    flagged16 segment.flags (timeRateChangeBefore ||| timeSequenceGapBefore))
    "first timebase segment declares a preceding discontinuity"
  let gap := flagged16 segment.flags timeSequenceGapBefore
  rejectIf (cursor.expectedNextSequence.any fun expected =>
    (!gap && segment.firstSequence.toNat != expected) ||
      (gap && segment.firstSequence.toNat ≤ expected))
    "timebase sequence continuity is inconsistent"
  match cursor.previous with
  | none => .ok ()
  | some previous => do
      let changed ← rateChanged previous segment
      rejectIf (changed != flagged16 segment.flags timeRateChangeBefore)
        "timebase rate-change flag is inconsistent"
  let expectedNextSequence ← checkedAdd segment.firstSequence.toNat
    segment.sourceFrameCount.toNat "timebase source sequence"
  let expectedFirstFrame ← checkedAdd segment.firstFrame.toNat segment.frameCount.toNat
    "timebase frame coverage"
  .ok { expectedFirstFrame, expectedNextSequence := some expectedNextSequence,
        previous := some segment }

def checkSegments : TimebaseCursor → List MncwfV4TimebaseSegment → Checked Nat
  | cursor, [] => .ok cursor.expectedFirstFrame
  | cursor, segment :: segments => do
      let next ← checkSegment cursor segment
      checkSegments next segments

def parseChannel (record blob : Bytes) : Checked MncwfV4ChannelDefinition := do
  let name ← readString record 168 blob "channel name"
  let unitSymbol ← readString record 176 blob "channel unit"
  let description ← readString record 184 blob "channel description"
  .ok {
    stableId := arrayAt 16 record 0
    sourceChannel := u32At record 16
    flags := u32At record 20
    phase := ⟨u16At record 24⟩
    quantity := ⟨u16At record 26⟩
    siUnit := ⟨u16At record 28⟩
    sampleEncoding := ⟨u16At record 30⟩
    storageBits := u16At record 32
    validBits := u16At record 34
    displayExponent10 := s16At record 36
    gainNumerator := s64At record 40
    gainDenominator := u64At record 48
    offsetNumerator := s64At record 56
    offsetDenominator := u64At record 64
    primarySecondaryRatioNumerator := u64At record 72
    primarySecondaryRatioDenominator := u64At record 80
    nominalNumerator := s64At record 88
    nominalDenominator := u64At record 96
    rangeMinimumNumerator := s64At record 104
    rangeMinimumDenominator := u64At record 112
    rangeMaximumNumerator := s64At record 120
    rangeMaximumDenominator := u64At record 128
    resolutionNumerator := u64At record 136
    resolutionDenominator := u64At record 144
    clippingLow := s64At record 152
    clippingHigh := s64At record 160
    name, unitSymbol, description }

def checkChannel (before : List MncwfV4ChannelDefinition) (channel : MncwfV4ChannelDefinition)
    (reserved : Bool) : Checked Unit := do
  rejectIf (allZero channel.stableId.val || before.any (·.stableId == channel.stableId) ||
    before.any (·.sourceChannel == channel.sourceChannel) ||
    flagged channel.flags (~~~channelKnownFlags) || !flagged channel.flags channelEnabled ||
    channel.phase.code > MncwfPhase.ca.code || channel.quantity.code > MncwfQuantity.ratio.code ||
    channel.siUnit.code > MncwfSiUnit.hertz.code ||
    channel.sampleEncoding != MncwfSampleEncoding.signedIntegerLittleEndian ||
    channel.storageBits == 0 || channel.storageBits > 64 || channel.storageBits % 8 != 0 ||
    channel.validBits == 0 || channel.validBits > channel.storageBits || !reserved ||
    channel.name.isEmpty || channel.unitSymbol.isEmpty) "channel definition is invalid"
  rejectIf (flagged channel.flags channelTransformValid && (channel.gainNumerator == 0 ||
    channel.gainDenominator == 0 || channel.offsetDenominator == 0))
    "channel affine transform is invalid"
  rejectIf (flagged channel.flags channelRatioValid &&
    (channel.primarySecondaryRatioNumerator == 0 ||
      channel.primarySecondaryRatioDenominator == 0)) "channel ratio is invalid"
  rejectIf (flagged channel.flags channelNominalValid && channel.nominalDenominator == 0)
    "channel nominal has a zero denominator"
  rejectIf (flagged channel.flags channelRangeValid && (channel.rangeMinimumDenominator == 0 ||
    channel.rangeMaximumDenominator == 0)) "channel range has a zero denominator"
  rejectIf (flagged channel.flags channelResolutionValid && (channel.resolutionNumerator == 0 ||
    channel.resolutionDenominator == 0)) "channel resolution is invalid"
  rejectIf (flagged channel.flags channelClippingValid &&
    channel.clippingHigh < channel.clippingLow) "channel clipping bounds are reversed"

def readChannels (records blob : Bytes) :
    Nat → Nat → List MncwfV4ChannelDefinition → Checked (List MncwfV4ChannelDefinition)
  | 0, _, _ => .ok []
  | count + 1, index, before => do
      let record := recordAt records channelDefinitionBytes index
      let channel ← parseChannel record blob
      checkChannel before channel
        (u16At record 38 == 0 && allZero (slice record 192 16))
      let rest ← readChannels records blob count (index + 1) (channel :: before)
      .ok (channel :: rest)

def frameBytes (channels : List MncwfV4ChannelDefinition) : Nat :=
  (channels.map fun channel => channel.storageBits.toNat / 8).sum

def parseEvent (record blob : Bytes) : Checked MncwfV4EventDescriptor := do
  let taxonomyName ← readString record 224 blob "event taxonomy name"
  let label ← readString record 232 blob "event label"
  let settingsSnapshotJson ← readString record 240 blob "event settings snapshot"
  .ok {
    eventUuid := arrayAt 16 record 0
    taxonomy := ⟨u16At record 16⟩
    eventType := u16At record 18
    lifecycle := ⟨u16At record 20⟩
    timeQuality := ⟨u16At record 22⟩
    flags := u32At record 24
    phaseMask := u32At record 28
    quantity := ⟨u16At record 32⟩
    siUnit := ⟨u16At record 34⟩
    triggerSource := u16At record 36
    configurationGeneration := u32At record 40
    severity := u32At record 44
    startSequence := u64At record 48
    currentSequence := u64At record 56
    endSequence := u64At record 64
    triggerSequence := u64At record 72
    startTaiNanoseconds := u64At record 80
    currentTaiNanoseconds := u64At record 88
    endTaiNanoseconds := u64At record 96
    triggerTaiNanoseconds := u64At record 104
    startUtcNanoseconds := u64At record 112
    currentUtcNanoseconds := u64At record 120
    endUtcNanoseconds := u64At record 128
    triggerUtcNanoseconds := u64At record 136
    uncertaintyNanoseconds := u64At record 144
    referenceMicroUnits := s64At record 152
    thresholdMicroUnits := s64At record 160
    hysteresisMicroUnits := s64At record 168
    extremaMicroUnits := ⟨s64At record 176, s64At record 184, s64At record 192⟩
    durationSamples := u64At record 200
    updateCount := u64At record 208
    status := u32At record 216
    taxonomyName, label, settingsSnapshotJson }

def checkEvent (before : List MncwfV4EventDescriptor) (event : MncwfV4EventDescriptor)
    (reserved : Bool) : Checked Unit := do
  rejectIf (allZero event.eventUuid.val || before.any (·.eventUuid == event.eventUuid) ||
    event.taxonomy.code > MncwfEventTaxonomy.productAlarm.code || event.eventType == 0 ||
    event.lifecycle.code < MncwfEventLifecycle.start.code ||
    event.lifecycle.code > MncwfEventLifecycle.complete.code ||
    event.timeQuality.code > MncwfTimeQuality.locked.code ||
    flagged event.flags (~~~eventKnownFlags) || !flagged event.flags eventStartValid ||
    event.phaseMask == 0 || flagged event.phaseMask (~~~eventKnownPhaseMask) ||
    event.quantity.code > MncwfQuantity.ratio.code ||
    event.siUnit.code > MncwfSiUnit.hertz.code || !reserved || event.taxonomyName.isEmpty ||
    event.label.isEmpty) "event descriptor is invalid"
  rejectIf (flagged event.flags eventCurrentValid &&
    event.currentSequence < event.startSequence) "event current anchor precedes its start"
  rejectIf (flagged event.flags eventEndValid && (event.endSequence < event.startSequence ||
    (flagged event.flags eventCurrentValid && event.endSequence < event.currentSequence)))
    "event end anchor is out of order"
  rejectIf ((event.lifecycle == MncwfEventLifecycle.update &&
      !flagged event.flags eventCurrentValid) ||
    ((event.lifecycle == MncwfEventLifecycle.ended ||
      event.lifecycle == MncwfEventLifecycle.abort ||
      event.lifecycle == MncwfEventLifecycle.complete) && !flagged event.flags eventEndValid))
    "event lifecycle is missing its required anchor"
  rejectIf (flagged event.flags eventSettingsSnapshotValid != !event.settingsSnapshotJson.isEmpty)
    "event settings-snapshot flag disagrees with its payload"

def readEvents (records blob : Bytes) :
    Nat → Nat → List MncwfV4EventDescriptor → Checked (List MncwfV4EventDescriptor)
  | 0, _, _ => .ok []
  | count + 1, index, before => do
      let record := recordAt records eventDescriptorBytes index
      let event ← parseEvent record blob
      checkEvent before event
        (u16At record 38 == 0 && u32At record 220 == 0 && u64At record 248 == 0)
      let rest ← readEvents records blob count (index + 1) (event :: before)
      .ok (event :: rest)

def parseQuality (record : Bytes) : MncwfV4QualityInterval where
  firstFrame := u64At record 0
  frameCount := u64At record 8
  firstSequence := u64At record 16
  lastSequence := u64At record 24
  channelMask := u64At record 32
  flags := u32At record 40
  severity := u16At record 44
  source := u16At record 46
  detailCode := u32At record 48

def readQualities (records : Bytes) : Nat → Nat → Checked (List MncwfV4QualityInterval)
  | 0, _ => .ok []
  | count + 1, index => do
      let record := recordAt records qualityIntervalBytes index
      let quality := parseQuality record
      rejectIf (quality.flags == 0 || flagged quality.flags (~~~qualityKnownFlags) ||
        quality.lastSequence < quality.firstSequence || u32At record 52 != 0 ||
        u64At record 56 != 0) "quality interval is invalid"
      let rest ← readQualities records count (index + 1)
      .ok (quality :: rest)

def parseLineage (record : Bytes) : MncwfV4LineageEntry where
  relation := ⟨u16At record 0⟩
  flags := u16At record 2
  relatedCaptureUuid := arrayAt 16 record 8
  relatedEventUuid := arrayAt 16 record 24
  firstSequence := u64At record 40
  lastSequence := u64At record 48
  partIndex := u32At record 56
  partCount := u32At record 60

def readLineages (records : Bytes) : Nat → Nat → Checked (List MncwfV4LineageEntry)
  | 0, _ => .ok []
  | count + 1, index => do
      let record := recordAt records lineageEntryBytes index
      let lineage := parseLineage record
      rejectIf (lineage.relation.code < MncwfLineageRelation.parent.code ||
        lineage.relation.code > MncwfLineageRelation.virtualSlice.code || lineage.flags != 0 ||
        u32At record 4 != 0 || allZero lineage.relatedCaptureUuid.val ||
        lineage.lastSequence < lineage.firstSequence || lineage.partCount == 0 ||
        lineage.partCount ≤ lineage.partIndex) "lineage entry is invalid"
      let rest ← readLineages records count (index + 1)
      .ok (lineage :: rest)

/-- What the reader and the writer take from the zstd library; `none` is an error code. -/
structure Zstd where
  compress : Bytes → Option Bytes
  findFrameCompressedSize : Bytes → Option Nat
  frameContentSize : Bytes → Option Nat
  decompress : Nat → Bytes → Option Bytes

inductive ChunkCodec where
  | raw
  | zstd
  deriving DecidableEq, Repr

structure ChunkInfo where
  firstFrame : Nat
  frameCount : Nat
  storedOffset : Nat
  storedBytes : Nat
  logicalBytes : Nat
  codec : ChunkCodec
  flags : UInt16
  logicalCrc32c : BitVec 32
  deriving DecidableEq, Repr

def contentSizeBytes (descriptor : UInt8) : Nat :=
  if descriptor >>> 6 == 0 then (if descriptor &&& 0x20 != 0 then 1 else 0)
  else 2 ^ (descriptor >>> 6).toNat

def validateV5ZstdFrame (zstd : Zstd) (frame : Bytes) (expectedLogicalBytes : Nat) :
    Checked Unit := do
  rejectIf (frame.length < 6 || natAt 4 frame 0 != 0xFD2FB528) "v5 Zstd frame magic is invalid"
  let descriptor := frame.getD 4 0
  let singleSegment := descriptor &&& 0x20 != 0
  rejectIf (descriptor &&& 0x18 != 0 || descriptor &&& 0x04 == 0 || descriptor &&& 0x03 != 0)
    "v5 Zstd frame options are unsupported"
  let cursor := if singleSegment then 5 else 6
  let windowByte := frame.getD 5 0
  let windowBase := 2 ^ (10 + (windowByte >>> 3).toNat)
  let contentBytes := contentSizeBytes descriptor
  rejectIf (contentBytes == 0 || frame.length < cursor + contentBytes)
    "v5 Zstd frame content size is missing or truncated"
  let contentSize := natAt contentBytes frame cursor + (if contentBytes == 2 then 256 else 0)
  rejectIf (contentSize != expectedLogicalBytes) "v5 Zstd frame content size is invalid"
  let windowBytes := if singleSegment then contentSize
    else windowBase + windowBase / 8 * (windowByte &&& 0x07).toNat
  rejectIf (maxChunkLogicalBytes < windowBytes) "v5 Zstd frame window exceeds the 1 MiB limit"
  match zstd.findFrameCompressedSize frame with
  | none => reject "validate v5 Zstd frame extent"
  | some size =>
      rejectIf (size != frame.length) "v5 Zstd chunk must contain exactly one frame"

def parseChunk (entry : Bytes) : Nat × ChunkInfo :=
  let codec := natAt 2 entry 40
  (codec, {
    firstFrame := natAt 8 entry 0
    frameCount := natAt 8 entry 8
    storedOffset := natAt 8 entry 16
    storedBytes := natAt 8 entry 24
    logicalBytes := natAt 8 entry 32
    codec := if codec == 0 then .raw else .zstd
    flags := u16At entry 42
    logicalCrc32c := BitVec.ofNat 32 (natAt 4 entry 44) })

/-- The loop over the chunk table, with the frame and the offset that the next chunk begins at. -/
def readChunks (zstd : Zstd) (data : Bytes) (itemBytes itemCount : Nat) :
    Nat → Nat → Nat → Nat → Checked (List ChunkInfo)
  | 0, _, expectedFirstFrame, expectedStoredOffset => do
      rejectIf (expectedFirstFrame != itemCount || expectedStoredOffset != data.length)
        "v5 chunk coverage is incomplete"
      .ok []
  | count + 1, index, expectedFirstFrame, expectedStoredOffset => do
      let entry := slice data (sectionHeaderBytes + index * chunkEntryBytes) chunkEntryBytes
      let (codec, chunk) := parseChunk entry
      let expectedLogical ← checkedMultiply chunk.frameCount itemBytes "v5 chunk logical bytes"
      rejectIf (chunk.firstFrame != expectedFirstFrame || chunk.frameCount == 0 ||
        chunk.logicalBytes != expectedLogical || maxChunkLogicalBytes < chunk.logicalBytes ||
        chunk.storedOffset != expectedStoredOffset || chunk.storedBytes == 0 ||
        natAt 8 entry 48 != 0 || 1 < codec ||
        (if chunk.codec = .raw then chunk.flags != 0 || chunk.storedBytes != chunk.logicalBytes
          else chunk.flags != chunkFrameChecksum || chunk.logicalBytes ≤ chunk.storedBytes))
        "v5 sample chunk is invalid"
      let stored ← range data chunk.storedOffset chunk.storedBytes "v5 sample chunk"
      if chunk.codec = .zstd then validateV5ZstdFrame zstd stored chunk.logicalBytes
      let nextFrame ← checkedAdd expectedFirstFrame chunk.frameCount "v5 frame coverage"
      let chunkEnd ← checkedAdd chunk.storedOffset chunk.storedBytes "v5 stored chunk"
      let nextOffset ← alignEight chunkEnd
      rejectIf (data.length < nextOffset) "v5 chunk alignment exceeds the sample section"
      let padding ← range data chunkEnd (nextOffset - chunkEnd) "v5 chunk alignment padding"
      rejectIf (!allZero padding) "v5 chunk alignment padding is nonzero"
      let rest ← readChunks zstd data itemBytes itemCount count (index + 1) nextFrame nextOffset
      .ok (chunk :: rest)

def decodeChunk (zstd : Zstd) (data : Bytes) (chunk : ChunkInfo) : Checked Bytes := do
  let stored ← range data chunk.storedOffset chunk.storedBytes "v5 sample chunk"
  let logical ←
    match chunk.codec with
    | .raw => .ok stored
    | .zstd => do
        rejectIf (zstd.frameContentSize stored != some chunk.logicalBytes)
          "v5 Zstd frame content size is invalid"
        match zstd.decompress chunk.logicalBytes stored with
        | none => reject "decompress v5 sample chunk"
        | some produced => do
            rejectIf (produced.length != chunk.logicalBytes)
              "v5 Zstd frame decompressed size is invalid"
            .ok produced
  rejectIf (mncwfCrc32c logical != chunk.logicalCrc32c) "v5 sample chunk logical CRC32C mismatch"
  .ok logical

def readV5Samples (zstd : Zstd) (mode : ValidationMode) (info : SectionInfo) :
    Checked (List ChunkInfo × Bytes) := do
  rejectIf (maxFileBytes < info.logicalBytes)
    "v5 logical sample data exceeds the configured size bound"
  let data := info.data
  rejectIf (data.length < sectionHeaderBytes || natAt 4 data 0 != info.type ||
    natAt 2 data 4 != 2 || natAt 2 data 6 != sectionHeaderBytes || natAt 4 data 8 != 0 ||
    natAt 4 data 12 != info.itemBytes || natAt 8 data 16 != info.itemCount ||
    natAt 8 data 24 != sectionHeaderBytes || natAt 8 data 40 != 0)
    "v5 sample-section envelope is invalid"
  let tableBytes := natAt 8 data 32
  rejectIf (tableBytes == 0 || tableBytes % chunkEntryBytes != 0)
    "v5 chunk table geometry is invalid"
  let chunkCount := tableBytes / chunkEntryBytes
  rejectIf (maxChunks < chunkCount) "v5 chunk count exceeds the allocation bound"
  let tableEnd ← checkedAdd sectionHeaderBytes tableBytes "v5 chunk table"
  let _ ← range data sectionHeaderBytes tableBytes "v5 chunk table"
  let firstOffset ← alignEight tableEnd
  let chunks ← readChunks zstd data info.itemBytes info.itemCount chunkCount 0 0 firstOffset
  if mode = .complete then do
    let parts ← chunks.mapM (decodeChunk zstd data)
    .ok (chunks, parts.flatten)
  else .ok (chunks, [])

/-- What a reader exposes. -/
structure Contents where
  version : Nat
  sections : List SectionInfo
  captureMetadata : MncwfV4CaptureMetadata
  timebaseSegments : List MncwfV4TimebaseSegment
  channels : List MncwfV4ChannelDefinition
  events : List MncwfV4EventDescriptor
  qualityIntervals : List MncwfV4QualityInterval
  lineage : List MncwfV4LineageEntry
  sampleChunks : List ChunkInfo
  sampleData : Bytes
  sampleFrameCount : Nat
  sampleFrameBytes : Nat
  deriving DecidableEq

def sequenceIsStored (segments : List MncwfV4TimebaseSegment) (sequence : UInt64) : Bool :=
  segments.any fun segment =>
    segment.firstSequence ≤ sequence &&
      sequence.toNat ≤ segment.firstSequence.toNat + segment.sourceFrameCount.toNat - 1

def checkAnchors (segments : List MncwfV4TimebaseSegment) (event : MncwfV4EventDescriptor) :
    Checked Unit :=
  rejectIf (!sequenceIsStored segments event.startSequence ||
    (flagged event.flags eventCurrentValid && !sequenceIsStored segments event.currentSequence) ||
    (flagged event.flags eventEndValid && !sequenceIsStored segments event.endSequence) ||
    (flagged event.flags eventTriggerValid && !sequenceIsStored segments event.triggerSequence))
    "event anchor lies outside the capture"

def checkQuality (frameCount channels : Nat) (quality : MncwfV4QualityInterval) :
    Checked Unit := do
  rejectIf (frameCount < quality.firstFrame.toNat ||
    frameCount - quality.firstFrame.toNat < quality.frameCount.toNat)
    "quality interval lies outside the sample data"
  rejectIf (channels < 64 && quality.channelMask.toNat / 2 ^ channels != 0)
    "quality interval references an unknown channel"

def findSection (sections : List SectionInfo) (type : Nat) : Checked SectionInfo :=
  match sections.find? fun info => info.type == type with
  | none => reject "mandatory section lookup failed"
  | some info => .ok info

def readContents (zstd : Zstd) (mode : ValidationMode) (container : Container) :
    Checked Contents := do
  let find := findSection container.sections
  let captureInfo ← find SectionType.captureMetadata
  let captureSection ← parseSectionEnvelope captureInfo captureMetadataBytes 1 1 true
  let captureMetadata ← parseCapture captureSection.records captureSection.blob
  let timeInfo ← find SectionType.timebaseSegments
  let timeSection ← parseSectionEnvelope timeInfo timebaseSegmentBytes 1 65536 false
  let timebaseSegments := (List.range timeInfo.itemCount).map fun index =>
    parseSegment (recordAt timeSection.records timebaseSegmentBytes index)
  let coveredFrames ← checkSegments {} timebaseSegments
  let channelInfo ← find SectionType.channelDefinitions
  let channelSection ← parseSectionEnvelope channelInfo channelDefinitionBytes 1 maxChannels true
  let channels ← readChannels channelSection.records channelSection.blob channelInfo.itemCount 0 []
  let eventInfo ← find SectionType.eventDescriptors
  let eventSection ← parseSectionEnvelope eventInfo eventDescriptorBytes 0 maxEvents true
  let events ← readEvents eventSection.records eventSection.blob eventInfo.itemCount 0 []
  let qualityInfo ← find SectionType.qualityIntervals
  let qualitySection ← parseSectionEnvelope qualityInfo qualityIntervalBytes 0
    (maxMetadataSectionBytes / qualityIntervalBytes) false
  let qualityIntervals ← readQualities qualitySection.records qualityInfo.itemCount 0
  let lineageInfo ← find SectionType.lineage
  let lineageSection ← parseSectionEnvelope lineageInfo lineageEntryBytes 0 maxLineageEntries false
  let lineage ← readLineages lineageSection.records lineageInfo.itemCount 0
  let sampleInfo ← find SectionType.sampleData
  rejectIf (sampleInfo.itemBytes == 0 || sampleInfo.itemBytes != frameBytes channels)
    "sample frame size disagrees with channel definitions"
  let (sampleChunks, sampleData) ←
    if container.header.version = v4Version then do
      let sampleSection ← parseSectionEnvelope sampleInfo sampleInfo.itemBytes 1
        (maxFileBytes / sampleInfo.itemBytes) false
      .ok ([], if mode = .complete then sampleSection.records else [])
    else readV5Samples zstd mode sampleInfo
  rejectIf (coveredFrames != sampleInfo.itemCount)
    "timebase segments do not cover every sample frame"
  events.forM (checkAnchors timebaseSegments)
  qualityIntervals.forM (checkQuality sampleInfo.itemCount channels.length)
  .ok {
    version := container.header.version
    sections := container.sections
    captureMetadata, timebaseSegments, channels, events, qualityIntervals, lineage,
    sampleChunks, sampleData
    sampleFrameCount := sampleInfo.itemCount
    sampleFrameBytes := sampleInfo.itemBytes }

/-- `MncwfV4Reader`. -/
def readFile (zstd : Zstd) (mode : ValidationMode) (bytes : Bytes) : Checked Contents := do
  let container ← readContainer mode bytes
  readContents zstd mode container

/-- Whatever the first computation returns, the second returns something in a relation with it. -/
def Follows {α β : Type} (related : α → β → Prop) (first : Checked α) (second : Checked β) :
    Prop :=
  ∀ value, first = .ok value → ∃ other, second = .ok other ∧ related value other

theorem follows_bind {α β γ δ : Type} {related : α → β → Prop} {results : γ → δ → Prop}
    {first : Checked α} {second : Checked β} {rest : α → Checked γ} {others : β → Checked δ}
    (parts : Follows related first second)
    (follows : ∀ value other, related value other → Follows results (rest value) (others other)) :
    Follows results (first >>= rest) (second >>= others) := by
  intro result returned
  obtain ⟨value, computed, returned⟩ := Loops.bind_ok returned
  obtain ⟨other, matching, same⟩ := parts value computed
  obtain ⟨final, finished, fits⟩ := follows value other same result returned
  refine ⟨final, ?_, fits⟩
  rw [matching]
  exact finished

theorem follows_same {α γ δ : Type} {results : γ → δ → Prop} {first : Checked α}
    {rest : α → Checked γ} {others : α → Checked δ}
    (follows : ∀ value, Follows results (rest value) (others value)) :
    Follows results (first >>= rest) (first >>= others) := by
  have equal : Follows Eq first first := fun value computed => ⟨value, computed, rfl⟩
  apply follows_bind equal
  rintro value other rfl
  exact follows value

theorem follows_ok {α β : Type} {related : α → β → Prop} {value : α} {other : β}
    (fits : related value other) : Follows related (.ok value) (.ok other) := by
  rintro result returned
  cases returned
  exact ⟨other, rfl, fits⟩

theorem follows_rejectIf {γ : Type} {results : γ → γ → Prop} {bad worse : Bool} {reason : String}
    {value : γ} (implied : worse = false → bad = false) (fits : results value value) :
    Follows results (rejectIf worse reason >>= fun _ => .ok value)
      (rejectIf bad reason >>= fun _ => .ok value) := by
  intro result returned
  cases worse with
  | true => cases returned
  | false =>
      cases returned
      refine ⟨value, ?_, fits⟩
      rw [implied rfl]
      rfl

theorem readContainer_metadataOnly (bytes : Bytes) :
    Follows Eq (readContainer .complete bytes) (readContainer .metadataOnly bytes) := by
  unfold readContainer
  iterate 8 refine follows_same fun _ => ?_
  apply follows_rejectIf
  · intro passed
    rw [List.any_eq_false] at passed ⊢
    intro info member
    have checked := passed info member
    simp only [show (ValidationMode.complete == ValidationMode.metadataOnly) = false from rfl,
      Bool.false_and, Bool.not_false, Bool.true_and] at checked
    simp [checked]
  · rfl

theorem readV5Samples_metadataOnly (zstd : Zstd) (info : SectionInfo) :
    Follows (fun first second => second = (first.1, [])) (readV5Samples zstd .complete info)
      (readV5Samples zstd .metadataOnly info) := by
  unfold readV5Samples
  iterate 8 refine follows_same fun _ => ?_
  rename_i chunks
  intro result returned
  rw [if_pos rfl] at returned
  obtain ⟨parts, decoded, returned⟩ := Loops.bind_ok returned
  cases returned
  exact ⟨(chunks, []), rfl, rfl⟩

theorem readContents_metadataOnly (zstd : Zstd) (container : Container) :
    Follows (fun first second => second = { first with sampleData := [] })
      (readContents zstd .complete container) (readContents zstd .metadataOnly container) := by
  unfold readContents
  iterate 20 refine follows_same fun _ => ?_
  dsimp only
  split
  · refine follows_same fun records => ?_
    have kept : Follows (fun first second => second = (first.1, []))
        (Except.ok (([] : List ChunkInfo), records.records))
        (Except.ok (([] : List ChunkInfo), ([] : Bytes)) : Checked (List ChunkInfo × Bytes)) :=
      follows_ok rfl
    refine follows_bind kept ?_
    rintro samples others rfl
    iterate 3 refine follows_same fun _ => ?_
    exact follows_ok rfl
  · refine follows_bind (readV5Samples_metadataOnly zstd _) ?_
    rintro samples others rfl
    iterate 3 refine follows_same fun _ => ?_
    exact follows_ok rfl

theorem readFile_undecoded (zstd : Zstd) (bytes : Bytes) :
    Follows (fun first second => second = { first with sampleData := [] })
      (readFile zstd .complete bytes) (readFile zstd .metadataOnly bytes) := by
  unfold readFile
  refine follows_bind (readContainer_metadataOnly bytes) ?_
  rintro container other rfl
  exact readContents_metadataOnly zstd container

theorem readFile_metadataOnly (zstd : Zstd) (bytes : Bytes) :
    Follows (fun first second => first.captureMetadata = second.captureMetadata)
      (readFile zstd .complete bytes) (readFile zstd .metadataOnly bytes) := by
  intro contents read
  rcases readFile_undecoded zstd bytes contents read with ⟨other, opened, rfl⟩
  exact ⟨_, opened, rfl⟩

end Msap1.Mncwf
