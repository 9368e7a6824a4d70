import Msap1.Conversion.Comtrade
import Msap1.TextLines

/-! The texts of a COMTRADE export: the CFG, INF and HDR parts, and what stands between them. -/

namespace Msap1.Conversion

open ByteCodec TextLines

def cleanByte (commas : Bool) (character : UInt8) : UInt8 :=
  if (commas ∧ character = 0x2C) ∨ character < 0x20 ∨ character = 0x7F then 0x20
  else if character < 0x80 then character else 0x3F

def clean (value : Bytes) (maximum : Nat := 128) : Bytes :=
  (value.take maximum).map (cleanByte true)

def cleanLine (value : Bytes) (maximum : Nat := 4096) : Bytes :=
  (value.take maximum).map (cleanByte false)

/-- `decimal`: a `cpp_dec_float_50`, printed with 36 places in scientific notation. -/
def decimalText (numerator : Int) (denominator : Nat) : Checked Bytes :=
  if denominator = 0 then
    fail .sourceInvalid "waveform metadata contains a zero rational denominator"
  else .ok (scientific 36 numerator denominator)

def phaseName : Phase → Bytes
  | .a => ascii "A"
  | .b => ascii "B"
  | .c => ascii "C"
  | .neutral => ascii "N"
  | .ab => ascii "AB"
  | .bc => ascii "BC"
  | .ca => ascii "CA"
  | .none => []

def unitName (channel : ChannelDefinition) : Bytes :=
  if channel.unitSymbol ≠ [] then clean channel.unitSymbol 32
  else match channel.siUnit with
    | .ampere => ascii "A"
    | .volt => ascii "V"
    | .hertz => ascii "Hz"
    | .dimensionless => ascii "none"

def Topology.code : Topology → Nat
  | .unknown => 0
  | .wye => 1
  | .delta => 2

def CalibrationStatus.code : CalibrationStatus → Nat
  | .unknown => 0
  | .valid => 1
  | .expired => 2
  | .invalid => 3

def DecimationMethod.code : DecimationMethod → Nat
  | .none => 0
  | .boxcarMeanTowardZero => 1
  | .other code => code.toNat

def ClockSource.code : ClockSource → Nat
  | .unknown => 0
  | .system => 1
  | .ptp => 2
  | .gnss => 3
  | .manual => 4

def TimeQuality.code : TimeQuality → Nat
  | .unknown => 0
  | .unlocked => 1
  | .holdover => 2
  | .locked => 3

def EventLifecycle.code : EventLifecycle → Nat
  | .start => 1
  | .update => 2
  | .finish => 3
  | .abort => 4
  | .complete => 5

def LineageRelation.code : LineageRelation → Nat
  | .parent => 1
  | .previousContinuation => 2
  | .nextContinuation => 3
  | .event => 4
  | .virtualSlice => 5

def timeQualityName : TimeQuality → Bytes
  | .locked => ascii "A"
  | .holdover => ascii "B"
  | .unlocked => ascii "F"
  | .unknown => ascii "F"

def roundSignedHalfEven (value : BigRational) : Checked Int :=
  if value.denominator ≤ 0 then fail .timestampOutOfRange "invalid timestamp rational"
  else do
    let rounded ← roundHalfEven { value with numerator := value.numerator.natAbs }
    failIf (2 ^ 63 - 1 < rounded) .timestampOutOfRange
      "absolute timestamp exceeds the supported range"
    return if value.numerator < 0 then -(rounded : Int) else rounded

/-- The day, month and year of `gmtime_r`, from the days since the first of January 1970. Eras of
400 years begin in March. -/
def civilDate (days : Int) : Nat × Nat × Int :=
  let shifted := days + 719468
  let era := shifted / 146097
  let day := (shifted % 146097).toNat
  let year := (day - day / 1460 + day / 36524 - day / 146096) / 365
  let dayOfYear := day - (365 * year + year / 4 - year / 100)
  let month := (5 * dayOfYear + 2) / 153
  (dayOfYear - (153 * month + 2) / 5 + 1, if month < 10 then month + 3 else month - 9,
    era * 400 + year + if month < 10 then 0 else 1)

example : civilDate 0 = (1, 1, 1970) ∧ civilDate 19782 = (29, 2, 2024) ∧
    civilDate (-1) = (31, 12, 1969) := by
  decide

def timestampText (timestamp : BigRational) : Checked Bytes := do
  let rounded ← roundSignedHalfEven timestamp
  let seconds := rounded / 1000000000
  let fraction := (rounded % 1000000000).toNat
  let clock := (seconds % 86400).toNat
  let (day, month, year) := civilDate (seconds / 86400)
  return [padded 2 day, ascii "/", padded 2 month, ascii "/", signedDecimal year, ascii ",",
    padded 2 (clock / 3600), ascii ":", padded 2 (clock % 3600 / 60), ascii ":",
    padded 2 (clock % 60), ascii ".", padded 9 fraction].flatten

def offsetText (offsetSeconds : Int) : Bytes :=
  let absolute := offsetSeconds.natAbs
  [if offsetSeconds < 0 then ascii "-" else ascii "+", decimal (absolute / 3600), ascii "h",
    padded 2 (absolute % 3600 / 60)].flatten

def uuidString (uuid : Uuid) : Bytes :=
  let bytes : Bytes := (List.range 16).map fun index =>
    UInt8.ofNat (uuid.toNat / 256 ^ (15 - index) % 256)
  [hexadecimal (bytes.take 4), ascii "-", hexadecimal ((bytes.drop 4).take 2), ascii "-",
    hexadecimal ((bytes.drop 6).take 2), ascii "-", hexadecimal ((bytes.drop 8).take 2),
    ascii "-", hexadecimal (bytes.drop 10)].flatten

def eventLastSequence (event : EventDescriptor) : Nat :=
  if event.flags &&& eventEndValid ≠ 0 then event.endSequence
  else if event.flags &&& eventCurrentValid ≠ 0 then event.currentSequence
  else event.startSequence

section Cfg

variable (metadata : WaveformMetadata)

def stationLine : Bytes :=
  let capture := metadata.capture
  [clean capture.stationName, ascii ",",
    clean (if capture.deviceSerial = [] then capture.deviceModel else capture.deviceSerial),
    ascii ",2013"].flatten

def countsLine : Bytes :=
  [decimal (metadata.channels.length + metadata.events.length), ascii ",",
    decimal metadata.channels.length, ascii "A,", decimal metadata.events.length,
    ascii "D"].flatten

def channelLine (channel : ChannelDefinition) (index : Nat) : Checked Bytes := do
  let gain ← decimalText channel.gain.numerator channel.gain.denominator
  let offset ← decimalText channel.offset.numerator channel.offset.denominator
  return [decimal (index + 1), ascii ",", clean channel.name, ascii ",", phaseName channel.phase,
    ascii ",", clean metadata.capture.circuitName, ascii ",", unitName channel, ascii ",", gain,
    ascii ",", offset, ascii ",0,", signedDecimal channel.clippingLow, ascii ",",
    signedDecimal channel.clippingHigh, ascii ",",
    decimal channel.primarySecondaryRatio.numerator, ascii ",",
    decimal channel.primarySecondaryRatio.denominator, ascii ",P"].flatten

def eventLine (event : EventDescriptor) (index : Nat) : Bytes :=
  [decimal (index + 1), ascii ",event-", uuidString event.eventUuid, ascii ",", ascii ",",
    clean metadata.capture.circuitName, ascii ",0"].flatten

def rateLine (segment : TimebaseSegment) : Checked Bytes := do
  let rate ← decimalText segment.persistedRate.numerator segment.persistedRate.denominator
  return [rate, ascii ",", decimal (segment.firstFrame + segment.frameCount)].flatten

def qualityLine (segment : TimebaseSegment) : Bytes :=
  [timeQualityName segment.timeQuality, ascii ",",
    if segment.flags &&& (timePositiveLeapPending ||| timeNegativeLeapPending) ≠ 0
    then ascii "1" else ascii "0"].flatten

def firstTimebase : TimebaseSegment := metadata.timebaseSegments.headD {}

def cfgLines (start triggerUtc : BigRational) (timemult : Bytes) : Checked (List Bytes) := do
  let channels ← metadata.channels.zipIdx.mapM fun (channel, index) =>
    channelLine metadata channel index
  let frequency ← decimalText metadata.capture.nominalFrequency.numerator
    metadata.capture.nominalFrequency.denominator
  let rates ← metadata.timebaseSegments.mapM rateLine
  let begins ← timestampText start
  let triggered ← timestampText triggerUtc
  return [stationLine metadata, countsLine metadata] ++ channels ++
    metadata.events.zipIdx.map (fun (event, index) => eventLine metadata event index) ++
    [frequency, decimal metadata.timebaseSegments.length] ++ rates ++
    [begins, triggered, ascii "BINARY32", timemult,
      ascii "UTC," ++ offsetText (firstTimebase metadata).utcOffsetSeconds,
      qualityLine (firstTimebase metadata)]

def joined (lines : List Bytes) : Bytes := lines.flatMap fun line => line ++ crlf

def cfgText (start triggerUtc : BigRational) (timemult : Bytes) : Checked Bytes := do
  let lines ← cfgLines metadata start triggerUtc timemult
  return joined lines

end Cfg

section Hdr

variable (metadata : WaveformMetadata)

def hdrText (tickNanoseconds : Nat) : Bytes :=
  joined ([
    ascii "MNCWF source capture " ++ uuidString metadata.capture.sourceCaptureUuid,
    ascii "Selected capture " ++ uuidString metadata.capture.captureUuid,
    [ascii "COMTRADE timestamp rounding: ties-to-even, maximum absolute error ",
      decimal tickNanoseconds, ascii "/2 ns"].flatten,
    [ascii "Clock uncertainty: ", decimal (firstTimebase metadata).uncertaintyNanoseconds,
      ascii " ns; time quality ",
      timeQualityName (firstTimebase metadata).timeQuality].flatten] ++
    (if metadata.capture.comments = [] then [] else [clean metadata.capture.comments 2048]) ++
    metadata.lineage.map fun entry =>
      [ascii "Lineage relation=", decimal entry.relation.code, ascii " capture=",
        uuidString entry.relatedCaptureUuid, ascii " event=",
        uuidString entry.relatedEventUuid, ascii " sequences=", decimal entry.firstSequence,
        ascii "-", decimal entry.lastSequence].flatten)

end Hdr

section Inf

def field (key : String) (value : Bytes) : Bytes := ascii key ++ ascii "=" ++ value

def signedRationalText (rational : SignedRational) : Bytes :=
  signedDecimal rational.numerator ++ ascii "/" ++ decimal rational.denominator

def unsignedRationalText (rational : UnsignedRational) : Bytes :=
  decimal rational.numerator ++ ascii "/" ++ decimal rational.denominator

def captureFields (capture : CaptureMetadata) (scope : ExportScope) (trigger : EventDescriptor)
    (tickNanoseconds : Nat) : List Bytes :=
  [field "profile" (ascii "IEC 60255-24:2013 CFF/BINARY32"),
    field "source.capture_uuid" (uuidString capture.sourceCaptureUuid),
    field "selection.capture_uuid" (uuidString capture.captureUuid),
    field "source.device_uuid" (uuidString capture.deviceUuid),
    field "selection.scope" (match scope with
      | .capture => ascii "capture"
      | .event => ascii "event"),
    field "trigger.event_uuid" (uuidString trigger.eventUuid),
    field "configuration.sha256" (hexadecimal capture.configurationSha256),
    field "sensor_profile.sha256" (hexadecimal capture.sensorProfileSha256),
    field "configuration.id" (clean capture.configurationId),
    field "sensor_profile.id" (clean capture.sensorProfileId),
    field "firmware.version" (clean capture.firmwareVersion),
    field "software.build_id" (clean capture.softwareBuildId),
    field "calibration.id" (clean capture.calibrationId),
    field "calibration.status" (decimal capture.calibrationStatus.code),
    field "topology" (decimal capture.topology.code),
    field "timestamp.tick_nanoseconds" (decimal tickNanoseconds),
    field "timestamp.rounding" (ascii "half_even")]

def channelFields (channel : ChannelDefinition) (index : Nat) : List Bytes :=
  let keyed (key : String) (value : Bytes) : Bytes :=
    [ascii "channel.", decimal index, ascii ".", field key value].flatten
  [keyed "stable_uuid" (uuidString channel.stableId),
    keyed "source_channel" (decimal channel.sourceChannel),
    keyed "gain" (signedRationalText channel.gain),
    keyed "offset" (signedRationalText channel.offset),
    keyed "ratio" (unsignedRationalText channel.primarySecondaryRatio),
    keyed "flags" (decimal channel.flags.toNat),
    keyed "bits" (decimal channel.validBits ++ ascii "/" ++ decimal channel.storageBits),
    keyed "range" (signedRationalText channel.rangeMinimum ++ ascii ":" ++
      signedRationalText channel.rangeMaximum),
    keyed "clipping" (signedDecimal channel.clippingLow ++ ascii ":" ++
      signedDecimal channel.clippingHigh)]

def timebaseFields (segment : TimebaseSegment) (index : Nat) : List Bytes :=
  let keyed (key : String) (value : Bytes) : Bytes :=
    [ascii "timebase.", decimal index, ascii ".", field key value].flatten
  [keyed "frames" (decimal segment.firstFrame ++ ascii "+" ++ decimal segment.frameCount),
    keyed "sequences" (decimal segment.firstSequence ++ ascii "+" ++
      decimal segment.sourceFrameCount),
    keyed "sequence_step" (decimal segment.sequenceStep),
    keyed "acquisition_rate" (unsignedRationalText segment.acquisitionRate),
    keyed "persisted_rate" (unsignedRationalText segment.persistedRate),
    keyed "decimation" (decimal segment.decimationDivisor ++ ascii ":" ++
      decimal segment.decimationMethod.code),
    keyed "correlation" (decimal segment.correlationSequence ++ ascii ":" ++
      decimal segment.correlationUtcNanoseconds),
    keyed "clock" ([decimal segment.clockSource.code, ascii ":",
      decimal segment.timeQuality.code, ascii ":",
      decimal segment.uncertaintyNanoseconds].flatten),
    keyed "utc_offset_seconds" (signedDecimal segment.utcOffsetSeconds),
    keyed "flags" (decimal segment.flags.toNat)]

def eventFields (event : EventDescriptor) : List Bytes :=
  let (lowest, middle, highest) := event.extremaMicroUnits
  [[field "event" (uuidString event.eventUuid), field ",start" (decimal event.startSequence),
      field ",end" (decimal (eventLastSequence event)), field ",flags" (decimal event.flags.toNat),
      field ",status" (decimal event.status), field ",lifecycle" (decimal event.lifecycle.code),
      field ",phase_mask" (decimal event.phaseMask),
      field ",trigger_source" (decimal event.triggerSource),
      field ",severity" (decimal event.severity),
      field ",uncertainty_ns" (decimal event.uncertaintyNanoseconds),
      field ",reference_u" (signedDecimal event.referenceMicroUnits),
      field ",threshold_u" (signedDecimal event.thresholdMicroUnits),
      field ",hysteresis_u" (signedDecimal event.hysteresisMicroUnits),
      field ",extrema_u" ([signedDecimal lowest, ascii ":", signedDecimal middle, ascii ":",
        signedDecimal highest].flatten),
      field ",duration_samples" (decimal event.durationSamples),
      field ",updates" (decimal event.updateCount),
      field ",configuration_generation" (decimal event.configurationGeneration),
      field ",taxonomy" (clean event.taxonomyName), field ",label" (clean event.label)].flatten,
    [ascii "event.settings.", uuidString event.eventUuid, ascii "=",
      cleanLine event.settingsSnapshotJson].flatten]

def qualityField (quality : QualityInterval) : Bytes :=
  [ascii "quality=frames:", decimal quality.firstFrame, ascii "+", decimal quality.frameCount,
    ascii ",sequences:", decimal quality.firstSequence, ascii "-", decimal quality.lastSequence,
    ascii ",flags:", decimal quality.flags.toNat, ascii ",channels:",
    decimal quality.channelMask, ascii ",severity:", decimal quality.severity, ascii ",source:",
    decimal quality.source, ascii ",detail:", decimal quality.detailCode].flatten

def lineageField (entry : LineageEntry) : Bytes :=
  [ascii "lineage=relation:", decimal entry.relation.code, ascii ",capture:",
    uuidString entry.relatedCaptureUuid, ascii ",event:", uuidString entry.relatedEventUuid,
    ascii ",sequences:", decimal entry.firstSequence, ascii "-", decimal entry.lastSequence,
    ascii ",part:", decimal entry.partIndex, ascii "/", decimal entry.partCount].flatten

def infText (metadata : WaveformMetadata) (options : ConversionOptions)
    (trigger : EventDescriptor) (tickNanoseconds : Nat) : Bytes :=
  joined (captureFields metadata.capture options.scope trigger tickNanoseconds ++
    metadata.channels.zipIdx.flatMap (fun (channel, index) => channelFields channel index) ++
    metadata.timebaseSegments.zipIdx.flatMap (fun (segment, index) =>
      timebaseFields segment index) ++
    metadata.events.flatMap eventFields ++ metadata.qualityIntervals.map qualityField ++
    metadata.lineage.map lineageField)

end Inf

def prefixText (cfg inf hdr : Bytes) (datBytes : Nat) : Bytes :=
  [ascii "--- file type: CFG ---", crlf, cfg, ascii "--- file type: INF ---", crlf, inf,
    ascii "--- file type: HDR ---", crlf, hdr, ascii "--- file type: DAT BINARY32: ",
    decimal datBytes, ascii " ---", crlf].flatten

end Msap1.Conversion
