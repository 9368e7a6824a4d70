import Msap1.Machine
import Msap1.Mncwf.Selection
import Msap1.Mncwf.SignedSamples

/-! `MncwfWaveformSource`: a capture or the interval of an event, read frame by frame. A v5 file
is opened by its metadata only, and its chunks are decoded one at a time when they are read. -/

namespace Msap1.Mncwf

open ByteCodec ByteLayout

inductive ConversionErrorCode where
  | invalidOptions
  | sourceInvalid
  | sourceNotReady
  | internalError
  deriving DecidableEq, Repr

/-- What leaves the source: a rejection of the reader, an index outside its samples, or a
`ConversionError`. -/
inductive SourceError where
  | rejected (reason : Rejection)
  | outOfRange (what : String)
  | conversion (code : ConversionErrorCode) (message : String) (missing : List String)
  deriving DecidableEq, Repr

def sourceInvalid (message : String) : SourceError := .conversion .sourceInvalid message []

def decompressionFailed : SourceError :=
  sourceInvalid "MNCWF v5 sample chunk decompression failed"

def logicalMismatch : SourceError :=
  sourceInvalid "MNCWF v5 sample chunk logical CRC32C mismatch"

inductive ExportFormat where
  | comtrade
  | pqdif
  deriving DecidableEq, Repr

inductive ExportScope where
  | capture
  | event (eventUuid : Option MncwfUuid)

def validationMode (bytes : Bytes) : ValidationMode :=
  if bytes.length < 12 then .complete
  else if natAt 4 bytes 8 = v5Version then .metadataOnly else .complete

section Readiness

inductive Needed where
  | both
  | comtrade
  | pqdif
  deriving DecidableEq, Repr

def missing (absent : Bool) (needed : Needed) (field : String) : List (Needed × String) :=
  if absent then [(needed, field)] else []

def captureGaps (capture : MncwfV4CaptureMetadata) : List (Needed × String) :=
  missing (capture.deviceModel = []) .both "capture.device_model" ++
    missing (capture.nominalFrequencyNumerator = 0) .both "capture.nominal_frequency" ++
    missing (capture.nominalVoltageNumerator ≤ 0) .both "capture.nominal_voltage" ++
    missing (capture.topology = MncwfTopology.unknown) .pqdif "capture.topology"

def segmentGaps (segment : MncwfV4TimebaseSegment) (index : Nat) : List (Needed × String) :=
  let name := fun field => "timebase[" ++ toString index ++ "]." ++ field
  missing (!flagged16 segment.flags timeUtcOffsetKnown) .both (name "utc_context") ++
    missing (segment.correlationTaiNanoseconds = 0) .both (name "tai_correlation") ++
    missing (segment.timeQuality = MncwfTimeQuality.unknown) .both (name "time_quality") ++
    missing (segment.clockSource = MncwfClockSource.unknown) .pqdif (name "clock_source")

def unitMatches (channel : MncwfV4ChannelDefinition) : Bool :=
  (channel.quantity = MncwfQuantity.current && channel.siUnit = MncwfSiUnit.ampere) ||
    (channel.quantity = MncwfQuantity.voltage && channel.siUnit = MncwfSiUnit.volt) ||
    (channel.quantity = MncwfQuantity.frequency && channel.siUnit = MncwfSiUnit.hertz) ||
    ((channel.quantity = MncwfQuantity.status || channel.quantity = MncwfQuantity.ratio) &&
      channel.siUnit = MncwfSiUnit.dimensionless)

def channelGaps (channel : MncwfV4ChannelDefinition) (index : Nat) : List (Needed × String) :=
  let name := fun field => "channel[" ++ toString index ++ "]." ++ field
  missing (channel.phase = MncwfPhase.none) .both (name "phase") ++
    missing (channel.quantity = MncwfQuantity.unknown) .both (name "quantity") ++
    missing (!unitMatches channel) .both (name "quantity_unit_mapping") ++
    missing (!flagged channel.flags channelTransformValid) .both (name "affine_transform") ++
    missing (!flagged channel.flags channelRatioValid) .both (name "primary_secondary_ratio") ++
    missing (!flagged channel.flags channelNominalValid) .pqdif (name "nominal") ++
    missing (!flagged channel.flags channelRangeValid) .both (name "range") ++
    missing (!flagged channel.flags channelResolutionValid) .pqdif (name "resolution") ++
    missing (!flagged channel.flags channelClippingValid) .both (name "clipping")

def eventGaps (event : MncwfV4EventDescriptor) (index : Nat) : List (Needed × String) :=
  let name := fun field => "event[" ++ toString index ++ "]." ++ field
  missing (event.taxonomy = MncwfEventTaxonomy.unknown) .both (name "taxonomy") ++
    missing (!flagged event.flags eventTriggerValid) .comtrade (name "trigger_sequence") ++
    missing (!flagged event.flags eventUtcValid) .both (name "utc_anchors") ++
    missing (!flagged event.flags eventTaiValid) .both (name "tai_anchors") ++
    missing (!flagged event.flags eventSettingsSnapshotValid) .both (name "settings_snapshot")

/-- `assess_mncwf_v4_conversion_readiness`, the fields that a format lacks. -/
def missingFields (contents : Contents) (format : ExportFormat) : List String :=
  let gaps := captureGaps contents.captureMetadata ++
    contents.timebaseSegments.zipIdx.flatMap (fun (segment, index) => segmentGaps segment index) ++
    contents.channels.zipIdx.flatMap (fun (channel, index) => channelGaps channel index) ++
    missing contents.events.isEmpty .both "event_descriptor" ++
    contents.events.zipIdx.flatMap (fun (event, index) => eventGaps event index)
  (gaps.filter fun gap => gap.1 = .both || (format = .comtrade && gap.1 = .comtrade) ||
    (format = .pqdif && gap.1 = .pqdif)).map Prod.snd

end Readiness

/-- `MncwfWaveformSource::Impl` once it is constructed. -/
structure WaveformSource where
  contents : Contents
  sampleSection : Bytes
  channelOffsets : List Nat
  sourceFirstFrame : Nat := 0
  frameCount : Nat

def captureFrames (contents : Contents) : Except SourceError (Nat × Nat) :=
  match contents.timebaseSegments.getLast? with
  | none => .ok (0, contents.sampleFrameCount)
  | some final =>
      if final.sourceFrameCount = 0 ∨
          2 ^ 64 - 1 - final.sourceFrameCount.toNat + 1 < final.firstSequence.toNat then
        .error (sourceInvalid "MNCWF source sequence range overflows")
      else .ok (0, contents.sampleFrameCount)

/-- The first frame and the number of frames of the selection. `slice` is the outcome of the
rest of an event's selection, its clipped metadata, which no read uses. -/
def selectFrames (contents : Contents) (scope : ExportScope) (slice : Checked Unit) :
    Except SourceError (Nat × Nat) :=
  match scope with
  | .capture => captureFrames contents
  | .event none => .error (.conversion .invalidOptions
      "event conversion requires an event UUID" [])
  | .event (some eventUuid) => (do
      let frames ← eventFrames contents eventUuid
      slice
      return frames).mapError .rejected

/-- The offset of each channel in a frame, and the bytes of all. -/
def channelLayout (channels : List MncwfV4ChannelDefinition) : List Nat × Nat :=
  channels.foldl (fun (offsets, offset) channel =>
    (offsets ++ [offset], offset + channel.storageBits.toNat / 8)) ([], 0)

def openSource (zstd : Zstd) (bytes : Bytes) (format : ExportFormat) (scope : ExportScope)
    (slice : Checked Unit) : Except SourceError WaveformSource := do
  if bytes = [] then throw (sourceInvalid "MNCWF source is not a non-empty regular file")
  if maxFileBytes < bytes.length then
    throw (sourceInvalid "MNCWF source exceeds its file-size bound")
  let contents ← (readFile zstd (validationMode bytes) bytes).mapError .rejected
  let frames ← selectFrames contents scope slice
  if missingFields contents format ≠ [] then
    throw (.conversion .sourceNotReady "MNCWF source is missing conversion metadata"
      (missingFields contents format))
  match contents.sections.find? fun info => info.type == SectionType.sampleData with
  | none => throw (sourceInvalid "MNCWF sample section is missing")
  | some sample => do
      if mncwfCrc32c sample.data ≠ sample.crc32c then
        throw (sourceInvalid "MNCWF sample-section CRC32C mismatch")
      let layout := channelLayout contents.channels
      if layout.2 ≠ contents.sampleFrameBytes then
        throw (sourceInvalid "MNCWF channel geometry disagrees with its frame size")
      return {
        contents
        sampleSection := sample.data
        channelOffsets := layout.1
        sourceFirstFrame := frames.1
        frameCount := frames.2 }

/-- The cached chunk by its index, and the buffer. -/
structure ChunkCache where
  cachedChunk : Option Nat := none
  cache : Bytes := []
  deriving DecidableEq, Repr

def resize (buffer : Bytes) (size : Nat) : Bytes :=
  buffer.take size ++ zeros (size - buffer.length)

def overwrite (buffer bytes : Bytes) : Bytes := bytes ++ buffer.drop bytes.length

def Holds (absolute : Nat) (chunk : ChunkInfo) : Prop :=
  chunk.firstFrame ≤ absolute ∧ absolute - chunk.firstFrame < chunk.frameCount

instance (absolute : Nat) (chunk : ChunkInfo) : Decidable (Holds absolute chunk) := by
  unfold Holds
  infer_instance

namespace WaveformSource

variable (zstd : Zstd) (leftover : Bytes → Bytes → Bytes) (source : WaveformSource)

def channelCount : Nat := source.contents.channels.length

/-- Decodes a chunk into the buffer: what is thrown, if anything, and the buffer it leaves. A
failed decompression leaves `leftover` of the stored bytes and the buffer. -/
def loadChunk (chunk : ChunkInfo) (buffer : Bytes) : Option SourceError × Bytes :=
  let sized := resize buffer chunk.logicalBytes
  let stored := slice source.sampleSection chunk.storedOffset chunk.storedBytes
  let decoded : Option SourceError × Bytes := match chunk.codec with
    | .raw => (none, overwrite sized stored)
    | .zstd => match zstd.decompress chunk.logicalBytes stored with
      | none => (some decompressionFailed, leftover stored sized)
      | some produced =>
          if produced.length ≠ sized.length then
            (some decompressionFailed, overwrite sized produced)
          else (none, produced)
  match decoded with
  | (some error, left) => (some error, left)
  | (none, filled) =>
      if mncwfCrc32c filled ≠ chunk.logicalCrc32c then (some logicalMismatch, filled)
      else (none, filled)

/-- `sample_frame` of the complete reader. -/
def sampleFrame (contents : Contents) (index : Nat) : Except SourceError Bytes :=
  if contents.sampleFrameCount ≤ index then .error (.outOfRange "MNCWF sample frame index")
  else .ok (slice contents.sampleData (index * contents.sampleFrameBytes)
    contents.sampleFrameBytes)

def absoluteFrame (absolute : Nat) (state : ChunkCache) : Except SourceError Bytes × ChunkCache :=
  if source.contents.version = v4Version then (sampleFrame source.contents absolute, state)
  else
    let own := fun (chunk : ChunkInfo) (cache : Bytes) =>
      slice cache ((absolute - chunk.firstFrame) * source.contents.sampleFrameBytes)
        source.contents.sampleFrameBytes
    match source.contents.sampleChunks.zipIdx.find? fun entry => Holds absolute entry.1 with
    | none =>
        (.error (sourceInvalid "MNCWF v5 frame is not covered by a sample chunk"), state)
    | some (chunk, chunkIndex) =>
        if state.cachedChunk = some chunkIndex then (.ok (own chunk state.cache), state)
        else match source.loadChunk zstd leftover chunk state.cache with
          | (some error, left) => (.error error, { state with cache := left })
          | (none, filled) => (.ok (own chunk filled), ⟨some chunkIndex, filled⟩)

def frameValues (frame : Bytes) : List Int64 :=
  List.zipWith (fun channel offset =>
      decodeSigned (slice frame offset (channel.storageBits.toNat / 8)) channel.storageBits)
    source.contents.channels source.channelOffsets

def readLoop : Nat → Nat → ChunkCache → Except SourceError (List (List Int64)) × ChunkCache
  | 0, _, state => (.ok [], state)
  | count + 1, absolute, state => match source.absoluteFrame zstd leftover absolute state with
    | (.error error, after) => (.error error, after)
    | (.ok frame, after) => match readLoop count (absolute + 1) after with
      | (.error error, last) => (.error error, last)
      | (.ok rows, last) => (.ok (source.frameValues frame :: rows), last)

/-- A call of `read_frames`, with the room that its destination has. -/
structure ReadCall where
  firstFrame : Nat
  frameCapacity : Nat
  destinationSize : Nat
  deriving DecidableEq, Repr

/-- `read_frames`: one row of values for each frame. -/
def readFrames (call : ReadCall) (state : ChunkCache) :
    Except SourceError (List (List Int64)) × ChunkCache :=
  if source.frameCount < call.firstFrame then
    (.error (sourceInvalid "MNCWF read begins beyond the selected interval"), state)
  else if call.destinationSize / source.channelCount < call.frameCapacity then
    (.error (sourceInvalid
      "MNCWF read destination is smaller than its declared capacity"), state)
  else
    source.readLoop zstd leftover (min call.frameCapacity (source.frameCount - call.firstFrame))
      (source.sourceFirstFrame + call.firstFrame) state

def machine : Machine ChunkCache ReadCall (Except SourceError (List (List Int64))) where
  step := fun state call =>
    let (answer, after) := source.readFrames zstd leftover call state
    (after, answer)

end WaveformSource

end Msap1.Mncwf
