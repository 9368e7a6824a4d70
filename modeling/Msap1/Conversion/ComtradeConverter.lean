import Msap1.Conversion.ComtradeText

/-! `ComtradeConverter::convert`: its checks, the texts and the DAT part behind them. -/

namespace Msap1.Conversion

open ByteCodec

def channelGaps (channel : ChannelDefinition) (index : Nat) : List String :=
  let name := fun field => "channel[" ++ toString index ++ "]." ++ field
  (if channel.flags &&& channelTransformValid = 0 then [name "affine_transform"] else []) ++
    (if channel.flags &&& channelRatioValid = 0 then [name "primary_secondary_ratio"] else []) ++
    (if channel.gain.denominator = 0 ∨ channel.offset.denominator = 0 ∨
        channel.primarySecondaryRatio.denominator = 0 then [name "rational_denominator"] else [])

def missingFields (metadata : WaveformMetadata) : List String :=
  metadata.channels.zipIdx.flatMap (fun (channel, index) => channelGaps channel index) ++
    metadata.timebaseSegments.zipIdx.flatMap fun (segment, index) =>
      if segment.flags &&& timeUtcOffsetKnown = 0
      then ["timebase[" ++ toString index ++ "].utc_context"] else []

def checkBoundary (metadata : WaveformMetadata) (segment : TimebaseSegment) : Checked Unit := do
  let after ← utcForFrame metadata segment.firstFrame
  let before ← utcForFrame metadata (segment.firstFrame - 1)
  failIf ((subtract after before).numerator < 0) .sourceDiscontinuityUnsupported
    "selected waveform UTC timebase moves backwards at a segment boundary"

/-- What a conversion has written: the texts, and the DAT part behind them. -/
structure Written where
  texts : Bytes
  dat : Bytes
  deriving DecidableEq, Repr

/-- `convert`, into a sink that has nothing yet. -/
def convert (source : WaveformSource) (sink : OutputSink) (options : ConversionOptions)
    (stopRequested : Nat → Bool) : Checked Written := do
  failIf (options.format != .comtrade) .invalidOptions
    "COMTRADE converter received a different output format"
  validateConversionSource source options
  checkCancelled (stopRequested 0)
  let metadata := source.metadata
  if missingFields metadata ≠ [] then
    throw {
      code := .sourceNotReady
      message := "MNCWF source is not ready for COMTRADE conversion"
      missingFields := missingFields metadata }
  failIf (metadata.timebaseSegments.any fun segment =>
      metadata.timebaseSegments.head?.any (segment.utcOffsetSeconds != ·.utcOffsetSeconds))
    .sourceDiscontinuityUnsupported
    "COMTRADE interval crosses a captured UTC-offset discontinuity"
  let start ← utcForFrame metadata 0
  let trigger ← triggerEvent metadata options
  let triggerUtc ← triggerTime metadata trigger
  let final ← utcForFrame metadata (source.frameCount - 1)
  let maximumRelative := subtract final start
  failIf (maximumRelative.numerator < 0) .sourceDiscontinuityUnsupported
    "selected waveform UTC timebase moves backwards"
  metadata.timebaseSegments.tail.forM (checkBoundary metadata)
  let tickNanoseconds ← selectTick maximumRelative tickAttempts 1
  let timemult ← decimalText tickNanoseconds 1000
  let recordBytes := 8 + 4 * metadata.channels.length + 2 * digitalWords metadata
  failIf ((2 ^ 64 - 1) / source.frameCount < recordBytes) .outputTooLarge
    "COMTRADE DAT size overflows"
  let datBytes := recordBytes * source.frameCount
  let cfg ← cfgText metadata start triggerUtc timemult
  let texts := prefixText cfg (infText metadata options trigger tickNanoseconds)
    (hdrText metadata tickNanoseconds) datBytes
  failIf (options.maximumOutputBytes < datBytes ||
    options.maximumOutputBytes - datBytes < texts.length || sink.byteLimit < datBytes ||
    sink.byteLimit - datBytes < texts.length) .outputTooLarge
    "COMTRADE export exceeds its configured output limit"
  let begun ← sink.write [] texts
  let all ← convertBatches source sink stopRequested start tickNanoseconds
    (min options.frameBatchSize source.frameCount) source.frameCount 1 0 begun
  return { texts, dat := all.drop texts.length }

end Msap1.Conversion
