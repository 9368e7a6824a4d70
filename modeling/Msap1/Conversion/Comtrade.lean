import Msap1.Conversion.ConversionSource
import Msap1.Rounding

/-! The timestamps of a COMTRADE export, the selection of its tick and its DAT part, batch by
batch. -/

namespace Msap1.Conversion

open ByteCodec

structure BigRational where
  numerator : Int := 0
  denominator : Int := 1
  deriving DecidableEq, Repr

def BigRational.value (rational : BigRational) : ℚ := rational.numerator / rational.denominator

def checkCancelled (stopRequested : Bool) : Checked Unit :=
  failIf stopRequested .conversionCancelled "waveform conversion was cancelled"

def segmentForFrame (metadata : WaveformMetadata) (frame : Nat) : Checked TimebaseSegment :=
  match metadata.timebaseSegments.find? fun segment => segment.Covers frame with
  | none => fail .sourceInvalid "sample frame has no timebase segment"
  | some segment => .ok segment

def utcForSequence (segment : TimebaseSegment) (sequence : Nat) : Checked BigRational :=
  if segment.correlationUtcNanoseconds = 0 ∨ segment.acquisitionRate.numerator = 0 ∨
      segment.acquisitionRate.denominator = 0 then
    fail .sourceNotReady "waveform timebase lacks an exact UTC correlation"
  else
    let denominator : Int := segment.acquisitionRate.numerator
    let delta : Int := if segment.correlationSequence ≤ sequence
      then ((sequence - segment.correlationSequence : Nat) : Int)
      else -((segment.correlationSequence - sequence : Nat) : Int)
    .ok {
      numerator := segment.correlationUtcNanoseconds * denominator +
        delta * segment.acquisitionRate.denominator * 1000000000
      denominator }

def utcForFrame (metadata : WaveformMetadata) (frame : Nat) : Checked BigRational := do
  let segment ← segmentForFrame metadata frame
  let sequence := segment.firstSequence + (frame - segment.firstFrame) * segment.sequenceStep
  failIf (2 ^ 64 - 1 < sequence) .timestampOutOfRange
    "sample sequence is outside the supported range"
  utcForSequence segment sequence

def sequenceRangeForFrame (metadata : WaveformMetadata) (frame : Nat) : Checked (Nat × Nat) := do
  let segment ← segmentForFrame metadata frame
  let position := frame - segment.firstFrame
  let first := segment.firstSequence + position * segment.sequenceStep
  let segmentLast := segment.firstSequence + segment.sourceFrameCount - 1
  let last := if position + 1 ≠ segment.frameCount ∧ first + segment.sequenceStep - 1 < segmentLast
    then first + segment.sequenceStep - 1 else segmentLast
  failIf (last < first || 2 ^ 64 - 1 < last) .sourceInvalid
    "sample frame source-sequence range is invalid"
  .ok (first, last)

def subtract (left right : BigRational) : BigRational where
  numerator := left.numerator * right.denominator - right.numerator * left.denominator
  denominator := left.denominator * right.denominator

def roundHalfEven (value : BigRational) : Checked Nat :=
  if value.denominator ≤ 0 ∨ value.numerator < 0 then
    fail .timestampOutOfRange "COMTRADE relative timestamp is negative or invalid"
  else
    let quotient := value.numerator / value.denominator
    let doubled := value.numerator % value.denominator * 2
    let rounded := if value.denominator < doubled ∨
      doubled = value.denominator ∧ quotient % 2 ≠ 0 then quotient + 1 else quotient
    if 2 ^ 64 - 1 < rounded then
      fail .timestampOutOfRange "COMTRADE timestamp exceeds the supported integer range"
    else .ok rounded.toNat

def triggerEvent (metadata : WaveformMetadata) (options : ConversionOptions) :
    Checked EventDescriptor :=
  match metadata.events with
  | [] => .error {
      code := .sourceNotReady
      message := "COMTRADE export requires at least one captured event"
      missingFields := ["event_descriptor"] }
  | event :: events =>
      match options.scope with
      | .event =>
          match metadata.events.find? fun event =>
              some event.eventUuid == requestedEvent metadata options with
          | none => fail .sourceEventNotFound "selected COMTRADE trigger event is absent"
          | some event => .ok event
      | .capture => .ok (events.foldl (fun least event =>
          if event.startSequence < least.startSequence then event else least) event)

def triggerTime (metadata : WaveformMetadata) (event : EventDescriptor) : Checked BigRational :=
  if event.flags &&& eventTriggerValid = 0 then
    .error {
      code := .sourceNotReady
      message := "COMTRADE trigger event has no exact trigger sequence"
      missingFields := ["event.trigger_sequence"] }
  else match metadata.timebaseSegments.find? fun segment =>
      segment.firstSequence ≤ event.triggerSequence &&
        event.triggerSequence < segment.firstSequence + segment.sourceFrameCount with
    | some segment => utcForSequence segment event.triggerSequence
    | none =>
        if event.flags &&& eventUtcValid ≠ 0 ∧ event.triggerUtcNanoseconds ≠ 0 then
          .ok { numerator := event.triggerUtcNanoseconds }
        else .error {
          code := .sourceNotReady
          message := "COMTRADE trigger sequence is outside the selected timebase"
          missingFields := ["event.trigger_utc_nanoseconds"] }

def eventActiveLastSequence (event : EventDescriptor) (selectionLastSequence : Nat) : Nat :=
  if event.flags &&& eventEndValid ≠ 0 then event.endSequence else selectionLastSequence

def uint32Max : Nat := 2 ^ 32 - 1

/-- The loop over the ticks, from one on; the fourteenth tick is the last that it tries. -/
def selectTick (maximumRelative : BigRational) : Nat → Nat → Checked Nat
  | 0, _ => fail .timestampOutOfRange "COMTRADE interval cannot fit the BINARY32 timestamp field"
  | attempts + 1, tickNanoseconds => do
      let maximumTick ← roundHalfEven { maximumRelative with
        denominator := maximumRelative.denominator * tickNanoseconds }
      if maximumTick ≤ uint32Max then .ok tickNanoseconds
      else if 1000000000000 < tickNanoseconds then
        fail .timestampOutOfRange "COMTRADE interval cannot fit the BINARY32 timestamp field"
      else selectTick maximumRelative attempts (tickNanoseconds * 10)

def tickAttempts : Nat := 14

def sampleWord (value : Int64) : Checked Int32 :=
  if value.toInt < -2 ^ 31 ∨ 2 ^ 31 - 1 < value.toInt then
    fail .sampleOutOfRange "source sample cannot be represented by COMTRADE BINARY32"
  else .ok (Int32.ofInt value.toInt)

def digitalStep (metadata : WaveformMetadata) (first last word : Nat) (bits : UInt16)
    (bit : Nat) : UInt16 :=
  match metadata.events[word * 16 + bit]? with
  | none => bits
  | some event =>
      if first ≤ eventActiveLastSequence event metadata.lastSequence ∧
          event.startSequence ≤ last then bits ||| (1 <<< UInt16.ofNat bit)
      else bits

/-- Sixteen events, a bit for each that is active in a range of sequences. -/
def digitalWord (metadata : WaveformMetadata) (first last word : Nat) : UInt16 :=
  (List.range 16).foldl (digitalStep metadata first last word) 0

def digitalWords (metadata : WaveformMetadata) : Nat := (metadata.events.length + 15) / 16

def frameRecord (metadata : WaveformMetadata) (start : BigRational) (tickNanoseconds frame : Nat)
    (row : List Int64) : Checked Bytes := do
  failIf (uint32Max < frame + 1) .sampleOutOfRange "COMTRADE sample number exceeds UINT32"
  let utc ← utcForFrame metadata frame
  let relative := subtract utc start
  let ticks ← roundHalfEven { relative with
    denominator := relative.denominator * tickNanoseconds }
  failIf (uint32Max < ticks) .timestampOutOfRange "COMTRADE frame timestamp exceeds UINT32"
  let samples ← row.mapM sampleWord
  let range ← sequenceRangeForFrame metadata frame
  .ok [writeU32 (UInt32.ofNat (frame + 1)), writeU32 (UInt32.ofNat ticks),
    (samples.map fun sample => writeU32 sample.toUInt32).flatten,
    ((List.range (digitalWords metadata)).map fun word =>
      writeU16 (digitalWord metadata range.1 range.2 word)).flatten].flatten

/-- Where the bytes go: its limit, and what it throws for bytes behind those it has. -/
structure OutputSink where
  byteLimit : Nat
  refusal : Bytes → Bytes → Option ConversionError

def OutputSink.write (sink : OutputSink) (written bytes : Bytes) : Checked Bytes :=
  match sink.refusal written bytes with
  | some error => .error error
  | none => .ok (written ++ bytes)

def convertBatches (source : WaveformSource) (sink : OutputSink) (stopRequested : Nat → Bool)
    (start : BigRational) (tickNanoseconds batchFrames : Nat) :
    Nat → Nat → Nat → Bytes → Checked Bytes
  | 0, _, _, written => .ok written
  | rounds + 1, check, processed, written =>
      if processed < source.frameCount then do
        checkCancelled (stopRequested check)
        let requested := min batchFrames (source.frameCount - processed)
        let rows ← source.readFrames processed requested
        failIf (rows.length == 0 || requested < rows.length) .sourceInvalid
          "waveform source stopped before the declared frame count"
        let records ← rows.zipIdx.mapM fun (row, position) =>
          frameRecord source.metadata start tickNanoseconds (processed + position) row
        let written ← sink.write written records.flatten
        convertBatches source sink stopRequested start tickNanoseconds batchFrames rounds
          (check + 1)
          (processed + rows.length) written
      else .ok written

end Msap1.Conversion
