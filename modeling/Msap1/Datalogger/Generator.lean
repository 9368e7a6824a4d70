import Msap1.Datalogger.Types
import Msap1.Decimal
import Msap1.Loops

/-! `HistoricalDatasetGenerator`: rows of a completed window out of historian samples. -/

namespace Msap1.Datalogger

open Meter (MeasurementPeriod MeasurementQuality)

/-- What leaves a call: a `DatalogError`, or another exception with its text. -/
inductive Failure where
  | datalog (error : DatalogError)
  | other (what : String)
  deriving DecidableEq, Repr

def refuse (code : DatalogErrorCode) (message : String) : Failure := .datalog ⟨code, message⟩

/-- A sort by an order, which leaves open where ties go. -/
structure Sorting (before : HistoricalSample → HistoricalSample → Prop) where
  sort : List HistoricalSample → List HistoricalSample
  perm : ∀ samples, (sort samples).Perm samples
  ordered : ∀ samples, (sort samples).Pairwise fun left right => ¬before right left

def measuredBefore (left right : HistoricalSample) : Prop :=
  left.measuredAt < right.measuredAt ∨
    (left.measuredAt = right.measuredAt ∧ left.sourceSequence < right.sourceSequence)

/-- `std::nullopt` comes before every index. -/
def indexRank (index : Option Nat) : Nat := index.elim 0 (· + 1)

def sampleBefore (left right : HistoricalSample) : Prop :=
  measuredBefore left right ∨
    (left.measuredAt = right.measuredAt ∧ left.sourceSequence = right.sourceSequence ∧
      (left.attributeKey.id < right.attributeKey.id ∨
        (left.attributeKey.id = right.attributeKey.id ∧
          indexRank left.attributeKey.index < indexRank right.attributeKey.index)))

instance : DecidableRel measuredBefore := fun left right => by
  unfold measuredBefore
  infer_instance

instance : DecidableRel sampleBefore := fun left right => by
  unfold sampleBefore
  infer_instance

/-- A merge sort by an order in which what is incomparable is tied. -/
def Sorting.merge (before : HistoricalSample → HistoricalSample → Prop) [DecidableRel before]
    (trans : ∀ {first second third}, ¬before second first → ¬before third second →
      ¬before third first)
    (total : ∀ first second, ¬before second first ∨ ¬before first second) : Sorting before where
  sort samples := samples.mergeSort fun left right => ¬before right left
  perm samples := List.mergeSort_perm samples _
  ordered samples := by
    have sorted : (samples.mergeSort fun left right => ¬before right left).Pairwise
        fun left right => decide (¬before right left) = true := by
      apply List.pairwise_mergeSort
      · intro first second third earlier later
        exact decide_eq_true (trans (of_decide_eq_true earlier) (of_decide_eq_true later))
      · intro first second
        rw [Bool.or_eq_true, decide_eq_true_eq, decide_eq_true_eq]
        exact total first second
    exact sorted.imp fun ordered => of_decide_eq_true ordered

theorem measuredBefore_trans {first second third : HistoricalSample}
    (earlier : ¬measuredBefore second first) (later : ¬measuredBefore third second) :
    ¬measuredBefore third first := by
  unfold measuredBefore at *
  omega

theorem measuredBefore_total (first second : HistoricalSample) :
    ¬measuredBefore second first ∨ ¬measuredBefore first second := by
  unfold measuredBefore
  omega

theorem sampleBefore_trans {first second third : HistoricalSample}
    (earlier : ¬sampleBefore second first) (later : ¬sampleBefore third second) :
    ¬sampleBefore third first := by
  unfold sampleBefore measuredBefore at *
  omega

theorem sampleBefore_total (first second : HistoricalSample) :
    ¬sampleBefore second first ∨ ¬sampleBefore first second := by
  unfold sampleBefore measuredBefore
  omega

structure HistoricalMeterDataSource where
  query : MeasurementPeriod → List MeterAttributeKey → UtcWindow →
    Except Failure (List HistoricalSample)
  expectedSampleCount : MeasurementPeriod → MeterAttributeKey → UtcWindow → Nat

/-- The circular mean is computed in floating point: a text, or none when the angles cancel. -/
structure HistoricalDatasetGenerator where
  source : HistoricalMeterDataSource
  texts : MeterAttributeTexts
  sortSamples : Sorting sampleBefore
  sortValid : Sorting measuredBefore
  circularAverage : List HistoricalSample → Option Bytes

def isAlnum (character : UInt8) : Bool :=
  (0x30 ≤ character && character ≤ 0x39) || (0x41 ≤ character && character ≤ 0x5a) ||
    (0x61 ≤ character && character ≤ 0x7a)

def safeId (value : Bytes) : Bool :=
  !value.isEmpty && value.length ≤ 128 &&
    value.all fun character => isAlnum character || character = 0x2d || character = 0x5f

/-- The digit loop of `decimal_ratio`. -/
def fractionDigits : Nat → Nat → Nat → Bytes
  | 0, _, _ => []
  | places + 1, remainder, divisor =>
      if remainder = 0 then []
      else digitByte (remainder * 10 / divisor) ::
        fractionDigits places (remainder * 10 % divisor) divisor

def decimalRatio (numerator : Int) (denominator : Nat) : Except Failure Bytes :=
  if denominator = 0 then
    .error (refuse .invalidConfiguration "average denominator is zero")
  else
    let negative := numerator < 0
    let magnitude := numerator.natAbs
    let digits := fractionDigits 6 (magnitude % denominator) denominator
    let fraction := digits.rdropWhile fun digit => digit = digitByte 0
    let integer := decimal (magnitude / denominator)
    let result := if fraction = [] then integer else integer ++ (text "." ++ fraction)
    .ok (if negative ∧ result ≠ text "0" then text "-" ++ result else result)

def emptyQuality : List HistoricalSample → MeasurementQuality
  | [] => .unavailable
  | sample :: samples =>
      if sample.quality ≠ .unavailable then sample.quality else emptyQuality samples

def bestElement (better : Int → Int → Bool) :
    HistoricalSample → List HistoricalSample → HistoricalSample
  | best, [] => best
  | best, sample :: samples =>
      bestElement better (if better sample.value best.value then sample else best) samples

def minElement : HistoricalSample → List HistoricalSample → HistoricalSample :=
  bestElement fun left right => left < right

def maxElement : HistoricalSample → List HistoricalSample → HistoricalSample :=
  bestElement fun left right => right < left

namespace HistoricalDatasetGenerator

variable (generator : HistoricalDatasetGenerator)

/-- The cell of the sorted valid samples, of which `front` is the first. -/
def calculate (calculation : MeterAttributeCalculation) (front : HistoricalSample)
    (rest : List HistoricalSample) (result : DatasetCell) : Except Failure DatasetCell :=
  let back := (front :: rest).getLast (List.cons_ne_nil _ _)
  match calculation with
  | .minimum => .ok { result with value := some (signedDecimal (minElement front rest).value) }
  | .maximum => .ok { result with value := some (signedDecimal (maxElement front rest).value) }
  | .average => do
      let value ← decimalRatio ((front :: rest).map HistoricalSample.value).sum (rest.length + 1)
      return { result with value := some value }
  | .circularAverage =>
      match generator.circularAverage (front :: rest) with
      | none => .ok { result with quality := .arithmeticError }
      | some value => .ok { result with value := some value }
  | .first =>
      .ok { result with value := some (signedDecimal front.value), resetEpoch := front.resetEpoch }
  | .last =>
      .ok { result with value := some (signedDecimal back.value), resetEpoch := back.resetEpoch }
  | .delta =>
      if front.resetEpoch.isNone ∨ back.resetEpoch.isNone ∨ front.resetEpoch ≠ back.resetEpoch then
        .ok { result with quality := .unavailable, continuity := false }
      else
        .ok { result with
          value := some (signedDecimal (back.value - front.value))
          resetEpoch := back.resetEpoch }

def aggregate (samples : List HistoricalSample) (calculation : MeterAttributeCalculation)
    (expected : Nat) : Except Failure DatasetCell :=
  let valid := samples.filter fun sample => sample.quality = .valid
  let result : DatasetCell :=
    { expectedSamples := expected
      contributingSamples := valid.length
      complete := expected ≠ 0 ∧ expected ≤ valid.length }
  match generator.sortValid.sort valid with
  | [] => .ok { result with quality := emptyQuality samples }
  | front :: rest => generator.calculate calculation front rest { result with quality := .valid }

structure Selected where
  attributes : List MeterAttributeKey := []
  identities : List (Nat × MeterAttributeCalculation) := []
  columns : List DatasetColumn := []

def columnFor (selection : AttributeSelection) : DatasetColumn where
  id := generator.texts.key selection.attributeKey ++ text "." ++
    calculationName selection.calculation
  attributeKey := generator.texts.key selection.attributeKey
  label := generator.texts.label selection.attributeKey
  unit := generator.texts.unit selection.attributeKey
  calculation := selection.calculation
  valueKind := MeterAttributeKey.valueKindFor selection.attributeKey.id

def selectionStep (period : MeasurementPeriod) (selected : Selected)
    (selection : AttributeSelection) : Except Failure Selected :=
  let key := selection.attributeKey
  if MeterAttributeKey.definedAttributeCount ≤ key.id then
    .error (.other "unknown meter attribute")
  else if ¬key.supportsHistorian period ∨
      selection.calculation ∉
        MeterAttributeKey.calculationsFor (MeterAttributeKey.valueKindFor key.id) then
    .error (refuse .unsupportedCapability "selected meter attribute/calculation is unsupported")
  else if (key.id, selection.calculation) ∈ selected.identities then
    .error (refuse .invalidConfiguration "duplicate datalog column selection")
  else
    .ok
      { attributes :=
          if key ∈ selected.attributes then selected.attributes else selected.attributes ++ [key]
        identities := selected.identities ++ [(key.id, selection.calculation)]
        columns := selected.columns ++ [generator.columnFor selection] }

/-- The loop over the row windows; every round moves `start`, so that the length of the window
bounds their number. -/
def rowWindows (finish interval : Int) : Nat → Int → List UtcWindow
  | 0, _ => []
  | fuel + 1, start =>
      if start < finish then
        ⟨start, start + interval⟩ :: rowWindows finish interval fuel (start + interval)
      else []

def bucket (samples : List HistoricalSample) (key : MeterAttributeKey) (window : UtcWindow) :
    List HistoricalSample :=
  samples.filter fun sample => sample.attributeKey = key ∧ window.start ≤ sample.measuredAt ∧
    sample.measuredAt < window.finish

def cellFor (job : DatalogJobSnapshot) (samples : List HistoricalSample) (window : UtcWindow)
    (selection : AttributeSelection) : Except Failure DatasetCell :=
  generator.aggregate (bucket samples selection.attributeKey window) selection.calculation
    (generator.source.expectedSampleCount job.sourcePeriod selection.attributeKey window)

def rowFor (job : DatalogJobSnapshot) (samples : List HistoricalSample) (window : UtcWindow) :
    Except Failure DatasetRow := do
  let cells ← job.selections.mapM (generator.cellFor job samples window)
  return ⟨window, cells⟩

def artifactId (job : DatalogJobSnapshot) (window : UtcWindow) : Bytes :=
  job.jobId ++ text "-r" ++ decimal job.revision ++ text "-" ++ signedDecimal window.start ++
    text "-" ++ signedDecimal window.finish ++ text "-" ++ contentFormatName job.format

/-- `query`, with the exceptions that are not a `DatalogError` wrapped. -/
def querySource (period : MeasurementPeriod) (attributes : List MeterAttributeKey)
    (window : UtcWindow) : Except Failure (List HistoricalSample) :=
  match generator.source.query period attributes window with
  | .ok samples => .ok samples
  | .error (.datalog error) => .error (.datalog error)
  | .error (.other what) =>
      .error (refuse .sourceUnavailable ("historian query failed: " ++ what))

def generate (job : DatalogJobSnapshot) (completedWindow : UtcWindow)
    (generatedAt : Int) : Except Failure GeneratedDataset :=
  if ¬safeId job.jobId ∨ job.revision = 0 ∨ job.productId = [] ∨ job.deviceId = [] then
    .error (refuse .invalidConfiguration "datalog job identity is invalid")
  else if ¬completedWindow.valid ∨
      completedWindow.durationNanoseconds ≠ job.generationIntervalNanoseconds ∨
      job.rowIntervalNanoseconds ≤ 0 ∨
      job.generationIntervalNanoseconds.tmod job.rowIntervalNanoseconds ≠ 0 then
    .error (refuse .invalidConfiguration "generation and row intervals are incompatible")
  else if job.selections = [] then
    .error (refuse .invalidConfiguration "datalog job has no selected attributes")
  else do
    let selected ← job.selections.foldlM (generator.selectionStep job.sourcePeriod) {}
    let samples ← generator.querySource job.sourcePeriod selected.attributes completedWindow
    let sorted := generator.sortSamples.sort samples
    let windows := rowWindows completedWindow.finish job.rowIntervalNanoseconds
      completedWindow.durationNanoseconds.toNat completedWindow.start
    let rows ← windows.mapM (generator.rowFor job sorted)
    return {
      artifactId := artifactId job completedWindow
      jobId := job.jobId
      jobRevision := job.revision
      productId := job.productId
      deviceId := job.deviceId
      sourcePeriod := job.sourcePeriod
      format := job.format
      generatedAt
      artifactWindow := completedWindow
      columns := selected.columns
      rows }

end HistoricalDatasetGenerator

end Msap1.Datalogger
