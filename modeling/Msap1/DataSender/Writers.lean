import Msap1.DataSender.Outbox
import Msap1.Meter.Values

/-! The files of the data sender: JSON and CSV bodies of a generated dataset. -/

namespace Msap1.DataSender

open Meter (MeasurementPeriod)

inductive ContentFormat where
  | json
  | csv
  deriving DecidableEq, Repr

def contentFormatName : ContentFormat → String
  | .json => "json"
  | .csv => "csv"

def periodName : MeasurementPeriod → String
  | .basic => "basic"
  | .cycles150And180 => "cycles_150_180"
  | .min10 => "minutes_10"
  | .hour2 => "hours_2"
  | .min10Live => "minutes_10_live"
  | .hour2Live => "hours_2_live"
  | .demand => "demand"
  | .seconds10 => "seconds_10"

inductive MeterAttributeCalculation where
  | minimum
  | maximum
  | average
  | last
  | circularAverage
  | first
  | delta
  deriving DecidableEq, Repr

def calculationName : MeterAttributeCalculation → String
  | .minimum => "minimum"
  | .maximum => "maximum"
  | .average => "average"
  | .last => "last"
  | .circularAverage => "circular_average"
  | .first => "first"
  | .delta => "delta"

inductive MeterAttributeValueKind where
  | linear
  | circularAngle
  | cumulativeCounter
  | peak
  | categorical
  deriving DecidableEq, Repr

def valueKindName : MeterAttributeValueKind → String
  | .linear => "linear"
  | .circularAngle => "circular_angle"
  | .cumulativeCounter => "cumulative_counter"
  | .peak => "peak"
  | .categorical => "categorical"

inductive ReadingQuality where
  | unavailable
  | valid
  | invalid
  | outOfRange
  | timedOut
  | arithmeticError
  deriving DecidableEq, Repr

def qualityName : ReadingQuality → String
  | .unavailable => "unavailable"
  | .valid => "valid"
  | .invalid => "invalid"
  | .outOfRange => "out_of_range"
  | .timedOut => "timed_out"
  | .arithmeticError => "arithmetic_error"

structure DatasetColumn where
  id : String
  attributeKey : String
  label : String
  unit : String
  calculation : MeterAttributeCalculation
  valueKind : MeterAttributeValueKind
  deriving DecidableEq, Repr

structure DatasetCell where
  value : Option String := none
  quality : ReadingQuality := .unavailable
  contributingSamples : UInt64 := 0
  expectedSamples : UInt64 := 0
  complete : Bool := false
  continuity : Bool := true
  resetEpoch : Option UInt64 := none
  deriving DecidableEq, Repr

structure DatasetRow where
  window : UtcWindow
  cells : List DatasetCell
  deriving DecidableEq, Repr

/-- A dataset with everything the writers put into the body. -/
structure MeterDataset extends GeneratedDataset where
  schema : String := "mnc.meter.datalog.v1"
  productId : String
  deviceId : String
  sourcePeriod : MeasurementPeriod
  format : ContentFormat
  columns : List DatasetColumn := []
  rows : List DatasetRow := []
  deriving DecidableEq, Repr

def hexDigit (value : Nat) : Char :=
  if value < 10 then Char.ofNat (48 + value) else Char.ofNat (87 + value)

def jsonCharacter (character : Char) : String :=
  if character = '"' then "\\\""
  else if character = '\\' then "\\\\"
  else if character = Char.ofNat 8 then "\\b"
  else if character = Char.ofNat 12 then "\\f"
  else if character = '\n' then "\\n"
  else if character = '\r' then "\\r"
  else if character = '\t' then "\\t"
  else if character.toNat < 0x20 then
    "\\u00" ++ String.ofList [hexDigit (character.toNat / 16), hexDigit (character.toNat % 16)]
  else String.singleton character

def jsonString (value : String) : String :=
  "\"" ++ String.join (value.toList.map jsonCharacter) ++ "\""

def separated (separator finish : String) : List String → String
  | [] => ""
  | [item] => item ++ finish
  | item :: items => item ++ separator ++ separated separator finish items

def jsonColumn (column : DatasetColumn) : String :=
  "    \x7b\"id\": " ++ jsonString column.id ++ ", \"attribute\": " ++
    jsonString column.attributeKey ++ ", \"label\": " ++ jsonString column.label ++
    ", \"unit\": " ++ jsonString column.unit ++ ", \"calculation\": " ++
    jsonString (calculationName column.calculation) ++ ", \"value_kind\": " ++
    jsonString (valueKindName column.valueKind) ++ "\x7d"

def jsonBool (value : Bool) : String := if value then "true" else "false"

def jsonCell (cell : DatasetCell) : String :=
  "\x7b\"value\": " ++ (cell.value.map jsonString).getD "null" ++ ", \"quality\": " ++
    jsonString (qualityName cell.quality) ++ ", \"contributing_samples\": \"" ++
    toString cell.contributingSamples ++ "\", \"expected_samples\": \"" ++
    toString cell.expectedSamples ++ "\", \"complete\": " ++ jsonBool cell.complete ++
    ", \"continuity\": " ++ jsonBool cell.continuity ++ ", \"reset_epoch\": " ++
    (cell.resetEpoch.map (fun epoch => "\"" ++ toString epoch ++ "\"")).getD "null" ++ "\x7d"

def jsonRow (row : DatasetRow) : String :=
  "    \x7b\"start_utc_ns\": \"" ++ toString row.window.start ++ "\", \"end_utc_ns\": \"" ++
    toString row.window.finish ++ "\", \"values\": [" ++
    separated ", " "" (row.cells.map jsonCell) ++ "]\x7d"

def jsonBody (dataset : MeterDataset) : String :=
  "\x7b\n  \"schema\": " ++ jsonString dataset.schema ++ ",\n  \"artifact_id\": " ++
    jsonString dataset.artifactId ++ ",\n  \"job_id\": " ++ jsonString dataset.jobId ++
    ",\n  \"job_revision\": \"" ++ toString dataset.jobRevision ++ "\",\n  \"product_id\": " ++
    jsonString dataset.productId ++ ",\n  \"device_id\": " ++ jsonString dataset.deviceId ++
    ",\n  \"format\": \"json\",\n  \"source_period\": " ++
    jsonString (periodName dataset.sourcePeriod) ++ ",\n  \"generated_at_utc_ns\": \"" ++
    toString dataset.generatedAt ++ "\",\n  \"artifact_window\": \x7b\"start_utc_ns\": \"" ++
    toString dataset.artifactWindow.start ++ "\", \"end_utc_ns\": \"" ++
    toString dataset.artifactWindow.finish ++ "\"\x7d,\n  \"columns\": [\n" ++
    separated ",\n" "\n" (dataset.columns.map jsonColumn) ++ "  ],\n  \"rows\": [\n" ++
    separated ",\n" "\n" (dataset.rows.map jsonRow) ++ "  ]\n\x7d\n"

def csvField (value : String) : String :=
  if value.toList.any (fun character =>
      character = ',' || character = '"' || character = '\r' || character = '\n') then
    "\"" ++ String.join (value.toList.map (fun character =>
      if character = '"' then "\"\"" else String.singleton character)) ++ "\""
  else value

def csvLine (fields : List String) : String :=
  String.intercalate "," (fields.map csvField) ++ "\r\n"

def csvHeader (dataset : MeterDataset) : List String :=
  ["schema", "artifact_id", "job_id", "job_revision", "product_id", "device_id", "source_period",
    "generated_at_utc_ns", "artifact_start_utc_ns", "artifact_end_utc_ns", "row_start_utc_ns",
    "row_end_utc_ns"] ++
  dataset.columns.flatMap (fun column =>
    ["value", "quality", "contributing_samples", "expected_samples", "complete", "continuity",
      "reset_epoch"].map (fun suffix => column.id ++ "." ++ suffix))

def csvCell (cell : DatasetCell) : List String :=
  [cell.value.getD "", qualityName cell.quality, toString cell.contributingSamples,
    toString cell.expectedSamples, jsonBool cell.complete, jsonBool cell.continuity,
    (cell.resetEpoch.map toString).getD ""]

def csvRow (dataset : MeterDataset) (row : DatasetRow) : List String :=
  [dataset.schema, dataset.artifactId, dataset.jobId, toString dataset.jobRevision,
    dataset.productId, dataset.deviceId, periodName dataset.sourcePeriod,
    toString dataset.generatedAt, toString dataset.artifactWindow.start,
    toString dataset.artifactWindow.finish, toString row.window.start,
    toString row.window.finish] ++ row.cells.flatMap csvCell

def csvBody (dataset : MeterDataset) : String :=
  csvLine (csvHeader dataset) ++
    String.join (dataset.rows.map (fun row => csvLine (csvRow dataset row)))

/-- `content`: the generated file around a body. -/
def contentOf (sha256 : Body → String) (dataset : MeterDataset) (text mimeType extension : String) :
    GeneratedContent :=
  let body := text.toUTF8.toList
  ⟨dataset.artifactId, dataset.artifactId ++ "." ++ extension, mimeType, extension, body,
    sha256 body⟩

/-- `create` and `write`: the writer of a format, on a dataset. -/
def writeContent (sha256 : Body → String) (format : ContentFormat) (dataset : MeterDataset) :
    Except SenderFailure GeneratedContent :=
  if dataset.format ≠ format then
    .error (.datalogError .serializationFailure (match format with
      | .json => "JSON writer received a non-JSON dataset"
      | .csv => "CSV writer received a non-CSV dataset"))
  else if ∃ row ∈ dataset.rows, row.cells.length ≠ dataset.columns.length then
    .error (.datalogError .serializationFailure "dataset row/column cardinality mismatch")
  else .ok (match format with
    | .json => contentOf sha256 dataset (jsonBody dataset) "application/json" "json"
    | .csv => contentOf sha256 dataset (csvBody dataset) "text/csv; charset=utf-8" "csv")

end Msap1.DataSender
