import Msap1.Datalogger.Types
import Msap1.Loops

/-! `CsvMeterDataContentWriter`: the artifact of a dataset, and that it reads back. -/

namespace Msap1.Datalogger

open Csv (Denotes Special)

structure GeneratedContent where
  artifactId : Bytes
  filename : Bytes
  mimeType : Bytes
  extension : Bytes
  body : Bytes
  sha256 : Bytes
  deriving DecidableEq, Repr

namespace CsvMeterDataContentWriter

def content (sha256 : Bytes → Bytes) (dataset : GeneratedDataset)
    (body mimeType extension : Bytes) : GeneratedContent where
  artifactId := dataset.artifactId
  filename := dataset.artifactId ++ text "." ++ extension
  mimeType := mimeType
  extension := extension
  body := body
  sha256 := sha256 body

/-- The output so far and the flag `first`. -/
abbrev Output := Bytes × Bool

def quoted (value : Bytes) : Bytes :=
  value.foldl (fun output character =>
    (if character = Csv.quote then output ++ [Csv.quote] else output) ++ [character]) []

def csvField (output : Output) (value : Bytes) : Output :=
  let separated := if output.2 then output.1 else output.1 ++ [Csv.comma]
  if ∃ character ∈ value, Special character then
    (separated ++ [Csv.quote] ++ quoted value ++ [Csv.quote], false)
  else (separated ++ value, false)

def csvLineEnd (output : Bytes) : Bytes := output ++ [Csv.carriageReturn, Csv.lineFeed]

def headerNames : List Bytes :=
  [text "schema", text "artifact_id", text "job_id", text "job_revision", text "product_id",
    text "device_id", text "source_period", text "generated_at_utc_ns",
    text "artifact_start_utc_ns", text "artifact_end_utc_ns", text "row_start_utc_ns",
    text "row_end_utc_ns"]

def columnSuffixes : List Bytes :=
  [text "value", text "quality", text "contributing_samples", text "expected_samples",
    text "complete", text "continuity", text "reset_epoch"]

/-- What the header passes to `csv_field`, in order. -/
def headerFields (dataset : GeneratedDataset) : List Bytes :=
  headerNames ++ dataset.columns.flatMap fun column =>
    columnSuffixes.map fun suffix => column.id ++ text "." ++ suffix

def boolText (value : Bool) : Bytes := if value then text "true" else text "false"

def cellFields (cell : DatasetCell) : List Bytes :=
  [cell.value.getD [], qualityName cell.quality, decimal cell.contributingSamples,
    decimal cell.expectedSamples, boolText cell.complete, boolText cell.continuity,
    (cell.resetEpoch.map decimal).getD []]

/-- What a row passes to `csv_field`, in order. -/
def rowFields (dataset : GeneratedDataset) (row : DatasetRow) : List Bytes :=
  [dataset.schema, dataset.artifactId, dataset.jobId, decimal dataset.jobRevision,
    dataset.productId, dataset.deviceId, periodName dataset.sourcePeriod,
    signedDecimal dataset.generatedAt, signedDecimal dataset.artifactWindow.start,
    signedDecimal dataset.artifactWindow.finish, signedDecimal row.window.start,
    signedDecimal row.window.finish] ++ row.cells.flatMap cellFields

/-- One record: its fields from `first = true` on, and the line end. -/
def csvRecord (output : Bytes) (fields : List Bytes) : Bytes :=
  csvLineEnd (fields.foldl csvField (output, true)).1

def writeRows (dataset : GeneratedDataset) :
    Bytes → List DatasetRow → Except DatalogError Bytes
  | output, [] => .ok output
  | output, row :: rows =>
      if row.cells.length ≠ dataset.columns.length then
        .error ⟨.serializationFailure, "dataset row/column cardinality mismatch"⟩
      else writeRows dataset (csvRecord output (rowFields dataset row)) rows

def write (sha256 : Bytes → Bytes) (dataset : GeneratedDataset) :
    Except DatalogError GeneratedContent :=
  if dataset.format ≠ .csv then
    .error ⟨.serializationFailure, "CSV writer received a non-CSV dataset"⟩
  else do
    let output ← writeRows dataset (csvRecord [] (headerFields dataset)) dataset.rows
    return content sha256 dataset output (text "text/csv; charset=utf-8") (text "csv")

def fieldText (value : Bytes) : Bytes :=
  if ∃ character ∈ value, Special character then [Csv.quote] ++ quoted value ++ [Csv.quote]
  else value

theorem quoted_eq (value : Bytes) : quoted value = Csv.doubled value := by
  have grown : ∀ output, value.foldl (fun output character =>
      (if character = Csv.quote then output ++ [Csv.quote] else output) ++ [character]) output =
        output ++ Csv.doubled value := by
    induction value with
    | nil => exact fun output => (List.append_nil output).symm
    | cons character value ih =>
        intro output
        rw [List.foldl_cons, ih, Csv.doubled, Csv.doubled, List.flatMap_cons]
        split
        · next same => simp [same]
        · simp
  exact grown []

theorem fieldText_denotes (value : Bytes) : Denotes (fieldText value) value := by
  unfold fieldText
  split
  · rw [quoted_eq, List.singleton_append]
    exact Csv.denotes_quoted value
  · next plain =>
      push Not at plain
      exact Csv.denotes_bare plain

theorem csvField_eq (output : Output) (value : Bytes) :
    csvField output value =
      ((if output.2 then output.1 else output.1 ++ [Csv.comma]) ++ fieldText value, false) := by
  unfold csvField fieldText
  by_cases special : ∃ character ∈ value, Special character
  · rw [if_pos special, if_pos special]
    simp
  · rw [if_neg special, if_neg special]

theorem fields_after (values : List Bytes) (output : Bytes) :
    (values.foldl csvField (output, false)).1 =
      output ++ values.flatMap fun value => Csv.comma :: fieldText value := by
  induction values generalizing output with
  | nil => exact (List.append_nil output).symm
  | cons value values ih =>
      rw [List.foldl_cons, csvField_eq, ih]
      simp

theorem separated_cons (text : Bytes) (texts : List Bytes) :
    Csv.separated (text :: texts) = text ++ texts.flatMap fun other => Csv.comma :: other := by
  induction texts generalizing text with
  | nil => simp [Csv.separated]
  | cons other texts ih =>
      rw [Csv.separated, ih, List.flatMap_cons, List.cons_append]
      exact List.cons_ne_nil _ _

theorem csvRecord_eq (output : Bytes) {fields : List Bytes} (some_fields : fields ≠ []) :
    csvRecord output fields = output ++ Csv.line (fields.map fieldText) := by
  cases fields with
  | nil => exact absurd rfl some_fields
  | cons value values =>
      rw [csvRecord, csvLineEnd, List.foldl_cons, csvField_eq, fields_after, Csv.line,
        List.map_cons, separated_cons, List.flatMap_map]
      simp

theorem headerFields_nonempty (dataset : GeneratedDataset) : headerFields dataset ≠ [] :=
  List.cons_ne_nil _ _

theorem rowFields_nonempty (dataset : GeneratedDataset) (row : DatasetRow) :
    rowFields dataset row ≠ [] := List.cons_ne_nil _ _

theorem writeRows_eq (dataset : GeneratedDataset) (rows : List DatasetRow) (output : Bytes)
    (matching : ∀ row ∈ rows, row.cells.length = dataset.columns.length) :
    writeRows dataset output rows =
      .ok (output ++
        (rows.map fun row => (rowFields dataset row).map fieldText).flatMap Csv.line) := by
  induction rows generalizing output with
  | nil => simp [writeRows]
  | cons row rows ih =>
      have own := matching row List.mem_cons_self
      rw [writeRows, if_neg (not_not.mpr own),
        ih _ fun other member => matching other (List.mem_cons_of_mem _ member),
        csvRecord_eq _ (rowFields_nonempty dataset row), List.map_cons, List.flatMap_cons,
        List.append_assoc]

/-- Everything that is passed to `csv_field`, record by record. -/
def records (dataset : GeneratedDataset) : List (List Bytes) :=
  headerFields dataset :: dataset.rows.map (rowFields dataset)

theorem records_nonempty (dataset : GeneratedDataset) :
    ∀ record ∈ records dataset, record ≠ [] := by
  intro record member
  rcases List.mem_cons.mp member with rfl | member
  · exact headerFields_nonempty dataset
  · obtain ⟨row, -, rfl⟩ := List.mem_map.mp member
    exact rowFields_nonempty dataset row

theorem write_eq (sha256 : Bytes → Bytes) (dataset : GeneratedDataset)
    (format : dataset.format = .csv)
    (matching : ∀ row ∈ dataset.rows, row.cells.length = dataset.columns.length) :
    write sha256 dataset =
      .ok (content sha256 dataset (((records dataset).map (·.map fieldText)).flatMap Csv.line)
        (text "text/csv; charset=utf-8") (text "csv")) := by
  rw [write, if_neg (not_not.mpr format), csvRecord_eq _ (headerFields_nonempty dataset),
    writeRows_eq _ _ _ matching, records, List.map_cons, List.flatMap_cons, List.map_map]
  rfl

theorem body_parses (dataset : GeneratedDataset) :
    Csv.parse (((records dataset).map (·.map fieldText)).flatMap Csv.line) =
      some (records dataset) := by
  apply Csv.parse_lines
  · rw [List.forall₂_map_left_iff, List.forall₂_same]
    intro record _
    rw [List.forall₂_map_left_iff, List.forall₂_same]
    exact fun value _ => fieldText_denotes value
  · intro texts member
    obtain ⟨record, inside, rfl⟩ := List.mem_map.mp member
    exact fun empty => records_nonempty dataset record inside (List.map_eq_nil_iff.mp empty)

theorem writeRows_ok {dataset : GeneratedDataset} {rows : List DatasetRow} {output written : Bytes}
    (result : writeRows dataset output rows = .ok written) :
    ∀ row ∈ rows, row.cells.length = dataset.columns.length := by
  induction rows generalizing output with
  | nil => exact fun row member => nomatch member
  | cons row rows ih =>
      rw [writeRows] at result
      split at result
      · cases result
      · next same =>
          intro other member
          rcases List.mem_cons.mp member with rfl | member
          · exact not_not.mp same
          · exact ih result other member

theorem write_ok {sha256 : Bytes → Bytes} {dataset : GeneratedDataset}
    {written : GeneratedContent} (result : write sha256 dataset = .ok written) :
    dataset.format = .csv ∧ ∀ row ∈ dataset.rows, row.cells.length = dataset.columns.length := by
  unfold write at result
  split at result
  · cases result
  · next format =>
      obtain ⟨output, rows, -⟩ := Loops.bind_ok result
      exact ⟨not_not.mp format, writeRows_ok rows⟩

/-- A dataset reads back as its header and its rows, and bodies tell what was written apart. -/
theorem csv_artifact_parses_back (sha256 : Bytes → Bytes) (dataset : GeneratedDataset)
    (format : dataset.format = .csv)
    (matching : ∀ row ∈ dataset.rows, row.cells.length = dataset.columns.length) :
    ∃ written, write sha256 dataset = .ok written ∧
      Csv.parse written.body =
        some (headerFields dataset :: dataset.rows.map (rowFields dataset)) ∧
      ∀ (other : GeneratedDataset) (otherWritten : GeneratedContent),
        write sha256 other = .ok otherWritten → written.body = otherWritten.body →
          headerFields dataset = headerFields other ∧
            dataset.rows.map (rowFields dataset) = other.rows.map (rowFields other) := by
  refine ⟨_, write_eq sha256 dataset format matching, body_parses dataset, ?_⟩
  intro other otherWritten result same
  obtain ⟨otherFormat, otherMatching⟩ := write_ok result
  rw [write_eq sha256 other otherFormat otherMatching] at result
  cases result
  have own := body_parses dataset
  have equal : records dataset = records other := by
    rw [show ((records dataset).map (·.map fieldText)).flatMap Csv.line =
      ((records other).map (·.map fieldText)).flatMap Csv.line from same, body_parses other] at own
    exact (Option.some.inj own).symm
  exact List.cons.inj equal

def quotedDataset : GeneratedDataset where
  jobId := text "a," ++ [Csv.quote] ++ text "b" ++ [Csv.carriageReturn, Csv.lineFeed]
  format := .csv
  artifactWindow := ⟨0, 60⟩
  columns := [{ id := text "a.last", attributeKey := text "a", label := [], unit := [] }]
  rows := [⟨⟨0, 60⟩, [{ value := some (text "-5"), quality := .valid, contributingSamples := 1 }]⟩]

def quotedDigest : Bytes :=
  text "e62091a6294eefc82160307b8f35b4c0555c905689273a4306d4115f31ec95a6"

theorem quoted_artifact_parses_back :
    ∃ written, write (fun _ => quotedDigest) quotedDataset = .ok written ∧
      Csv.parse written.body =
        some (headerFields quotedDataset :: quotedDataset.rows.map (rowFields quotedDataset)) := by
  obtain ⟨written, result, parsed, -⟩ :=
    csv_artifact_parses_back (fun _ => quotedDigest) quotedDataset rfl (by decide)
  exact ⟨written, result, parsed⟩

end CsvMeterDataContentWriter

end Msap1.Datalogger
