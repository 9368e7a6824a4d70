import Msap1.Datalogger.Generator
import Msap1.Historian.HistoryQueries

/-! `Msap1HistorianDataSource`: the samples of a window, read from the historian chunk by chunk
and page by page. -/

namespace Msap1.Datalogger

open Historian
open Meter (MeasurementPeriod MeasurementQuality)

/-- `UtcWindow` with the machine's own integers, which the chunk arithmetic depends on. -/
structure MachineWindow where
  start : Int64 := 0
  finish : Int64 := 0
  deriving DecidableEq, Repr

structure DatasetStatus where
  dataset : DatabaseDataset
  oldestNanoseconds : Option Int64 := none

structure HistorianStatus where
  healthy : Bool := true
  migrationInProgress : Bool := false
  datasets : List DatasetStatus := []

/-- The calls of the historian that the data source makes; a failed status carries its text. -/
structure HistorianClient where
  status : Except String HistorianStatus
  query : HistoryQuery → Except Failure (List HistoryPoint)

def queryChunk : MeasurementPeriod → Int64
  | .basic => 30000000000
  | .seconds10 => 300000000000
  | .cycles150And180 => 300000000000
  | .min10 => 3600000000000
  | .demand => 3600000000000
  | .hour2 => 28800000000000
  | .min10Live => 30000000000
  | .hour2Live => 30000000000

def dataset : MeasurementPeriod → Except Failure DatabaseDataset
  | .basic => .ok .basic
  | .seconds10 => .ok .seconds10
  | .cycles150And180 => .ok .cycles150And180
  | .min10 => .ok .minutes10
  | .hour2 => .ok .hours2
  | .demand => .ok .demand
  | .min10Live => .error
      (refuse .unsupportedCapability "open interval previews cannot generate datalogs")
  | .hour2Live => .error
      (refuse .unsupportedCapability "open interval previews cannot generate datalogs")

def historicalSample (point : HistoryPoint) : HistoricalSample where
  measuredAt := point.measuredAtNanoseconds.toInt
  sourceSequence := point.sourceSequence.toNat
  attributeKey := ⟨point.attributeId.toNat, none⟩
  value := point.value.toInt
  quality := point.quality
  resetEpoch := point.resetEpoch.map UInt64.toNat

structure Msap1HistorianDataSource where
  historian : HistorianClient

namespace Msap1HistorianDataSource

variable (source : Msap1HistorianDataSource)

/-- The historian is ready and has not dropped what the window starts with. -/
def checkStatus (period : MeasurementPeriod) (window : MachineWindow) : Except Failure Unit :=
  match source.historian.status with
  | .error what => .error (refuse .sourceUnavailable ("historian status failed: " ++ what))
  | .ok status =>
      if status.healthy = false ∨ status.migrationInProgress then
        .error (refuse .sourceUnavailable
          "historian is not ready for Data Sender generation")
      else do
        let wanted ← dataset period
        match status.datasets.find? (fun item => item.dataset = wanted) with
        | none => .error (refuse .sourceUnavailable
            "historian does not report the selected dataset")
        | some available =>
            if ∃ oldest ∈ available.oldestNanoseconds, window.start < oldest then
              .error (refuse .sourceRetentionGap
                "source window predates retained historian data")
            else .ok ()

/-- What `query` does before its loop; the numbers of the attributes have 16 bits. -/
def prepareRequest (period : MeasurementPeriod) (attributes : List MeterAttributeKey)
    (window : MachineWindow) : Except Failure HistoryQuery := do
  if ¬window.start < window.finish then throw (.other "historian query window is invalid")
  source.checkStatus period window
  if ∃ selected ∈ attributes, selected.index.isSome then
    throw (.other "indexed historian attribute is unsupported")
  return {
    period
    limit := 50000
    attributes := attributes.map fun selected => UInt16.ofNat selected.id }

def readChunks (request : HistoryQuery) (finish chunkSize : Int64) (pages : Nat) :
    Nat → Int64 → Option (Except Failure (List HistoricalSample))
  | 0, _ => none
  | fuel + 1, start =>
      if start < finish then
        let next := start + chunkSize
        let chunk := { request with
          startNanoseconds := start
          endNanoseconds := if next < finish then next else finish }
        match readPages (fun _ => source.historian.query)
            (refuse .sourceUnavailable "historian continuation made no progress")
            chunk pages 0 none with
        | none => none
        | some (.error failure) => some (.error failure)
        | some (.ok points) =>
            (readChunks request finish chunkSize pages fuel next).map
              (fun rest => rest.map (points.map historicalSample ++ ·))
      else some (.ok [])

/-- `query`; without enough fuel for its two loops there is no answer. -/
def query (fuel : Nat) (period : MeasurementPeriod) (attributes : List MeterAttributeKey)
    (window : MachineWindow) : Option (Except Failure (List HistoricalSample)) :=
  match source.prepareRequest period attributes window with
  | .error failure => some (.error failure)
  | .ok request =>
      source.readChunks request window.finish (queryChunk period) fuel fuel window.start

end Msap1HistorianDataSource

/-- The text of an exception of the historian, which is all that its client rethrows. -/
def rethrown : Msap1.Failure → Failure
  | .invalidArgument text => .other text
  | .conflict text => .other text
  | .unavailable text => .other text
  | .overflowError text => .other text
  | .runtimeError text => .other text
  | .logicError text => .other text

/-- A data source over a historian with the given contents and status. -/
def serving (store : HistoryDatabases) (status : Except String HistorianStatus) :
    Msap1HistorianDataSource where
  historian := {
    status
    query := fun request => (store.query request).mapError rethrown }

section Split

variable {store : HistoryDatabases} {request : HistoryQuery}

def between (request : HistoryQuery) (start finish : Int64) : HistoryQuery :=
  { request with startNanoseconds := start, endNanoseconds := finish }

theorem accepted_between (accepted : Accepted request) {start finish : Int64}
    (inOrder : start ≤ finish) : Accepted (between request start finish) := by
  rcases accepted with ⟨known, checked⟩
  refine ⟨known, ?_⟩
  unfold HistoryDatabases.checkQuery at checked ⊢
  have forward : ¬finish < start := Int64.not_lt.mpr inOrder
  split at checked
  · cases checked
  · split at checked
    · cases checked
    · next supported => exact (if_neg forward).trans (if_neg supported)

theorem joined_split (tables : MeasurementTables) {start middle finish : Int64}
    (first : start ≤ middle) (second : middle ≤ finish) :
    (tables.joined (between request start middle) ++
      tables.joined (between request middle finish)).Perm
        (tables.joined (between request start finish)) := by
  have early : (tables.blocks.filter fun block => block.period = request.period ∧
      start ≤ block.measuredAtNs ∧ block.measuredAtNs < finish).filter
        (fun block => decide (block.measuredAtNs < middle)) =
      tables.blocks.filter fun block => block.period = request.period ∧
        start ≤ block.measuredAtNs ∧ block.measuredAtNs < middle := by
    rw [List.filter_filter]
    apply List.filter_congr
    intro block _
    rw [Int64.le_iff_toInt_le] at second
    simp only [Int64.le_iff_toInt_le, Int64.lt_iff_toInt_lt, ← Bool.decide_and,
      decide_eq_decide, and_left_comm]
    refine and_congr_right fun _ => ?_
    omega
  have late : (tables.blocks.filter fun block => block.period = request.period ∧
      start ≤ block.measuredAtNs ∧ block.measuredAtNs < finish).filter
        (fun block => !decide (block.measuredAtNs < middle)) =
      tables.blocks.filter fun block => block.period = request.period ∧
        middle ≤ block.measuredAtNs ∧ block.measuredAtNs < finish := by
    rw [List.filter_filter]
    apply List.filter_congr
    intro block _
    rw [Int64.le_iff_toInt_le] at first
    simp only [Int64.le_iff_toInt_le, Int64.lt_iff_toInt_lt, ← decide_not, ← Bool.decide_and,
      decide_eq_decide, and_left_comm]
    refine and_congr_right fun _ => ?_
    omega
  have parts := List.filter_append_perm
    (fun block : BlockRow => decide (block.measuredAtNs < middle))
    (tables.blocks.filter fun block => block.period = request.period ∧
      start ≤ block.measuredAtNs ∧ block.measuredAtNs < finish)
  rw [early, late] at parts
  have joined := parts.flatMap_right fun block =>
    (tables.values.filter fun value => value.blockId = block.id ∧
      (request.attributes = [] ∨ value.attributeId ∈ request.attributes)).map fun value =>
        (block, value)
  rw [List.flatMap_append] at joined
  exact joined

theorem rows_between (start finish : Int64) {tables : MeasurementTables}
    (chosen : store.database request.period = .ok tables) :
    store.rows (between request start finish) = tables.joined (between request start finish) := by
  have same : store.database (between request start finish).period = .ok tables := chosen
  unfold HistoryDatabases.rows
  rw [same]

theorem rows_split (accepted : Accepted request) {start middle finish : Int64}
    (first : start ≤ middle) (second : middle ≤ finish) :
    (store.rows (between request start middle) ++ store.rows (between request middle finish)).Perm
      (store.rows (between request start finish)) := by
  rcases accepted.1 with ⟨dataset, known⟩
  rcases database_ok store known with ⟨tables, chosen, -⟩
  rw [rows_between start middle chosen, rows_between middle finish chosen,
    rows_between start finish chosen]
  exact joined_split tables first second

theorem rows_time {start finish : Int64} {row : JoinedRow}
    (member : row ∈ store.rows (between request start finish)) :
    start ≤ row.1.measuredAtNs ∧ row.1.measuredAtNs < finish := by
  unfold HistoryDatabases.rows at member
  split at member
  · rcases List.mem_flatMap.mp member with ⟨block, selected, inside⟩
    rcases List.mem_map.mp inside with ⟨value, -, rfl⟩
    exact (of_decide_eq_true (List.mem_filter.mp selected).2).2
  · exact absurd member List.not_mem_nil

theorem key_lt_of_time {left right : JoinedRow}
    (before : left.1.measuredAtNs < right.1.measuredAtNs) : left.key < right.key := by
  rw [Int64.lt_iff_toInt_lt] at before
  exact Prod.Lex.toLex_lt_toLex.mpr (.inl before)

theorem ordered_split (accepted : Accepted request) {start middle finish : Int64}
    (first : start ≤ middle) (second : middle ≤ finish) :
    Paging.ordered JoinedRow.key (store.rows (between request start finish)) =
      Paging.ordered JoinedRow.key (store.rows (between request start middle)) ++
        Paging.ordered JoinedRow.key (store.rows (between request middle finish)) := by
  apply Paging.ordered_append JoinedRow.key (rows_split accepted first second)
    (rows_keyed store _)
  intro left leftMember right rightMember
  have earlier := (rows_time leftMember).2
  have later := (rows_time rightMember).1
  exact key_lt_of_time (Int64.lt_of_lt_of_le earlier later)

end Split

theorem queryChunk_positive (period : MeasurementPeriod) : 0 < (queryChunk period).toInt := by
  cases period <;> decide

/-- Every chunk that begins inside the window ends within the signed 64-bit range. -/
def ChunksFit (start finish chunkSize : ℤ) : Prop :=
  ∀ count : ℕ, start + count * chunkSize < finish → start + (count + 1) * chunkSize < 2 ^ 63

theorem chunksFit_next {start finish chunkSize : ℤ} (fit : ChunksFit start finish chunkSize) :
    ChunksFit (start + chunkSize) finish chunkSize := by
  intro count inside
  have later := fit (count + 1)
  push_cast at later
  simp only [add_mul, one_mul] at later ⊢
  omega

theorem chunksFit_of_next {start finish chunkSize : ℤ} (first : start + chunkSize < 2 ^ 63)
    (fit : ChunksFit (start + chunkSize) finish chunkSize) :
    ChunksFit start finish chunkSize := by
  intro count inside
  cases count with
  | zero =>
      rw [Nat.cast_zero, zero_add, one_mul]
      exact first
  | succ count =>
      have later := fit count
      push_cast at inside ⊢
      simp only [add_mul, one_mul] at later inside ⊢
      omega

theorem next_cases (start chunkSize : Int64) (positive : 0 < chunkSize.toInt) :
    (start.toInt + chunkSize.toInt < 2 ^ 63 ∧
        (start + chunkSize).toInt = start.toInt + chunkSize.toInt) ∨
      (2 ^ 63 ≤ start.toInt + chunkSize.toInt ∧ start + chunkSize < start) := by
  have startLow := start.le_toInt
  have startHigh := start.toInt_lt
  have chunkHigh := chunkSize.toInt_lt
  rw [Int64.lt_iff_toInt_lt, Int64.toInt_add, Int.bmod_def]
  split <;> omega

section Chunks

variable {store : HistoryDatabases} {status : Except String HistorianStatus}
  {request : HistoryQuery} {Reason : Type}

theorem chunk_pages (accepted : Accepted request) (limit : request.limit = 50000)
    {start finish : Int64} (inOrder : start ≤ finish) (stuck : Failure) {pages : Nat}
    (enough : (store.rows (between request start finish)).length < pages) :
    readPages (fun _ => (serving store status).historian.query) stuck
        (between request start finish) pages 0 none =
      some (.ok ((Paging.ordered JoinedRow.key
        (store.rows (between request start finish))).map JoinedRow.point)) := by
  have bounded : Bounded (between request start finish) := by
    change 1 ≤ request.limit ∧ request.limit ≤ 50000
    rw [limit]
    decide
  apply readPages_constant stuck store (bounded_positive bounded) _ enough
  intro after keys bound
  change (store.query _).mapError rethrown = _
  rw [query_page store (accepted_between accepted inOrder) bounded bound]
  rfl

theorem readChunks_done (source : Msap1HistorianDataSource) {finish chunkSize start : Int64}
    {pages fuel : Nat} (past : ¬start < finish) :
    source.readChunks request finish chunkSize pages (fuel + 1) start = some (.ok []) := by
  unfold Msap1HistorianDataSource.readChunks
  rw [if_neg past]

theorem readChunks_step (source : Msap1HistorianDataSource) {finish chunkSize start : Int64}
    {pages fuel : Nat} (inside : start < finish) :
    source.readChunks request finish chunkSize pages (fuel + 1) start =
      match readPages (fun _ => source.historian.query)
          (refuse .sourceUnavailable "historian continuation made no progress")
          (between request start (if start + chunkSize < finish then start + chunkSize
            else finish)) pages 0 none with
      | none => none
      | some (.error failure) => some (.error failure)
      | some (.ok points) =>
          (source.readChunks request finish chunkSize pages fuel (start + chunkSize)).map
            (fun rest => rest.map (points.map historicalSample ++ ·)) := by
  rw [Msap1HistorianDataSource.readChunks, if_pos inside]
  rfl

def samplesBetween (store : HistoryDatabases) (request : HistoryQuery) (start finish : Int64) :
    List HistoricalSample :=
  ((Paging.ordered JoinedRow.key (store.rows (between request start finish))).map
    JoinedRow.point).map historicalSample

theorem readChunks_ok (accepted : Accepted request) (limit : request.limit = 50000)
    {finish chunkSize : Int64} (positive : 0 < chunkSize.toInt) {pages fuel : Nat}
    {start : Int64} (inOrder : start ≤ finish)
    (fit : ChunksFit start.toInt finish.toInt chunkSize.toInt)
    (enoughPages : (store.rows (between request start finish)).length < pages)
    (enough : (finish.toInt - start.toInt).toNat < fuel) :
    (serving store status).readChunks request finish chunkSize pages fuel start =
      some (.ok (samplesBetween store request start finish)) := by
  induction fuel generalizing start with
  | zero => omega
  | succ fuel ih =>
      by_cases inside : start < finish
      · rw [readChunks_step _ inside]
        rw [Int64.lt_iff_toInt_lt] at inside
        have first := fit 0
        rw [Nat.cast_zero, zero_mul, zero_add, one_mul, add_zero] at first
        rcases next_cases start chunkSize positive with ⟨-, value⟩ | ⟨wrapped, -⟩
        · have later : start ≤ start + chunkSize := by
            rw [Int64.le_iff_toInt_le, value]
            omega
          by_cases more : start + chunkSize < finish
          · have before := Int64.le_of_lt more
            have sizes := (@rows_split store request accepted _ _ _ later before).length_eq
            rw [List.length_append] at sizes
            have fits : (store.rows (between request start (start + chunkSize))).length <
                pages := by omega
            have rest := ih before (by rw [value]; exact chunksFit_next fit) (by omega)
              (by rw [value]; omega)
            rw [if_pos more, chunk_pages accepted limit later _ fits, rest]
            simp only [samplesBetween, ordered_split accepted later before, List.map_append,
              Option.map_some, Except.map]
          · have done : ∃ less, fuel = less + 1 := ⟨fuel - 1, by omega⟩
            rcases done with ⟨less, rfl⟩
            rw [if_neg more, chunk_pages accepted limit inOrder _ enoughPages,
              readChunks_done _ more]
            simp only [samplesBetween, Option.map_some, Except.map, List.append_nil]
        · omega
      · have same : start = finish := Int64.le_antisymm inOrder (Int64.not_lt.mp inside)
        have nothing : store.rows (between request start finish) = [] := by
          rw [List.eq_nil_iff_forall_not_mem]
          intro row member
          rcases rows_time member with ⟨low, high⟩
          rw [same] at low
          exact absurd high (Int64.not_lt.mpr low)
        rw [readChunks_done _ inside, samplesBetween, nothing]
        simp only [Paging.ordered, List.mergeSort_nil, List.map_nil]

theorem page_in_order {stuck : Failure} {start finish : Int64} {pages : Nat}
    {points : List HistoryPoint}
    (returned : readPages (fun _ => (serving store status).historian.query) stuck
      (between request start finish) pages 0 none = some (.ok points)) : start ≤ finish := by
  cases pages with
  | zero => cases returned
  | succ pages =>
      unfold readPages at returned
      cases answered : (serving store status).historian.query
          { between request start finish with after := none } with
      | error failure =>
          simp only [answered] at returned
          cases returned
      | ok page =>
          change (store.query { between request start finish with after := none }).mapError
            rethrown = _ at answered
          cases queried : store.query { between request start finish with after := none } with
          | error failure =>
              rw [queried] at answered
              cases answered
          | ok other => exact query_in_order queried

theorem readChunks_fit {finish chunkSize : Int64} (positive : 0 < chunkSize.toInt)
    {pages fuel : Nat} {start : Int64} {samples : List HistoricalSample}
    (returned : (serving store status).readChunks request finish chunkSize pages fuel start =
      some (.ok samples)) : ChunksFit start.toInt finish.toInt chunkSize.toInt := by
  induction fuel generalizing start samples with
  | zero => cases returned
  | succ fuel ih =>
      by_cases inside : start < finish
      · rw [readChunks_step _ inside] at returned
        split at returned
        · cases returned
        · cases returned
        · next points answered =>
            have inOrder := page_in_order answered
            rcases Option.map_eq_some_iff.mp returned with ⟨rest, ran, same⟩
            cases rest with
            | error failure => cases same
            | ok others =>
                have later := ih ran
                rcases next_cases start chunkSize positive with ⟨small, value⟩ |
                  ⟨wrapped, below⟩
                · rw [value] at later
                  exact chunksFit_of_next small later
                · rw [if_pos (Int64.lt_trans below inside)] at inOrder
                  exact absurd below (Int64.not_lt.mpr inOrder)
      · intro count reached
        rw [Int64.not_lt, Int64.le_iff_toInt_le] at inside
        have forward := mul_nonneg (Int.natCast_nonneg count) (le_of_lt positive)
        omega

end Chunks

/-- Following pages of any limit gives the unlimited answer. -/
def PagedExactly (store : HistoryDatabases) (request : HistoryQuery) : Prop :=
  ∀ limit : UInt32, 1 ≤ limit → limit ≤ 50000 → ∀ (stuck : Msap1.Failure) (fuel : ℕ),
    (store.rows request).length < fuel →
      readPages (fun _ => store.query) stuck { request with limit } fuel 0 none =
        some (store.unlimited request)

/-- Between the pages the contents may change: no row comes twice, what comes was stored, and
a row that is there throughout comes. -/
def PagedStably (request : HistoryQuery) : Prop :=
  ∀ limit : UInt32, 1 ≤ limit → limit ≤ 50000 → ∀ (contents : ℕ → HistoryDatabases)
    (stuck : Msap1.Failure) (fuel : ℕ) (points : List HistoryPoint),
      readPages (fun call => (contents call).query) stuck { request with limit } fuel 0 none =
          some (.ok points) →
        (points.map HistoryPoint.cursor).Nodup ∧
          (∀ point ∈ points, ∃ call stored, (contents call).unlimited request = .ok stored ∧
            point ∈ stored) ∧
          ∀ cursor, (∀ call, ∃ stored, (contents call).unlimited request = .ok stored ∧
              cursor ∈ stored.map HistoryPoint.cursor) →
            cursor ∈ points.map HistoryPoint.cursor

/-- A data source that takes the request reads the samples of one query over the window. -/
def ChunkedExactly (store : HistoryDatabases) (status : Except String HistorianStatus)
    (period : MeasurementPeriod) (attributes : List MeterAttributeKey) (window : MachineWindow) :
    Prop :=
  ∀ request points, (serving store status).prepareRequest period attributes window = .ok request →
    store.unlimited (between request window.start window.finish) = .ok points →
      ∃ enough, ∀ fuel ≥ enough, ∃ samples,
        (serving store status).query fuel period attributes window = some (.ok samples) ∧
          samples.Perm (points.map historicalSample)

theorem prepareRequest_ok {source : Msap1HistorianDataSource} {period : MeasurementPeriod}
    {attributes : List MeterAttributeKey} {window : MachineWindow} {request : HistoryQuery}
    (admitted : source.prepareRequest period attributes window = .ok request) :
    window.start < window.finish ∧ request.limit = 50000 ∧ between request 0 0 = request := by
  unfold Msap1HistorianDataSource.prepareRequest at admitted
  simp only at admitted
  split at admitted
  · cases admitted
  · next valid =>
      rcases Loops.bind_ok admitted with ⟨-, -, rest⟩
      split at rest
      · cases rest
      · cases rest
        exact ⟨not_not.mp valid, rfl, rfl⟩

theorem query_admitted {source : Msap1HistorianDataSource} {period : MeasurementPeriod}
    {attributes : List MeterAttributeKey} {window : MachineWindow} {request : HistoryQuery}
    (admitted : source.prepareRequest period attributes window = .ok request) (fuel : ℕ) :
    source.query fuel period attributes window =
      source.readChunks request window.finish (queryChunk period) fuel fuel window.start := by
  unfold Msap1HistorianDataSource.query
  rw [admitted]

theorem chunked_of_fit {store : HistoryDatabases} {status : Except String HistorianStatus}
    {period : MeasurementPeriod} {attributes : List MeterAttributeKey} {window : MachineWindow}
    (fit : ∀ request, (serving store status).prepareRequest period attributes window = .ok request →
      Accepted (between request window.start window.finish) →
        ChunksFit window.start.toInt window.finish.toInt (queryChunk period).toInt) :
    ChunkedExactly store status period attributes window := by
  intro request points admitted returned
  have accepted := accepted_of_unlimited returned
  rcases prepareRequest_ok admitted with ⟨valid, limit, unplaced⟩
  have inOrder := Int64.le_of_lt valid
  have acceptedRequest : Accepted request := by
    have placed := accepted_between accepted (Int64.le_refl 0)
    rw [← unplaced]
    exact placed
  rw [unlimited_ok store accepted] at returned
  cases returned
  refine ⟨(store.rows (between request window.start window.finish)).length +
    (window.finish.toInt - window.start.toInt).toNat + 1, ?_⟩
  intro fuel enough
  refine ⟨samplesBetween store request window.start window.finish, ?_, List.Perm.refl _⟩
  rw [query_admitted admitted]
  exact readChunks_ok acceptedRequest limit (queryChunk_positive period) inOrder
    (fit request admitted accepted) (by omega) (by omega)

theorem fit_of_chunked {store : HistoryDatabases} {status : Except String HistorianStatus}
    {period : MeasurementPeriod} {attributes : List MeterAttributeKey} {window : MachineWindow}
    (chunked : ChunkedExactly store status period attributes window) (request : HistoryQuery)
    (admitted : (serving store status).prepareRequest period attributes window = .ok request)
    (accepted : Accepted (between request window.start window.finish)) :
    ChunksFit window.start.toInt window.finish.toInt (queryChunk period).toInt := by
  rcases chunked request _ admitted (unlimited_ok store accepted) with ⟨enough, reads⟩
  rcases reads enough (le_refl enough) with ⟨samples, read, -⟩
  rw [query_admitted admitted] at read
  exact readChunks_fit (queryChunk_positive period) read

/-- Paging is exact whatever the contents do; reading a window in chunks is exact if and only
if every chunk that begins inside the window ends within the signed 64-bit range. -/
theorem history_reads_exact_iff (store : HistoryDatabases)
    (status : Except String HistorianStatus) (period : MeasurementPeriod)
    (attributes : List MeterAttributeKey) (window : MachineWindow) :
    (∀ request, PagedExactly store request ∧ PagedStably request) ∧
        ChunkedExactly store status period attributes window ↔
      ∀ request, (serving store status).prepareRequest period attributes window = .ok request →
        Accepted (between request window.start window.finish) →
          ChunksFit window.start.toInt window.finish.toInt (queryChunk period).toInt := by
  constructor
  · rintro ⟨-, chunked⟩
    exact fit_of_chunked chunked
  · intro fit
    refine ⟨fun request => ⟨?_, ?_⟩, chunked_of_fit fit⟩
    · intro limit low high stuck fuel enough
      exact @pages_unlimited { request with limit } store stuck ⟨low, high⟩ fuel enough
    · intro limit low high contents stuck fuel points finished
      exact @pages_stable { request with limit } contents stuck ⟨low, high⟩ fuel points finished

def readyStatus : HistorianStatus where
  datasets := [{ dataset := .basic }]

/-- Nanoseconds that end just before the last representable one. -/
def latestWindow : MachineWindow where
  start := 9223372036854775797
  finish := 9223372036854775806

def latestRequest : HistoryQuery where
  attributes := [1]
  limit := 50000

/-- The first chunk of a window at the end of the range wraps around: the historian is asked
for a range that ends before it starts. -/
theorem latest_window_not_read :
    (serving {} (.ok readyStatus)).query 2 .basic [⟨1, none⟩] latestWindow =
        some (.error (.other "history query start is after its end")) ∧
      ¬ChunkedExactly {} (.ok readyStatus) .basic [⟨1, none⟩] latestWindow := by
  constructor
  · rfl
  · intro chunked
    have fit := fit_of_chunked chunked latestRequest rfl ⟨⟨_, rfl⟩, rfl⟩ 0
    exact absurd (fit (by decide)) (by decide)

end Msap1.Datalogger
