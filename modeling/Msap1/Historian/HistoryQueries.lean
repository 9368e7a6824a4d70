import Mathlib.Data.Prod.Lex
import Msap1.Datalogger.Types
import Msap1.Historian.Store
import Msap1.Paging
import Msap1.SignedArithmetic

/-! `MeterHistoryStore::query`: bounded pages of the stored points of a period, and readers that
follow them by the cursor of the last point. -/

namespace Msap1.Historian

open Datalogger (MeterAttributeKey)
open Meter

/-- A row of `measurement_blocks`, as far as queries read it. -/
structure BlockRow where
  id : UInt64
  period : MeasurementPeriod
  recordKind : UInt16
  sourceSequence : UInt64
  measuredAtNs : Int64
  rowid : id ≤ int64Max
  bindable : sourceSequence ≤ int64Max

/-- A row of `measurement_values`; the reset epoch is the number its text stands for. -/
structure ValueRow where
  blockId : UInt64
  attributeId : UInt16
  signedValue : Int64
  quality : MeasurementQuality
  sourceSequence : UInt64
  resetEpoch : Option UInt64 := none
  deriving DecidableEq, Repr

/-- The measurement tables of one database, with their primary keys. -/
structure MeasurementTables where
  blocks : List BlockRow := []
  values : List ValueRow := []
  blockKeys : (blocks.map BlockRow.id).Nodup := by exact List.nodup_nil
  valueKeys : (values.map fun row => (row.blockId, row.attributeId)).Nodup := by
    exact List.nodup_nil

structure HistoryCursor where
  measuredAtNanoseconds : Int64 := 0
  blockSourceSequence : UInt64 := 0
  recordKind : UInt32 := 0
  blockId : UInt64 := 0
  attributeId : UInt16 := 0
  deriving DecidableEq, Repr

structure HistoryPoint where
  measuredAtNanoseconds : Int64 := 0
  sourceSequence : UInt64 := 0
  attributeId : UInt16 := 0
  value : Int64 := 0
  quality : MeasurementQuality := .unavailable
  resetEpoch : Option UInt64 := none
  cursor : HistoryCursor := {}
  deriving DecidableEq, Repr

structure HistoryQuery where
  period : MeasurementPeriod := .basic
  attributes : List UInt16 := []
  startNanoseconds : Int64 := 0
  endNanoseconds : Int64 := 0
  limit : UInt32 := 10000
  after : Option HistoryCursor := none
  deriving DecidableEq, Repr

/-- The five columns of the `ORDER BY`. -/
abbrev OrderKey := ℤ ×ₗ ℤ ×ₗ ℤ ×ₗ ℤ ×ₗ ℤ

def orderKey (measuredAt sourceSequence recordKind id attributeId : ℤ) : OrderKey :=
  toLex (measuredAt, toLex (sourceSequence, toLex (recordKind, toLex (id, attributeId))))

abbrev JoinedRow := BlockRow × ValueRow

def JoinedRow.key (row : JoinedRow) : OrderKey :=
  orderKey row.1.measuredAtNs.toInt row.1.sourceSequence.toNat row.1.recordKind.toNat
    row.1.id.toNat row.2.attributeId.toNat

def JoinedRow.point (row : JoinedRow) : HistoryPoint where
  measuredAtNanoseconds := row.1.measuredAtNs
  sourceSequence := row.2.sourceSequence
  attributeId := row.2.attributeId
  value := row.2.signedValue
  quality := row.2.quality
  resetEpoch := row.2.resetEpoch
  cursor := {
    measuredAtNanoseconds := row.1.measuredAtNs
    blockSourceSequence := row.1.sourceSequence
    recordKind := row.1.recordKind.toUInt32
    blockId := row.1.id
    attributeId := row.2.attributeId }

def HistoryCursor.bound (cursor : HistoryCursor) : Except Failure OrderKey := do
  let sourceSequence ← bindUnsigned cursor.blockSourceSequence
  let blockId ← bindUnsigned cursor.blockId
  return orderKey cursor.measuredAtNanoseconds.toInt sourceSequence.toInt
    cursor.recordKind.toInt32.toInt blockId.toInt cursor.attributeId.toNat

/-- The join under the `WHERE` clause, without the continuation. -/
def MeasurementTables.joined (tables : MeasurementTables) (query : HistoryQuery) :
    List JoinedRow :=
  (tables.blocks.filter fun block => block.period = query.period ∧
      query.startNanoseconds ≤ block.measuredAtNs ∧
        block.measuredAtNs < query.endNanoseconds).flatMap fun block =>
    (tables.values.filter fun value => value.blockId = block.id ∧
      (query.attributes = [] ∨ value.attributeId ∈ query.attributes)).map fun value =>
        (block, value)

/-- What queries read of the store: its two databases and the routing by dataset. -/
structure HistoryDatabases where
  volatile : DatabaseDataset → Bool := fun _ => false
  memory : MeasurementTables := {}
  persistent : MeasurementTables := {}

namespace HistoryDatabases

variable (store : HistoryDatabases)

def database (period : MeasurementPeriod) : Except Failure MeasurementTables := do
  let dataset ← datasetFor period
  return if store.volatile dataset then store.memory else store.persistent

def checkQuery (query : HistoryQuery) : Except Failure Unit :=
  if query.endNanoseconds < query.startNanoseconds then
    .error (.invalidArgument "history query start is after its end")
  else if ∃ selected ∈ query.attributes,
      MeterAttributeKey.supportsHistorian ⟨selected.toNat, none⟩ query.period = false then
    .error (.invalidArgument "unsupported history attribute")
  else .ok ()

def query (query : HistoryQuery) : Except Failure (List HistoryPoint) := do
  let _ ← datasetFor query.period
  if query.limit = 0 ∨ query.limit > 50000 then
    throw (.invalidArgument "history query limit must be 1..50000")
  checkQuery query
  let tables ← store.database query.period
  let after ← query.after.mapM HistoryCursor.bound
  return (Paging.page JoinedRow.key query.limit.toNat after (tables.joined query)).map
    JoinedRow.point

/-- The same statement without a limit and a continuation: every matching point in order. -/
def unlimited (query : HistoryQuery) : Except Failure (List HistoryPoint) := do
  let _ ← datasetFor query.period
  checkQuery query
  let tables ← store.database query.period
  return (Paging.ordered JoinedRow.key (tables.joined query)).map JoinedRow.point

end HistoryDatabases

/-- A reader: pages after the last returned cursor, until one is shorter than the limit. The
calls may find different contents; the reader is missing when it has no fuel left. -/
def readPages {Reason : Type} (answer : Nat → HistoryQuery → Except Reason (List HistoryPoint))
    (stuck : Reason) (request : HistoryQuery) :
    Nat → Nat → Option HistoryCursor → Option (Except Reason (List HistoryPoint))
  | 0, _, _ => none
  | fuel + 1, call, after => match answer call { request with after } with
    | .error reason => some (.error reason)
    | .ok page =>
        if page.length < request.limit.toNat then some (.ok page)
        else match page.getLast? with
          | none => some (.error stuck)
          | some last =>
              (readPages answer stuck request fuel (call + 1) (some last.cursor)).map
                (fun rest => rest.map (page ++ ·))

section Keys

theorem orderKey_inj {first second third fourth fifth first' second' third' fourth' fifth' : ℤ}
    (same : orderKey first second third fourth fifth =
      orderKey first' second' third' fourth' fifth') :
    first = first' ∧ second = second' ∧ third = third' ∧ fourth = fourth' ∧ fifth = fifth' := by
  simpa [orderKey] using same

/-- A row of the join is determined by its block and its attribute, which the key ends with. -/
theorem joined_keyed (tables : MeasurementTables) (query : HistoryQuery) :
    Paging.Keyed JoinedRow.key (tables.joined query) := by
  have apart : ∀ left right : JoinedRow, left.1.id ≠ right.1.id ∨
      left.2.attributeId ≠ right.2.attributeId → left.key ≠ right.key := by
    intro left right different same
    rcases orderKey_inj same with ⟨-, -, -, sameId, sameAttribute⟩
    rcases different with other | other
    · exact other (UInt64.toNat_inj.mp (by omega))
    · exact other (UInt16.toNat_inj.mp (by omega))
  unfold Paging.Keyed MeasurementTables.joined
  rw [List.pairwise_flatMap]
  constructor
  · intro block _
    rw [List.pairwise_map]
    have distinct := List.pairwise_map.mp tables.valueKeys
    refine (distinct.sublist List.filter_sublist).imp_of_mem ?_
    intro left right leftMember rightMember different
    have leftBlock := (of_decide_eq_true (List.mem_filter.mp leftMember).2).1
    have rightBlock := (of_decide_eq_true (List.mem_filter.mp rightMember).2).1
    apply apart
    right
    intro same
    exact different (Prod.ext (leftBlock.trans rightBlock.symm) same)
  · have distinct := List.pairwise_map.mp tables.blockKeys
    refine (distinct.sublist List.filter_sublist).imp ?_
    intro left right different first firstMember second secondMember
    rcases List.mem_map.mp firstMember with ⟨_, -, rfl⟩
    rcases List.mem_map.mp secondMember with ⟨_, -, rfl⟩
    exact apart _ _ (.inl different)

theorem bound_unsigned {value : UInt64} (small : value ≤ int64Max) :
    ∃ column, bindUnsigned value = .ok column ∧ column.toInt = value.toNat := by
  refine ⟨value.toInt64, ?_, ?_⟩
  · unfold bindUnsigned
    rw [if_neg (UInt64.not_lt.mpr small)]
  · have bound : value.toNat ≤ 9223372036854775807 := UInt64.le_iff_toNat_le.mp small
    rw [SignedArithmetic.toInt64_toInt]
    omega

theorem kind_bound (kind : UInt16) : kind.toUInt32.toInt32.toInt = kind.toNat := by
  have small := kind.toNat_lt
  rw [Int32.toInt, UInt32.toBitVec_toInt32, BitVec.toInt_eq_toNat_bmod, UInt32.toNat_toBitVec,
    UInt16.toNat_toUInt32]
  exact Int.bmod_eq_of_le (by omega) (by omega)

theorem cursor_bound (row : JoinedRow) : row.point.cursor.bound = .ok row.key := by
  rcases bound_unsigned row.1.bindable with ⟨sequence, sequenceBound, sequenceValue⟩
  rcases bound_unsigned row.1.rowid with ⟨id, idBound, idValue⟩
  unfold HistoryCursor.bound JoinedRow.key
  rw [← sequenceValue, ← idValue, ← kind_bound row.1.recordKind]
  simp only [JoinedRow.point, sequenceBound, idBound]
  rfl

end Keys

section Pages

variable {request : HistoryQuery} {Reason : Type}

/-- The checks that do not depend on the contents. -/
def Accepted (request : HistoryQuery) : Prop :=
  (∃ dataset, datasetFor request.period = .ok dataset) ∧
    HistoryDatabases.checkQuery request = .ok ()

def HistoryDatabases.rows (store : HistoryDatabases) (request : HistoryQuery) : List JoinedRow :=
  match store.database request.period with
  | .ok tables => tables.joined request
  | .error _ => []

theorem rows_keyed (store : HistoryDatabases) (request : HistoryQuery) :
    Paging.Keyed JoinedRow.key (store.rows request) := by
  unfold HistoryDatabases.rows
  split
  · exact joined_keyed _ request
  · exact List.Pairwise.nil

theorem database_ok (store : HistoryDatabases) {dataset : DatabaseDataset}
    (known : datasetFor request.period = .ok dataset) :
    ∃ tables, store.database request.period = .ok tables ∧
      store.rows request = tables.joined request := by
  have chosen : store.database request.period =
      .ok (if store.volatile dataset then store.memory else store.persistent) := by
    unfold HistoryDatabases.database
    rw [known]
    rfl
  refine ⟨_, chosen, ?_⟩
  unfold HistoryDatabases.rows
  rw [chosen]

theorem unlimited_ok (store : HistoryDatabases) (accepted : Accepted request) :
    store.unlimited request =
      .ok ((Paging.ordered JoinedRow.key (store.rows request)).map JoinedRow.point) := by
  rcases accepted with ⟨⟨dataset, known⟩, checked⟩
  rcases database_ok store known with ⟨tables, chosen, same⟩
  unfold HistoryDatabases.unlimited
  rw [known, checked, chosen, same]
  rfl

theorem check_in_order (checked : HistoryDatabases.checkQuery request = .ok ()) :
    request.startNanoseconds ≤ request.endNanoseconds := by
  unfold HistoryDatabases.checkQuery at checked
  split at checked
  · cases checked
  · next forward => exact Int64.not_lt.mp forward

theorem query_in_order {store : HistoryDatabases} {points : List HistoryPoint}
    (returned : store.query request = .ok points) :
    request.startNanoseconds ≤ request.endNanoseconds := by
  rcases Loops.bind_ok returned with ⟨dataset, known, rest⟩
  split at rest
  · cases rest
  · rcases Loops.bind_ok rest with ⟨⟨⟩, checked, -⟩
    exact check_in_order checked

theorem accepted_of_unlimited {store : HistoryDatabases} {points : List HistoryPoint}
    (returned : store.unlimited request = .ok points) : Accepted request := by
  rcases Loops.bind_ok returned with ⟨dataset, known, rest⟩
  rcases Loops.bind_ok rest with ⟨⟨⟩, checked, -⟩
  exact ⟨⟨dataset, known⟩, checked⟩

/-- The limit is in the range that `query` takes. -/
def Bounded (request : HistoryQuery) : Prop := 1 ≤ request.limit ∧ request.limit ≤ 50000

theorem bounded_positive (bounded : Bounded request) : 0 < request.limit.toNat :=
  UInt32.le_iff_toNat_le.mp bounded.1

theorem query_page (store : HistoryDatabases) (accepted : Accepted request)
    (bounded : Bounded request) {after : Option HistoryCursor} {keys : Option OrderKey}
    (bound : after.mapM HistoryCursor.bound = .ok keys) :
    store.query { request with after } = .ok
      ((Paging.page JoinedRow.key request.limit.toNat keys (store.rows request)).map
        JoinedRow.point) := by
  rcases accepted with ⟨⟨dataset, known⟩, checked⟩
  rcases database_ok store known with ⟨tables, chosen, same⟩
  have positive := bounded_positive bounded
  have inRange : ¬(request.limit = 0 ∨ request.limit > 50000) := by
    rintro (zero | large)
    · rw [zero] at positive
      exact absurd positive (by decide)
    · exact absurd bounded.2 (UInt32.not_le.mpr large)
  have check : HistoryDatabases.checkQuery { request with after } = .ok () := checked
  unfold HistoryDatabases.query
  simp only [known, check, chosen, bound, same, if_neg inRange]
  rfl

theorem readPages_follow {answer : Nat → HistoryQuery → Except Reason (List HistoryPoint)}
    (stuck : Reason) (contents : Nat → HistoryDatabases) (positive : 0 < request.limit.toNat)
    (served : ∀ call after keys, after.mapM HistoryCursor.bound = .ok keys →
      answer call { request with after } = .ok ((Paging.page JoinedRow.key request.limit.toNat keys
        ((contents call).rows request)).map JoinedRow.point)) (fuel : Nat) :
    ∀ call after keys, after.mapM HistoryCursor.bound = .ok keys →
      readPages answer stuck request fuel call after =
        (Paging.follow JoinedRow.key request.limit.toNat
          (fun call => (contents call).rows request) fuel call keys).map
            (fun rows => .ok (rows.map JoinedRow.point)) := by
  induction fuel with
  | zero => exact fun call after keys bound => rfl
  | succ fuel ih =>
      intro call after keys bound
      unfold readPages Paging.follow
      simp only [served call after keys bound, List.length_map, List.getLast?_map]
      by_cases short : (Paging.page JoinedRow.key request.limit.toNat keys
          ((contents call).rows request)).length < request.limit.toNat
      · simp only [short, if_true, Option.map_some]
      · simp only [short, if_false]
        rcases Paging.full_page JoinedRow.key positive short with ⟨front, last, rest, shape, -⟩
        have final : (some last.point.cursor).mapM HistoryCursor.bound =
            .ok (some last.key) := by
          change (some <$> last.point.cursor.bound) = _
          rw [cursor_bound]
          rfl
        rw [shape, List.getLast?_concat, Option.map_some]
        simp only [ih (call + 1) (some last.point.cursor) (some last.key) final, Option.map_map]
        congr 1
        funext rows
        simp [Except.map]

theorem readPages_constant {answer : HistoryQuery → Except Reason (List HistoryPoint)}
    (stuck : Reason) (store : HistoryDatabases) (positive : 0 < request.limit.toNat)
    (served : ∀ after keys, after.mapM HistoryCursor.bound = .ok keys →
      answer { request with after } = .ok ((Paging.page JoinedRow.key request.limit.toNat keys
        (store.rows request)).map JoinedRow.point)) {fuel : Nat}
    (enough : (store.rows request).length < fuel) :
    readPages (fun _ => answer) stuck request fuel 0 none =
      some (.ok ((Paging.ordered JoinedRow.key (store.rows request)).map JoinedRow.point)) := by
  rw [readPages_follow stuck (fun _ => store) positive (fun _ => served) fuel 0 none none rfl]
  have everything : Paging.following JoinedRow.key none (store.rows request) =
      store.rows request := by
    unfold Paging.following
    rw [List.filter_eq_self]
    exact fun _ _ => rfl
  rw [Paging.follow_constant JoinedRow.key (rows_keyed store request) positive 0 none
    (by rw [everything]; exact enough), everything]
  rfl

theorem refused (store : HistoryDatabases) (bounded : Bounded request)
    (accepted : ¬Accepted request) :
    ∃ failure, store.unlimited request = .error failure ∧
      store.query { request with after := none } = .error failure := by
  have positive := bounded_positive bounded
  have inRange : ¬(request.limit = 0 ∨ request.limit > 50000) := by
    rintro (zero | large)
    · rw [zero] at positive
      exact absurd positive (by decide)
    · exact absurd bounded.2 (UInt32.not_le.mpr large)
  unfold HistoryDatabases.unlimited HistoryDatabases.query
  cases known : datasetFor request.period with
  | error failure => exact ⟨failure, rfl, rfl⟩
  | ok dataset =>
      cases checked : HistoryDatabases.checkQuery request with
      | error failure =>
          have check : HistoryDatabases.checkQuery { request with after := none } =
              .error failure := checked
          refine ⟨failure, rfl, ?_⟩
          simp only [check, if_neg inRange]
          rfl
      | ok done => exact absurd ⟨⟨dataset, known⟩, checked⟩ accepted

theorem pages_unlimited (store : HistoryDatabases) (stuck : Failure) (bounded : Bounded request)
    {fuel : Nat} (enough : (store.rows request).length < fuel) :
    readPages (fun _ => store.query) stuck request fuel 0 none =
      some (store.unlimited request) := by
  by_cases accepted : Accepted request
  · rw [readPages_constant stuck store (bounded_positive bounded)
      (fun after keys bound => query_page store accepted bounded bound) enough,
      unlimited_ok store accepted]
  · rcases refused store bounded accepted with ⟨failure, whole, page⟩
    cases fuel with
    | zero => omega
    | succ fuel =>
        unfold readPages
        simp only [page, whole]

theorem cursor_of_key {left right : JoinedRow} (same : left.key = right.key) :
    left.point.cursor = right.point.cursor := by
  rcases orderKey_inj same with ⟨time, sequence, kind, id, attributeId⟩
  have sameTime := Int64.toInt_inj.mp time
  have sameSequence := UInt64.toNat_inj.mp (Int.ofNat.inj sequence)
  have sameKind := UInt16.toNat_inj.mp (Int.ofNat.inj kind)
  have sameId := UInt64.toNat_inj.mp (Int.ofNat.inj id)
  have sameAttribute := UInt16.toNat_inj.mp (Int.ofNat.inj attributeId)
  simp only [JoinedRow.point, sameTime, sameSequence, sameKind, sameId, sameAttribute]

theorem key_of_cursor {left right : JoinedRow} (same : left.point.cursor = right.point.cursor) :
    left.key = right.key := by
  have bound := cursor_bound left
  rw [same, cursor_bound right] at bound
  exact (Except.ok.inj bound).symm

/-- Whatever happens to the contents between the pages, no row comes twice and a row that is
there throughout comes once. -/
theorem pages_stable (contents : Nat → HistoryDatabases) (stuck : Failure)
    (bounded : Bounded request) {fuel : Nat} {points : List HistoryPoint}
    (finished : readPages (fun call => (contents call).query) stuck request fuel 0 none =
      some (.ok points)) :
    (points.map HistoryPoint.cursor).Nodup ∧
      (∀ point ∈ points, ∃ call stored, (contents call).unlimited request = .ok stored ∧
        point ∈ stored) ∧
      ∀ cursor, (∀ call, ∃ stored, (contents call).unlimited request = .ok stored ∧
          cursor ∈ stored.map HistoryPoint.cursor) →
        cursor ∈ points.map HistoryPoint.cursor := by
  by_cases accepted : Accepted request
  · have positive := bounded_positive bounded
    have keyed := fun call => rows_keyed (contents call) request
    rw [readPages_follow stuck contents positive
      (fun call after keys bound => query_page (contents call) accepted bounded bound) fuel 0 none
      none rfl] at finished
    rcases Option.map_eq_some_iff.mp finished with ⟨rows, followed, same⟩
    cases same
    have increasing := (Paging.follow_increasing JoinedRow.key keyed positive followed).1
    refine ⟨?_, ?_, ?_⟩
    · rw [List.map_map, List.Nodup, List.pairwise_map]
      refine increasing.imp ?_
      intro left right before same
      exact absurd (key_of_cursor same) (ne_of_lt before)
    · intro point member
      rcases List.mem_map.mp member with ⟨row, inside, rfl⟩
      rcases Paging.follow_stored JoinedRow.key positive followed inside with ⟨call, stored⟩
      refine ⟨call, _, unlimited_ok (contents call) accepted, List.mem_map_of_mem ?_⟩
      exact (Paging.mem_ordered JoinedRow.key).mpr stored
    · intro cursor throughout
      have present : ∀ call, ∃ row ∈ (contents call).rows request, row.point.cursor = cursor := by
        intro call
        rcases throughout call with ⟨stored, returned, member⟩
        rw [unlimited_ok (contents call) accepted] at returned
        cases returned
        rw [List.map_map] at member
        rcases List.mem_map.mp member with ⟨row, inside, same⟩
        exact ⟨row, (Paging.mem_ordered JoinedRow.key).mp inside, same⟩
      rcases present 0 with ⟨first, -, here⟩
      have throughKey : ∀ call, ∃ row ∈ (contents call).rows request, row.key = first.key := by
        intro call
        rcases present call with ⟨row, inside, same⟩
        exact ⟨row, inside, key_of_cursor (same.trans here.symm)⟩
      have reached := Paging.follow_reaches JoinedRow.key keyed positive throughKey
        (fun passed absent => by cases absent) followed
      rcases reached with ⟨row, inside, same⟩
      rw [List.map_map]
      exact List.mem_map.mpr ⟨row, inside, (cursor_of_key same).trans here⟩
  · rcases refused (contents 0) bounded accepted with ⟨failure, -, page⟩
    cases fuel with
    | zero => cases finished
    | succ fuel =>
        unfold readPages at finished
        simp only [page] at finished
        cases finished

end Pages

end Msap1.Historian
