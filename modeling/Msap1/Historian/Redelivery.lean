import Msap1.Historian.EventCatalogue
import Msap1.Historian.EventLinks

/-! Redelivery of lifecycle records. The stream hands its records over at least once: whatever it
has delivered may come again in stretches before it goes on. The catalogue absorbs this for the
events whose last edge is unambiguous. -/

namespace Msap1.Historian

open Meter

/-- The columns of a row that a redelivery must leave as they are. -/
structure CatalogView where
  eventId : PowerQualityEventId
  payload : List UInt8
  lifecycle : UInt8
  firstSample : UInt64
  lastSample : UInt64
  triggerSample : UInt64
  startUtcNs : Int
  lastUtcNs : Int
  timeQuality : UInt8
  utcUncertaintyNs : UInt64
  deriving DecidableEq, Repr

def CatalogEntry.view (entry : CatalogEntry) : CatalogView where
  eventId := entry.eventId
  payload := entry.payload
  lifecycle := entry.lifecycle
  firstSample := entry.firstSample
  lastSample := entry.lastSample
  triggerSample := entry.triggerSample
  startUtcNs := entry.startUtcNs
  lastUtcNs := entry.lastUtcNs
  timeQuality := entry.timeQuality
  utcUncertaintyNs := entry.utcUncertaintyNs

/-- The edges of one event in the order of their last sample and lifecycle. -/
def CatalogEntry.upTo (earlier later : CatalogEntry) : Prop :=
  earlier.lastSample < later.lastSample ∨
    later.lastSample = earlier.lastSample ∧ earlier.lifecycle ≤ later.lifecycle

instance (earlier later : CatalogEntry) : Decidable (earlier.upTo later) := by
  unfold CatalogEntry.upTo
  infer_instance

def boundRows (decoders : Decoders) (records : List LifecycleRecord) : List CatalogEntry :=
  records.filterMap (fun record => (boundRow decoders record).toOption)

def InOrder (rows : List CatalogEntry) : Prop :=
  rows.Pairwise (fun earlier later => earlier.eventId = later.eventId → earlier.upTo later)

instance (rows : List CatalogEntry) : Decidable (InOrder rows) := by
  unfold InOrder
  infer_instance

/-- A delivery of the first records of a stream: the next record, or a stretch of those that
were delivered before. -/
inductive Delivers (stream : List LifecycleRecord) : List LifecycleRecord → Nat → Prop
  | start : Delivers stream [] 0
  | onward {delivery : List LifecycleRecord} {count : Nat} {record : LifecycleRecord}
      (before : Delivers stream delivery count) (next : stream[count]? = some record) :
      Delivers stream (delivery ++ [record]) (count + 1)
  | again {delivery : List LifecycleRecord} {count : Nat} (first last : Nat)
      (before : Delivers stream delivery count) (delivered : last ≤ count) :
      Delivers stream (delivery ++ (stream.take last).drop first) count

/-- The last edge of an event in a stream. -/
def LastEdge (rows : List CatalogEntry) (row : CatalogEntry) : Prop :=
  row ∈ rows ∧ ∀ other ∈ rows, other.eventId = row.eventId → other.upTo row

instance (rows : List CatalogEntry) (row : CatalogEntry) : Decidable (LastEdge rows row) := by
  unfold LastEdge
  infer_instance

/-- Whatever binds the last sample and lifecycle of an event binds the same columns. -/
def Unambiguous (rows : List CatalogEntry) : Prop :=
  ∀ row other, LastEdge rows row → LastEdge rows other → row.eventId = other.eventId →
    { row.view with startUtcNs := 0 } = { other.view with startUtcNs := 0 }

namespace CatalogEntry

theorem upTo_refl (row : CatalogEntry) : row.upTo row := .inr ⟨rfl, UInt8.le_refl _⟩

theorem upTo_trans {first second third : CatalogEntry} (early : first.upTo second)
    (late : second.upTo third) : first.upTo third := by
  rcases early with before | ⟨same, less⟩
  · rcases late with onward | ⟨level, -⟩
    · exact .inl (UInt64.lt_trans before onward)
    · exact .inl (level ▸ before)
  · rcases late with onward | ⟨level, more⟩
    · exact .inl (same ▸ onward)
    · exact .inr ⟨level.trans same, UInt8.le_trans less more⟩

def startingAt (row : CatalogEntry) (startUtcNs : Int) : CatalogEntry := { row with startUtcNs }

@[simp] theorem startingAt_eventId (row : CatalogEntry) (start : Int) :
    (row.startingAt start).eventId = row.eventId := rfl

@[simp] theorem startingAt_startUtcNs (row : CatalogEntry) (start : Int) :
    (row.startingAt start).startUtcNs = start := rfl

end CatalogEntry

open CatalogEntry

theorem replaceEvent_upTo {old new : CatalogEntry} (late : old.upTo new) :
    replaceEvent old new =
      new.startingAt (if old.startUtcNs = 0 then new.startUtcNs else old.startUtcNs) :=
  if_pos late

theorem replaceEvent_stale {old new : CatalogEntry} (stale : ¬ old.upTo new) :
    replaceEvent old new = old :=
  if_neg stale

/-- The first start that a row of the event binds; zero stands for none. -/
def firstStart (rows : List CatalogEntry) (eventId : PowerQualityEventId) : Int :=
  match rows.find? (fun row => row.eventId = eventId && row.startUtcNs ≠ 0) with
  | some row => row.startUtcNs
  | none => 0

theorem firstStart_concat (rows : List CatalogEntry) (row : CatalogEntry) :
    firstStart (rows ++ [row]) row.eventId =
      if firstStart rows row.eventId = 0 then row.startUtcNs
      else firstStart rows row.eventId := by
  unfold firstStart
  rw [List.find?_append]
  cases found : rows.find? (fun other => other.eventId = row.eventId && other.startUtcNs ≠ 0) with
  | none =>
      by_cases zero : row.startUtcNs = 0
      · simp [zero]
      · simp [zero]
  | some other =>
      have nonzero := List.find?_some found
      simp only [Bool.and_eq_true, decide_eq_true_eq] at nonzero
      simp [nonzero.2]

theorem firstStart_other (rows : List CatalogEntry) {row : CatalogEntry}
    {eventId : PowerQualityEventId} (other : row.eventId ≠ eventId) :
    firstStart (rows ++ [row]) eventId = firstStart rows eventId := by
  unfold firstStart
  rw [List.find?_append]
  cases rows.find? (fun row => row.eventId = eventId && row.startUtcNs ≠ 0) <;> simp [other]

theorem start_of_firstStart {rows : List CatalogEntry} {row : CatalogEntry} (member : row ∈ rows)
    (none : firstStart rows row.eventId = 0) : row.startUtcNs = 0 := by
  by_contra nonzero
  unfold firstStart at none
  cases found : rows.find? (fun other => other.eventId = row.eventId && other.startUtcNs ≠ 0) with
  | none =>
      have absent := List.find?_eq_none.mp found row member
      simp [nonzero] at absent
  | some other =>
      rw [found] at none
      have kept := List.find?_some found
      simp only [Bool.and_eq_true, decide_eq_true_eq] at kept
      exact kept.2 none

/-- The row of an event after some of its rows: a last edge, from the first start on. -/
def Latest (rows : List CatalogEntry) (entry : CatalogEntry) : Prop :=
  ∃ row, LastEdge rows row ∧ entry = row.startingAt (firstStart rows row.eventId)

theorem replaceEvent_eventId {old new : CatalogEntry} (same : old.eventId = new.eventId) :
    (replaceEvent old new).eventId = old.eventId := by
  by_cases late : old.upTo new
  · rw [replaceEvent_upTo late]
    exact same.symm
  · rw [replaceEvent_stale late]

theorem latest_again {rows : List CatalogEntry} {entry row : CatalogEntry}
    (latest : Latest rows entry) (member : row ∈ rows) (same : entry.eventId = row.eventId) :
    Latest rows (replaceEvent entry row) := by
  rcases latest with ⟨last, ⟨inside, top⟩, rfl⟩
  by_cases late : (last.startingAt (firstStart rows last.eventId)).upTo row
  · have start : (if firstStart rows last.eventId = 0 then row.startUtcNs
        else firstStart rows last.eventId) = firstStart rows row.eventId := by
      have same : last.eventId = row.eventId := same
      rw [same]
      split
      · next none => rw [start_of_firstStart member none, none]
      · rfl
    rw [replaceEvent_upTo late, startingAt_startUtcNs, start]
    refine ⟨row, ⟨member, ?_⟩, rfl⟩
    intro other there own
    exact upTo_trans (top other there (own.trans same.symm)) late
  · rw [replaceEvent_stale late]
    exact ⟨last, ⟨inside, top⟩, rfl⟩

theorem lastEdge_concat {rows : List CatalogEntry} {row : CatalogEntry}
    (newest : ∀ other ∈ rows, other.eventId = row.eventId → other.upTo row) :
    LastEdge (rows ++ [row]) row := by
  refine ⟨List.mem_append_right _ List.mem_cons_self, ?_⟩
  intro other there own
  rcases List.mem_append.mp there with old | new
  · exact newest other old own
  · rw [List.mem_singleton.mp new]
    exact upTo_refl row

theorem latest_onward {rows : List CatalogEntry} {entry row : CatalogEntry}
    (latest : Latest rows entry) (same : entry.eventId = row.eventId)
    (newest : ∀ other ∈ rows, other.eventId = row.eventId → other.upTo row) :
    Latest (rows ++ [row]) (replaceEvent entry row) := by
  rcases latest with ⟨last, ⟨inside, top⟩, rfl⟩
  have late : (last.startingAt (firstStart rows last.eventId)).upTo row :=
    newest last inside same
  have own : last.eventId = row.eventId := same
  rw [replaceEvent_upTo late, startingAt_startUtcNs, own, ← firstStart_concat]
  exact ⟨row, lastEdge_concat newest, rfl⟩

theorem latest_other {rows : List CatalogEntry} {entry row : CatalogEntry}
    (latest : Latest rows entry) (other : row.eventId ≠ entry.eventId) :
    Latest (rows ++ [row]) entry := by
  rcases latest with ⟨last, ⟨inside, top⟩, rfl⟩
  have apart : row.eventId ≠ last.eventId := other
  refine ⟨last, ⟨List.mem_append_left _ inside, ?_⟩, ?_⟩
  · intro row there same
    rcases List.mem_append.mp there with old | new
    · exact top row old same
    · rw [List.mem_singleton.mp new] at same
      exact absurd same apart
  · rw [firstStart_other rows apart]

/-- The events of some rows, in the order in which they first appear. -/
def firstIds (rows : List CatalogEntry) : List PowerQualityEventId :=
  rows.foldl (fun ids row => if row.eventId ∈ ids then ids else ids ++ [row.eventId]) []

theorem firstIds_concat (rows : List CatalogEntry) (row : CatalogEntry) :
    firstIds (rows ++ [row]) =
      if row.eventId ∈ firstIds rows then firstIds rows else firstIds rows ++ [row.eventId] := by
  rw [firstIds, List.foldl_append]
  rfl

theorem mem_firstIds {rows : List CatalogEntry} {eventId : PowerQualityEventId} :
    eventId ∈ firstIds rows ↔ ∃ row ∈ rows, row.eventId = eventId := by
  induction rows using List.reverseRecOn with
  | nil => simp [firstIds]
  | append_singleton rows row ih =>
      rw [firstIds_concat]
      split
      · next known =>
          rw [ih]
          constructor
          · rintro ⟨other, member, own⟩
            exact ⟨other, List.mem_append_left _ member, own⟩
          · rintro ⟨other, member, rfl⟩
            rcases List.mem_append.mp member with old | new
            · exact ⟨other, old, rfl⟩
            · exact ih.mp (by rwa [List.mem_singleton.mp new])
      · simp only [List.mem_append, List.mem_singleton, ih]
        constructor
        · rintro (⟨other, member, own⟩ | rfl)
          · exact ⟨other, .inl member, own⟩
          · exact ⟨row, .inr rfl, rfl⟩
        · rintro ⟨other, member | rfl, own⟩
          · exact .inl ⟨other, member, own⟩
          · exact .inr own.symm

theorem upsertEvent_replaces {old added : List CatalogEntry} {row : CatalogEntry}
    (apart : ∀ entry ∈ old, entry.eventId ≠ row.eventId)
    (known : row.eventId ∈ added.map CatalogEntry.eventId) :
    upsertEvent (old ++ added) row = old ++ added.map (fun entry =>
      if entry.eventId = row.eventId then replaceEvent entry row else entry) := by
  rcases List.mem_map.mp known with ⟨entry, member, own⟩
  rw [upsertEvent, if_pos ⟨entry, List.mem_append_right _ member, own⟩, List.map_append]
  congr 1
  conv_rhs => rw [← List.map_id old]
  apply List.map_congr_left
  intro entry inside
  rw [if_neg (apart entry inside), id]

theorem replaced_ids (added : List CatalogEntry) (row : CatalogEntry) :
    (added.map (fun entry =>
      if entry.eventId = row.eventId then replaceEvent entry row else entry)).map
        CatalogEntry.eventId = added.map CatalogEntry.eventId := by
  rw [List.map_map]
  apply List.map_congr_left
  intro entry _
  simp only [Function.comp_apply]
  split
  · next same => exact replaceEvent_eventId same
  · rfl

/-- The catalogue holds, after what it held before, the last edge of every event of the rows. -/
def Settled (old rows events : List CatalogEntry) : Prop :=
  ∃ added, events = old ++ added ∧ added.map CatalogEntry.eventId = firstIds rows ∧
    ∀ entry ∈ added, Latest rows entry

section Settling

variable {old rows events : List CatalogEntry} {row : CatalogEntry}

theorem settled_replaced {later : List CatalogEntry} (settled : Settled old rows events)
    (apart : ∀ entry ∈ old, entry.eventId ≠ row.eventId) (known : row.eventId ∈ firstIds rows)
    (ids : firstIds later = firstIds rows)
    (own : ∀ entry, Latest rows entry → entry.eventId = row.eventId →
      Latest later (replaceEvent entry row))
    (other : ∀ entry, Latest rows entry → entry.eventId ≠ row.eventId → Latest later entry) :
    Settled old later (upsertEvent events row) := by
  rcases settled with ⟨added, rfl, same, latest⟩
  rw [upsertEvent_replaces apart (same ▸ known)]
  refine ⟨_, rfl, (replaced_ids added row).trans (same.trans ids.symm), ?_⟩
  intro entry member
  rcases List.mem_map.mp member with ⟨before, inside, rfl⟩
  split
  · next named => exact own before (latest before inside) named
  · next apart => exact other before (latest before inside) apart

theorem settled_again (settled : Settled old rows events) (member : row ∈ rows)
    (apart : ∀ entry ∈ old, entry.eventId ≠ row.eventId) :
    Settled old rows (upsertEvent events row) :=
  settled_replaced settled apart (mem_firstIds.mpr ⟨row, member, rfl⟩) rfl
    (fun _ latest same => latest_again latest member same) (fun _ latest _ => latest)

theorem settled_stretch (stretch : List CatalogEntry) (settled : Settled old rows events)
    (inside : ∀ row ∈ stretch, row ∈ rows)
    (apart : ∀ row ∈ rows, ∀ entry ∈ old, entry.eventId ≠ row.eventId) :
    Settled old rows (stretch.foldl upsertEvent events) := by
  induction stretch generalizing events with
  | nil => exact settled
  | cons row stretch ih =>
      have member := inside row List.mem_cons_self
      exact ih (settled_again settled member (apart row member))
        (fun later there => inside later (List.mem_cons_of_mem row there))

theorem settled_onward (settled : Settled old rows events)
    (apart : ∀ entry ∈ old, entry.eventId ≠ row.eventId)
    (newest : ∀ other ∈ rows, other.eventId = row.eventId → other.upTo row) :
    Settled old (rows ++ [row]) (upsertEvent events row) := by
  by_cases known : row.eventId ∈ firstIds rows
  · refine settled_replaced settled apart known ?_
      (fun _ latest same => latest_onward latest same newest)
      (fun _ latest other => latest_other latest (Ne.symm other))
    rw [firstIds_concat, if_pos known]
  · rcases settled with ⟨added, rfl, same, latest⟩
    have unknown : ∀ entry ∈ old ++ added, entry.eventId ≠ row.eventId := by
      intro entry member
      rcases List.mem_append.mp member with before | new
      · exact apart entry before
      · intro named
        exact known (named ▸ same ▸ List.mem_map_of_mem new)
    have start : firstStart (rows ++ [row]) row.eventId = row.startUtcNs := by
      have none : firstStart rows row.eventId = 0 := by
        have absent : rows.find? (fun other => other.eventId = row.eventId &&
            other.startUtcNs ≠ 0) = none := by
          rw [List.find?_eq_none]
          intro other member
          have named : other.eventId ≠ row.eventId :=
            fun named => known (mem_firstIds.mpr ⟨other, member, named⟩)
          simp [named]
        rw [firstStart, absent]
      rw [firstStart_concat, if_pos none]
    refine ⟨added ++ [row], ?_, ?_, ?_⟩
    · rw [upsertEvent, if_neg (fun ⟨entry, member, named⟩ => unknown entry member named),
        List.append_assoc]
    · rw [List.map_append, same, firstIds_concat, if_neg known]
      rfl
    · intro entry member
      rcases List.mem_append.mp member with before | new
      · exact latest_other (latest entry before)
          (Ne.symm (unknown entry (List.mem_append_right _ before)))
      · rw [List.mem_singleton.mp new]
        refine ⟨row, lastEdge_concat newest, ?_⟩
        rw [start]
        rfl

end Settling

section Deliveries

variable (decoders : Decoders)

theorem boundRows_append (first second : List LifecycleRecord) :
    boundRows decoders (first ++ second) =
      boundRows decoders first ++ boundRows decoders second :=
  List.filterMap_append

theorem acceptAll_append (linked : LinkedStore) (first second : List LifecycleRecord) :
    linked.acceptAll decoders (first ++ second) =
      (linked.acceptAll decoders first).acceptAll decoders second :=
  List.foldl_append

theorem acceptAll_links (linked : LinkedStore) (records : List LifecycleRecord) :
    (linked.acceptAll decoders records).links = linked.links := by
  induction records generalizing linked with
  | nil => rfl
  | cons record records ih =>
      refine (ih (linked.accept decoders record)).trans ?_
      unfold LinkedStore.accept
      cases boundRow decoders record <;> rfl

theorem acceptAll_events (linked : LinkedStore) (records : List LifecycleRecord) :
    (linked.acceptAll decoders records).store.events =
      (boundRows decoders records).foldl upsertEvent linked.store.events := by
  induction records generalizing linked with
  | nil => rfl
  | cons record records ih =>
      refine (ih (linked.accept decoders record)).trans ?_
      unfold LinkedStore.accept boundRows
      cases bound : boundRow decoders record with
      | error failure =>
          rw [List.filterMap_cons_none (by rw [bound]; rfl)]
      | ok row =>
          rw [List.filterMap_cons_some (by rw [bound]; rfl)]
          rfl

variable {decoders} {stream delivery : List LifecycleRecord} {count : Nat} {start : LinkedStore}

theorem boundRows_take_subset {first last : Nat} (within : last ≤ count) {row : CatalogEntry}
    (member : row ∈ boundRows decoders ((stream.take last).drop first)) :
    row ∈ boundRows decoders (stream.take count) := by
  rcases List.mem_filterMap.mp member with ⟨record, inside, bound⟩
  exact List.mem_filterMap.mpr ⟨record,
    List.take_subset_take_left stream within (List.mem_of_mem_drop inside), bound⟩

theorem settled_delivery (inOrder : InOrder (boundRows decoders stream))
    (fresh : ∀ row ∈ boundRows decoders stream, ∀ entry ∈ start.store.events,
      entry.eventId ≠ row.eventId)
    (delivers : Delivers stream delivery count) :
    Settled start.store.events (boundRows decoders (stream.take count))
      (start.acceptAll decoders delivery).store.events := by
  have known : ∀ {count : Nat}, ∀ row ∈ boundRows decoders (stream.take count),
      row ∈ boundRows decoders stream := by
    intro count row member
    rcases List.mem_filterMap.mp member with ⟨record, inside, bound⟩
    exact List.mem_filterMap.mpr ⟨record, List.mem_of_mem_take inside, bound⟩
  induction delivers with
  | start => exact ⟨[], (List.append_nil _).symm, rfl, fun _ member => nomatch member⟩
  | @onward delivery count record before next ih =>
      have grown : stream.take (count + 1) = stream.take count ++ [record] := by
        rw [List.take_add_one, next]
        rfl
      rw [acceptAll_append, acceptAll_events, grown, boundRows_append]
      cases bound : boundRow decoders record with
      | error failure =>
          have none : boundRows decoders [record] = [] := by
            simp [boundRows, bound, Except.toOption]
          rw [none, List.append_nil]
          exact ih
      | ok row =>
          have one : boundRows decoders [record] = [row] := by
            simp [boundRows, bound, Except.toOption]
          have split : boundRows decoders stream = (boundRows decoders (stream.take count) ++
              [row]) ++ boundRows decoders (stream.drop (count + 1)) := by
            rw [← one, ← boundRows_append, ← grown, ← boundRows_append, List.take_append_drop]
          rw [one]
          apply settled_onward ih
          · apply fresh
            rw [split]
            simp
          · intro other member
            rw [InOrder, split, List.append_assoc, List.pairwise_append] at inOrder
            exact inOrder.2.2 other member row (by simp)
  | @again delivery count first last before delivered ih =>
      rw [acceptAll_append, acceptAll_events]
      exact settled_stretch _ ih (fun row member => boundRows_take_subset delivered member)
        (fun row member => fresh row (known row member))

theorem delivers_prefix (count : Nat) (within : count ≤ stream.length) :
    Delivers stream (stream.take count) count := by
  induction count with
  | zero => exact .start
  | succ count ih =>
      rw [List.take_add_one, List.getElem?_eq_getElem within]
      exact .onward (ih (by omega)) (List.getElem?_eq_getElem within)

theorem delivers_once : Delivers stream stream stream.length := by
  have whole := delivers_prefix stream.length (le_refl stream.length)
  rwa [List.take_length] at whole

theorem settled_whole (inOrder : InOrder (boundRows decoders stream))
    (fresh : ∀ row ∈ boundRows decoders stream, ∀ entry ∈ start.store.events,
      entry.eventId ≠ row.eventId)
    (delivers : Delivers stream delivery stream.length) :
    Settled start.store.events (boundRows decoders stream)
      (start.acceptAll decoders delivery).store.events := by
  have settled := settled_delivery inOrder fresh delivers
  rwa [List.take_length] at settled

end Deliveries

theorem map_eq_of_ids {left right : List CatalogEntry}
    (ids : left.map CatalogEntry.eventId = right.map CatalogEntry.eventId)
    (agree : ∀ entry ∈ left, ∀ other ∈ right, entry.eventId = other.eventId →
      entry.view = other.view) :
    left.map CatalogEntry.view = right.map CatalogEntry.view := by
  induction left generalizing right with
  | nil =>
      rw [List.map_nil, eq_comm, List.map_eq_nil_iff] at ids
      rw [ids]
  | cons entry left ih =>
      cases right with
      | nil => cases ids
      | cons other right =>
          rw [List.map_cons, List.map_cons, List.cons.injEq] at ids
          rw [List.map_cons, List.map_cons,
            agree entry List.mem_cons_self other List.mem_cons_self ids.1]
          congr 1
          exact ih ids.2 (fun entry inside other there =>
            agree entry (List.mem_cons_of_mem _ inside) other (List.mem_cons_of_mem _ there))

theorem latest_view {rows : List CatalogEntry} (unambiguous : Unambiguous rows)
    {entry other : CatalogEntry} (latest : Latest rows entry) (newest : Latest rows other)
    (same : entry.eventId = other.eventId) : entry.view = other.view := by
  rcases latest with ⟨row, edge, rfl⟩
  rcases newest with ⟨last, top, rfl⟩
  have named : row.eventId = last.eventId := same
  have body := unambiguous row last edge top named
  calc
    _ = { row.view with startUtcNs := firstStart rows row.eventId } := rfl
    _ = { last.view with startUtcNs := firstStart rows row.eventId } :=
        congrArg (fun view : CatalogView =>
          { view with startUtcNs := firstStart rows row.eventId }) body
    _ = _ := by rw [named]; rfl

theorem settled_views {old rows left right : List CatalogEntry} (unambiguous : Unambiguous rows)
    (first : Settled old rows left) (second : Settled old rows right) :
    left.map CatalogEntry.view = right.map CatalogEntry.view := by
  rcases first with ⟨added, rfl, ids, latest⟩
  rcases second with ⟨again, rfl, same, newest⟩
  rw [List.map_append, List.map_append, map_eq_of_ids (ids.trans same.symm)]
  intro entry inside other there
  exact latest_view unambiguous (latest entry inside) (newest other there)

theorem upsertEvent_shows {events : List CatalogEntry} {row : CatalogEntry}
    (late : ∀ entry ∈ events, entry.eventId = row.eventId → entry.upTo row)
    {entry : CatalogEntry} (member : entry ∈ upsertEvent events row)
    (own : entry.eventId = row.eventId) : ∃ start, entry = row.startingAt start := by
  unfold upsertEvent at member
  split at member
  · rcases List.mem_map.mp member with ⟨before, inside, rfl⟩
    split at own
    · next same =>
        rw [if_pos same, replaceEvent_upTo (late before inside same)]
        exact ⟨_, rfl⟩
    · next other => exact absurd own other
  · next unknown =>
      rcases List.mem_append.mp member with before | new
      · exact absurd ⟨entry, before, own⟩ unknown
      · exact ⟨row.startUtcNs, List.mem_singleton.mp new⟩

theorem upsertEvent_known (events : List CatalogEntry) (row : CatalogEntry) :
    ∃ entry ∈ upsertEvent events row, entry.eventId = row.eventId := by
  unfold upsertEvent
  split
  · next known =>
      rcases known with ⟨entry, member, own⟩
      refine ⟨replaceEvent entry row, List.mem_map.mpr ⟨entry, member, if_pos own⟩, ?_⟩
      rw [replaceEvent_eventId own, own]
  · exact ⟨row, List.mem_append_right _ List.mem_cons_self, rfl⟩

theorem settled_upTo {old rows events : List CatalogEntry} {row : CatalogEntry}
    (settled : Settled old rows events) (edge : LastEdge rows row)
    (apart : ∀ entry ∈ old, entry.eventId ≠ row.eventId) :
    ∀ entry ∈ events, entry.eventId = row.eventId → entry.upTo row := by
  rcases settled with ⟨added, rfl, -, latest⟩
  intro entry member own
  rcases List.mem_append.mp member with before | new
  · exact absurd own (apart entry before)
  · rcases latest entry new with ⟨last, ⟨inside, -⟩, rfl⟩
    exact edge.2 last inside own

section Absorbing

variable {decoders : Decoders} {start : LinkedStore} {stream : List LifecycleRecord}

theorem delivers_repeat {record : LifecycleRecord} (member : record ∈ stream) :
    Delivers stream (stream ++ [record]) stream.length := by
  rcases List.getElem_of_mem member with ⟨index, within, rfl⟩
  have stretch : (stream.take (index + 1)).drop index = [stream[index]] := by
    rw [List.take_add_one, List.getElem?_eq_getElem within, List.drop_append_of_le_length
      (by rw [List.length_take]; omega), List.drop_eq_nil_of_le (by simp)]
    rfl
  have once : Delivers stream stream stream.length := delivers_once
  have again := Delivers.again index (index + 1) once within
  rwa [stretch] at again

theorem acceptAll_repeat {record : LifecycleRecord} {row : CatalogEntry}
    (bound : boundRow decoders record = .ok row) :
    (start.acceptAll decoders (stream ++ [record])).store.events =
      upsertEvent (start.acceptAll decoders stream).store.events row := by
  rw [acceptAll_append, acceptAll_events]
  simp [boundRows, bound, Except.toOption]

theorem mem_boundRows {row : CatalogEntry} (member : row ∈ boundRows decoders stream) :
    ∃ record ∈ stream, boundRow decoders record = .ok row := by
  rcases List.mem_filterMap.mp member with ⟨record, inside, bound⟩
  exact ⟨record, inside, Loops.toOption_ok bound⟩

theorem shown_edge (inOrder : InOrder (boundRows decoders stream))
    (fresh : ∀ row ∈ boundRows decoders stream, ∀ entry ∈ start.store.events,
      entry.eventId ≠ row.eventId)
    (absorbed : ∀ record ∈ stream,
      (start.acceptAll decoders (stream ++ [record])).store.events.map CatalogEntry.view =
        (start.acceptAll decoders stream).store.events.map CatalogEntry.view)
    {row : CatalogEntry} (edge : LastEdge (boundRows decoders stream) row) :
    (∃ view ∈ (start.acceptAll decoders stream).store.events.map CatalogEntry.view,
        view.eventId = row.eventId) ∧
      ∀ view ∈ (start.acceptAll decoders stream).store.events.map CatalogEntry.view,
        view.eventId = row.eventId →
          { view with startUtcNs := 0 } = { row.view with startUtcNs := 0 } := by
  rcases mem_boundRows edge.1 with ⟨record, inside, bound⟩
  rw [← absorbed record inside, acceptAll_repeat bound]
  constructor
  · rcases upsertEvent_known (start.acceptAll decoders stream).store.events row with
      ⟨entry, member, own⟩
    exact ⟨entry.view, List.mem_map_of_mem member, own⟩
  · intro view member own
    rcases List.mem_map.mp member with ⟨entry, there, rfl⟩
    have late := settled_upTo (settled_whole inOrder fresh delivers_once) edge (fresh row edge.1)
    rcases upsertEvent_shows late there own with ⟨begun, rfl⟩
    rfl

/-- The catalogue absorbs every redelivery of a stream exactly if the last edge of each of its
events is unambiguous. -/
theorem catalogue_absorbs_redelivery (decoders : Decoders) (start : LinkedStore)
    (stream : List LifecycleRecord) (inOrder : InOrder (boundRows decoders stream))
    (fresh : ∀ row ∈ boundRows decoders stream, ∀ entry ∈ start.store.events,
      entry.eventId ≠ row.eventId) :
    (∀ delivery, Delivers stream delivery stream.length →
      (start.acceptAll decoders delivery).store.events.map CatalogEntry.view =
          (start.acceptAll decoders stream).store.events.map CatalogEntry.view ∧
        (start.acceptAll decoders delivery).links = start.links) ↔
      Unambiguous (boundRows decoders stream) := by
  have once := settled_whole inOrder fresh delivers_once
  constructor
  · intro absorbed row other edge top same
    have repeated : ∀ record ∈ stream,
        (start.acceptAll decoders (stream ++ [record])).store.events.map CatalogEntry.view =
          (start.acceptAll decoders stream).store.events.map CatalogEntry.view :=
      fun record inside => (absorbed _ (delivers_repeat inside)).1
    rcases (shown_edge inOrder fresh repeated edge).1 with ⟨view, member, own⟩
    calc
      _ = { view with startUtcNs := 0 } :=
          ((shown_edge inOrder fresh repeated edge).2 view member own).symm
      _ = _ := (shown_edge inOrder fresh repeated top).2 view member (own.trans same)
  · intro unambiguous delivery delivers
    exact ⟨settled_views unambiguous (settled_whole inOrder fresh delivers) once,
      acceptAll_links decoders start delivery⟩

end Absorbing

def deliveredSag (sequence lifecycle duration : UInt32) (streamCursor : Nat) : LifecycleRecord :=
  ⟨(sagRecord sequence lifecycle duration).payload, streamCursor,
    (sagRecord sequence lifecycle duration).timing⟩

def emptyCatalogue : LinkedStore := ⟨{ policies := fun _ => Spool.volatilePolicy }, []⟩

def endedSag : List LifecycleRecord :=
  [deliveredSag 1 0 0 1, deliveredSag 2 1 100 2, deliveredSag 3 2 200 3]

def updatedSag : List LifecycleRecord :=
  [deliveredSag 1 0 0 1, deliveredSag 2 1 100 2, deliveredSag 3 1 100 3]

theorem ended_sag_absorbed :
    (emptyCatalogue.acceptAll lifecycleDecoders
        (endedSag ++ [deliveredSag 2 1 100 2])).store.events.map CatalogEntry.view =
      (emptyCatalogue.acceptAll lifecycleDecoders endedSag).store.events.map
        CatalogEntry.view := by
  have checked : ∀ row ∈ boundRows lifecycleDecoders endedSag,
      ∀ other ∈ boundRows lifecycleDecoders endedSag,
        LastEdge (boundRows lifecycleDecoders endedSag) row →
          LastEdge (boundRows lifecycleDecoders endedSag) other → row = other := by
    decide +kernel
  have unambiguous : Unambiguous (boundRows lifecycleDecoders endedSag) := by
    intro row other edge top _
    rw [checked row edge.1 other top.1 edge top]
  exact ((catalogue_absorbs_redelivery lifecycleDecoders emptyCatalogue endedSag
    (by decide +kernel) (fun _ _ _ member => nomatch member)).mpr unambiguous _
      (delivers_repeat (by simp [endedSag]))).1

theorem repeated_update_regresses :
    InOrder (boundRows lifecycleDecoders updatedSag) ∧
      Delivers updatedSag (updatedSag ++ [deliveredSag 2 1 100 2]) updatedSag.length ∧
        (emptyCatalogue.acceptAll lifecycleDecoders
            (updatedSag ++ [deliveredSag 2 1 100 2])).store.events.map CatalogEntry.view ≠
          (emptyCatalogue.acceptAll lifecycleDecoders updatedSag).store.events.map
            CatalogEntry.view := by
  exact ⟨by decide +kernel, delivers_repeat (by simp [updatedSag]), by decide +kernel⟩

end Msap1.Historian
