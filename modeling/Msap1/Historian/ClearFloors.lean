import Msap1.Historian.HarmonicStore

/-! Cleared history stays cleared as long as no later deletion lowers a floor. -/

namespace Msap1.Historian

open Meter
open Spool (DatabaseStoragePolicy)
open MeterHistoryStore (Operation)

def clearedBy (history : MeterHistoryStore) : Operation → List (DatabaseDataset × Nat)
  | .clearDatasets datasets through clearing =>
      match history.store.clearDatasets datasets through, clearing with
      | .ok _, .done => datasets.map (fun dataset => (dataset, through))
      | .ok _, .vacuumFailed _ => datasets.map (fun dataset => (dataset, through))
      | _, _ => []
  | .recreateDatabase through (.ok ()) => historianDatasets.map (fun dataset => (dataset, through))
  | _ => []

def clearing : Machine (MeterHistoryStore × List (DatabaseDataset × Nat)) Operation
    (Option HarmonicFamily) :=
  historyMachine.traced (fun history cleared operation _ => cleared ++ clearedBy history operation)

/-- No deletion goes behind the floor that a dataset already has. -/
def Raises (state : MeterHistoryStore × List (DatabaseDataset × Nat)) (operation : Operation) :
    Prop :=
  ∀ entry ∈ clearedBy state.1 operation, ∀ floor ∈ state.1.store.clearFloors entry.1,
    floor ≤ entry.2

instance (state : MeterHistoryStore × List (DatabaseDataset × Nat)) (operation : Operation) :
    Decidable (Raises state operation) := by
  unfold Raises
  infer_instance

def appendsTo : Operation → Option (DatabaseDataset × Nat)
  | .append update cursor _ _ => (datasetFor update.period).toOption.map (fun dataset =>
      (dataset, cursor))
  | .appendHarmonicRecord record cursor _ _ => (decodeHarmonicRecord record).toOption.bind
      (fun chunk => (harmonicDatasetFor chunk.provenance.period).toOption.map (fun dataset =>
        (dataset, cursor)))
  | _ => none

/-- Every dataset that was cleared has a floor at least as high, and the database keeps the
floors of the process. -/
structure Floored (state : MeterHistoryStore × List (DatabaseDataset × Nat)) : Prop where
  floors : ∀ entry ∈ state.2, ∃ floor, state.1.store.clearFloors entry.1 = some floor ∧
    entry.2 ≤ floor
  stored : state.1.storedFloors = state.1.store.clearFloors
  spool : state.1.store.clearFloors .rawRecordSpool = none

section Steps

variable {history : MeterHistoryStore} {cleared : List (DatabaseDataset × Nat)}

theorem append_floors {update : MeterUpdate} {cursor : Nat} {measuredAt : Int}
    {stored : Except Failure Unit} {store after : HistoryStore}
    (appended : store.append update cursor measuredAt stored = .ok after) :
    after.clearFloors = store.clearFloors := by
  unfold HistoryStore.append at appended
  rcases Loops.bind_ok appended with ⟨dataset, -, rest⟩
  split at rest
  · cases rest
    rfl
  · rcases Loops.bind_ok rest with ⟨-, -, rest⟩
    cases rest
    split <;> rfl

theorem withHarmonics_store (dataset : DatabaseDataset) (tables : HarmonicTables) :
    (history.withHarmonics dataset tables).store = history.store := by
  unfold MeterHistoryStore.withHarmonics
  split <;> rfl

theorem withHarmonics_storedFloors (dataset : DatabaseDataset) (tables : HarmonicTables) :
    (history.withHarmonics dataset tables).storedFloors = history.storedFloors := by
  unfold MeterHistoryStore.withHarmonics
  split <;> rfl

theorem appendHarmonicRecord_floors {record : MeterRecord} {cursor : Nat} {measuredAt : Int}
    {stored : Except Failure Unit} {after : MeterHistoryStore} {family : Option HarmonicFamily}
    (appended : history.appendHarmonicRecord record cursor measuredAt stored =
      .ok (after, family)) :
    after.store = history.store ∧ after.storedFloors = history.storedFloors := by
  unfold MeterHistoryStore.appendHarmonicRecord at appended
  split at appended
  · cases appended
  · split at appended
    · cases appended
    · split at appended
      · cases appended
      · split at appended
        · cases appended
          exact ⟨rfl, rfl⟩
        · split at appended
          · cases appended
          · split at appended
            · cases appended
            · cases appended
              exact ⟨withHarmonics_store _ _, withHarmonics_storedFloors _ _⟩

theorem clearDatasets_floors {datasets : List DatabaseDataset} {through : Nat}
    {after : HistoryStore} {store : HistoryStore}
    (done : store.clearDatasets datasets through = .ok after) :
    .rawRecordSpool ∉ datasets ∧ after.clearFloors = fun dataset =>
      if dataset ∈ datasets then some through else store.clearFloors dataset := by
  unfold HistoryStore.clearDatasets at done
  split at done
  · cases done
  · next spool =>
      split at done
      · cases done
      · split at done
        · cases done
        · cases done
          exact ⟨spool, rfl⟩

theorem floored_same {after : MeterHistoryStore} (floored : Floored (history, cleared))
    (floors : after.store.clearFloors = history.store.clearFloors)
    (stored : after.storedFloors = history.storedFloors) : Floored (after, cleared ++ []) := by
  rw [List.append_nil]
  refine ⟨?_, stored.trans (floored.stored.trans floors.symm), ?_⟩
  · intro entry member
    dsimp only
    rw [floors]
    exact floored.floors entry member
  · exact (congrFun floors .rawRecordSpool).trans floored.spool

theorem floored_raised {after : MeterHistoryStore} {through : Nat}
    {datasets : List DatabaseDataset} (floored : Floored (history, cleared))
    (raised : ∀ dataset ∈ datasets, ∀ floor ∈ history.store.clearFloors dataset,
      floor ≤ through)
    (inside : ∀ dataset ∈ datasets, after.store.clearFloors dataset = some through)
    (outside : ∀ dataset ∉ datasets,
      after.store.clearFloors dataset = history.store.clearFloors dataset)
    (spool : .rawRecordSpool ∉ datasets)
    (stored : after.storedFloors = after.store.clearFloors) :
    Floored (after, cleared ++ datasets.map (fun dataset => (dataset, through))) := by
  refine ⟨?_, stored, (outside .rawRecordSpool spool).trans floored.spool⟩
  intro entry member
  rcases List.mem_append.mp member with old | new
  · rcases floored.floors entry old with ⟨floor, held, above⟩
    by_cases again : entry.1 ∈ datasets
    · exact ⟨through, inside entry.1 again, above.trans (raised entry.1 again floor held)⟩
    · exact ⟨floor, (outside entry.1 again).trans held, above⟩
  · rcases List.mem_map.mp new with ⟨dataset, own, rfl⟩
    exact ⟨through, inside dataset own, le_refl through⟩

theorem clearDatasets_floored {datasets : List DatabaseDataset} {through : Nat}
    {outcome : MeterHistoryStore.Clearing}
    (raises : Raises (history, cleared) (.clearDatasets datasets through outcome))
    (floored : Floored (history, cleared)) :
    Floored ((history.clearDatasets datasets through outcome).1,
      cleared ++ clearedBy history (.clearDatasets datasets through outcome)) := by
  cases done : history.store.clearDatasets datasets through with
  | error failure =>
      have none : clearedBy history (.clearDatasets datasets through outcome) = [] := by
        simp only [clearedBy, done]
      rw [none]
      simp only [MeterHistoryStore.clearDatasets, done]
      exact floored_same floored rfl rfl
  | ok after =>
      have floors := clearDatasets_floors done
      have raised : (∀ entry ∈ datasets.map (fun dataset => (dataset, through)),
          ∀ floor ∈ history.store.clearFloors entry.1, floor ≤ entry.2) →
          Floored (⟨after, history.memoryHarmonics.without datasets,
            history.persistentHarmonics.without datasets, fun dataset =>
              if dataset ∈ datasets then some through else history.storedFloors dataset⟩,
            cleared ++ datasets.map (fun dataset => (dataset, through))) := by
        intro above
        refine floored_raised floored ?_ ?_ ?_ floors.1 ?_
        · intro dataset member
          exact above (dataset, through) (List.mem_map_of_mem member)
        · intro dataset member
          exact (congrFun floors.2 dataset).trans (if_pos member)
        · intro dataset absent
          exact (congrFun floors.2 dataset).trans (if_neg absent)
        · dsimp only
          rw [floors.2, floored.stored]
      cases outcome with
      | done =>
          simp only [Raises, clearedBy, done] at raises
          simp only [MeterHistoryStore.clearDatasets, clearedBy, done]
          exact raised raises
      | memoryFailed failure =>
          simp only [MeterHistoryStore.clearDatasets, clearedBy, done]
          exact floored_same floored rfl rfl
      | persistentFailed failure =>
          simp only [MeterHistoryStore.clearDatasets, clearedBy, done]
          exact floored_same floored rfl rfl
      | vacuumFailed failure =>
          simp only [Raises, clearedBy, done] at raises
          simp only [MeterHistoryStore.clearDatasets, clearedBy, done]
          exact raised raises

theorem recreateDatabase_floored {through : Nat} {renamed : Except Failure Unit}
    (raises : Raises (history, cleared) (.recreateDatabase through renamed))
    (floored : Floored (history, cleared)) :
    Floored ((history.recreateDatabase through renamed).1,
      cleared ++ clearedBy history (.recreateDatabase through renamed)) := by
  cases renamed with
  | error failure => exact floored_same floored rfl rfl
  | ok done =>
      refine floored_raised floored ?_ ?_ ?_ (by decide) rfl
      · intro dataset member
        exact raises (dataset, through) (List.mem_map_of_mem member)
      · intro dataset member
        exact if_pos member
      · intro dataset absent
        have spool : dataset = .rawRecordSpool := by
          cases dataset <;> first | rfl | exact absurd (by decide) absent
        rw [spool, floored.spool]
        rfl

theorem next_floored (operation : Operation) (raises : Raises (history, cleared) operation)
    (floored : Floored (history, cleared)) :
    Floored (clearing.next (history, cleared) operation) := by
  rw [clearing, Machine.traced_next]
  cases operation with
  | append update cursor measuredAt stored =>
      cases outcome : history.append update cursor measuredAt stored with
      | error failure =>
          have same : historyMachine.next history (.append update cursor measuredAt stored) =
              history := by
            simp only [historyMachine, Machine.next, MeterHistoryStore.after, outcome]
          rw [same]
          exact floored_same floored rfl rfl
      | ok after =>
          have same : historyMachine.next history (.append update cursor measuredAt stored) =
              after := by
            simp only [historyMachine, Machine.next, MeterHistoryStore.after, outcome]
          rw [same]
          rcases Loops.bind_ok outcome with ⟨store, appended, made⟩
          cases made
          exact floored_same floored (append_floors appended) rfl
  | appendHarmonicRecord record cursor measuredAt stored =>
      cases outcome : history.appendHarmonicRecord record cursor measuredAt stored with
      | error failure =>
          have same : historyMachine.next history
              (.appendHarmonicRecord record cursor measuredAt stored) = history := by
            simp only [historyMachine, Machine.next, MeterHistoryStore.after, outcome]
          rw [same]
          exact floored_same floored rfl rfl
      | ok result =>
          rcases result with ⟨after, family⟩
          have same : historyMachine.next history
              (.appendHarmonicRecord record cursor measuredAt stored) = after := by
            simp only [historyMachine, Machine.next, MeterHistoryStore.after, outcome]
          have frame := appendHarmonicRecord_floors outcome
          rw [same]
          exact floored_same floored (congrArg HistoryStore.clearFloors frame.1) frame.2
  | clearDatasets datasets through outcome => exact clearDatasets_floored raises floored
  | recreateDatabase through renamed => exact recreateDatabase_floored raises floored
  | applyPolicies policies => exact floored_same floored rfl rfl
  | restart policies =>
      rw [show clearedBy history (.restart policies) = [] from rfl, List.append_nil]
      refine ⟨?_, rfl, ?_⟩
      · intro entry member
        rcases floored.floors entry member with ⟨floor, held, above⟩
        exact ⟨floor, (congrFun floored.stored entry.1).trans held, above⟩
      · exact (congrFun floored.stored _).trans floored.spool

theorem append_below_floor {operation : Operation} {dataset : DatabaseDataset}
    {cursor floor : Nat} (target : appendsTo operation = some (dataset, cursor))
    (held : history.store.clearFloors dataset = some floor) (below : cursor ≤ floor) :
    historyMachine.next history operation = history := by
  have floored : ∃ floor ∈ history.store.clearFloors dataset, cursor ≤ floor :=
    ⟨floor, held, below⟩
  cases operation with
  | append update cursor measuredAt stored =>
      rcases Option.map_eq_some_iff.mp target with ⟨named, found, same⟩
      cases same
      have routed := Loops.toOption_ok found
      simp only [historyMachine, Machine.next, MeterHistoryStore.after, MeterHistoryStore.append,
        HistoryStore.append, routed]
      simp only [bind, Except.bind, if_pos floored]
      rfl
  | appendHarmonicRecord record cursor measuredAt stored =>
      rcases Option.bind_eq_some_iff.mp target with ⟨chunk, read, rest⟩
      rcases Option.map_eq_some_iff.mp rest with ⟨named, found, same⟩
      cases same
      have routed := Loops.toOption_ok found
      have aggregate : chunk.provenance.period ≠ .basic := by
        intro basic
        rw [basic] at routed
        cases routed
      simp only [historyMachine, Machine.next, MeterHistoryStore.after,
        MeterHistoryStore.appendHarmonicRecord, Loops.toOption_ok read, routed, if_neg aggregate,
        if_pos floored]
  | _ => cases target

end Steps

/-- In every run whose deletions lower no floor, an append at or below a cursor through which its
dataset was cleared inserts neither a block nor a family. -/
theorem cleared_history_stays (policies : DatabaseDataset → DatabaseStoragePolicy)
    (operations : List Operation) (operation : Operation)
    (raises : clearing.Along Raises ({ store := { policies } }, []) operations)
    (dataset : DatabaseDataset) (through cursor : Nat)
    (cleared : (dataset, through) ∈
      (clearing.run ({ store := { policies } }, []) operations).2)
    (target : appendsTo operation = some (dataset, cursor)) (below : cursor ≤ through) :
    (∀ block ∈ (clearing.run ({ store := { policies } }, [])
        (operations ++ [operation])).1.store.blocks,
      block ∈ (clearing.run ({ store := { policies } }, []) operations).1.store.blocks) ∧
    ∀ family ∈ (clearing.run ({ store := { policies } }, [])
        (operations ++ [operation])).1.families,
      family ∈ (clearing.run ({ store := { policies } }, []) operations).1.families := by
  have start : Floored ({ store := { policies } }, []) :=
    ⟨(fun _ none => nomatch none), rfl, rfl⟩
  have floored := clearing.along_invariant Raises Floored
    (fun state operation raises floored => next_floored operation raises floored)
    _ start operations raises
  rw [Machine.run_concat]
  generalize clearing.run ({ store := { policies } }, []) operations = state at cleared floored ⊢
  rcases state with ⟨history, entries⟩
  rcases floored.floors (dataset, through) cleared with ⟨floor, held, above⟩
  have same := append_below_floor target held (below.trans above)
  rw [clearing, Machine.traced_next, same]
  exact ⟨fun _ member => member, fun _ member => member⟩

def volatileHistory : MeterHistoryStore := { store := { policies := fun _ => ⟨.memory, {}⟩ } }

def lateBlock : Operation :=
  .append { period := .basic, kind := .fundamental, sequence := 1 } 7 1000 (.ok ())

theorem cleared_block_stays :
    (clearing.run (volatileHistory, [])
        [.clearDatasets [.basic] 10 .done, .clearDatasets [.basic] 12 .done,
          lateBlock]).1.store.blocks ⊆
      (clearing.run (volatileHistory, [])
        [.clearDatasets [.basic] 10 .done, .clearDatasets [.basic] 12 .done]).1.store.blocks := by
  intro block member
  exact (cleared_history_stays (fun _ => ⟨.memory, {}⟩)
    [.clearDatasets [.basic] 10 .done, .clearDatasets [.basic] 12 .done] lateBlock
    (by decide +kernel) .basic 10 7 (by decide +kernel) rfl (by decide)).1 block member

/-- The second deletion finds an empty stream and lowers the floor to zero. -/
theorem lowered_floor_resurrects :
    (DatabaseDataset.basic, 10) ∈ (clearing.run (volatileHistory, [])
        [.clearDatasets [.basic] 10 .done, .clearDatasets [.basic] 0 .done]).2 ∧
      appendsTo lateBlock = some (.basic, 7) ∧ 7 ≤ 10 ∧
      ∃ block ∈ (clearing.run (volatileHistory, [])
          [.clearDatasets [.basic] 10 .done, .clearDatasets [.basic] 0 .done,
            lateBlock]).1.store.blocks,
        block ∉ (clearing.run (volatileHistory, [])
          [.clearDatasets [.basic] 10 .done, .clearDatasets [.basic] 0 .done]).1.store.blocks := by
  decide +kernel

end Msap1.Historian
