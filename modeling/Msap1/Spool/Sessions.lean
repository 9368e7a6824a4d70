import Msap1.Machine
import Msap1.Spool.Publish

/-! Whole lives of a spool path: sessions with either backend that publish, acknowledge,
prune, switch and crash, one event after another. -/

namespace Msap1.Spool

inductive Event where
  | start (policy : DatabaseStoragePolicy) (clockMilliseconds : Nat) (written : Bool)
  | publish (records : List MeterStreamRecord) (committed : Except Failure Unit)
  | register (name : String)
  | unregister (name : String)
  | read (name : String) (limit : Nat)
  | acknowledge (name : String) (cursor : Nat)
  | prune (nowNanoseconds : Int) (written : Bool) (progress : PruneProgress)
  | applyPolicy (policy : DatabaseStoragePolicy) (clockMilliseconds : Nat) (written : Bool)
      (copied : Except Failure Unit)
  | crash

inductive Answer where
  | cursors (assigned : List Nat)
  | rows (records : List StoredRecord)
  | done
  | failed (failure : Failure)
  | ignored

/-- A call on the open spool; one that threw changed nothing. -/
def onSpool (device : Device)
    (call : DurableMeterSpool → Except Failure (Answer × DurableMeterSpool)) : Device × Answer :=
  match device.spool with
  | none => (device, .ignored)
  | some spool => match call spool with
    | .error failure => (device, .failed failure)
    | .ok (answer, after) => ({ device with spool := some after }, answer)

def machine : Machine Device Event Answer where
  step := fun device event => match event with
    | .start policy clockMilliseconds written => match device.spool with
      | some _ => (device, .ignored)
      | none => match device.start policy clockMilliseconds written with
        | .error failure => (device, .failed failure)
        | .ok opened => (opened, .done)
    | .publish records committed => onSpool device (fun spool => do
        let (cursors, after) ← spool.publishRecords records committed
        return (.cursors cursors, after))
    | .register name => onSpool device (fun spool => do
        let after ← spool.registerConsumer name
        return (.done, after))
    | .unregister name => onSpool device (fun spool => do
        let after ← spool.unregisterConsumer name
        return (.done, after))
    | .read name limit => onSpool device (fun spool => do
        let rows ← spool.readAfter name limit
        return (.rows rows, spool))
    | .acknowledge name cursor => onSpool device (fun spool => do
        let after ← spool.acknowledge name cursor
        return (.done, after))
    | .prune nowNanoseconds written progress => match device.spool with
      | none => (device, .ignored)
      | some spool =>
          let pruned := prune device.lease spool nowNanoseconds written progress
          ({ device with lease := pruned.1, spool := some pruned.2 }, .done)
    | .applyPolicy policy clockMilliseconds written copied => match device.spool with
      | none => (device, .ignored)
      | some spool =>
          let applied := device.applyPolicy spool policy clockMilliseconds written copied
          (applied.1, match applied.2 with
            | .ok () => .done
            | .error failure => .failed failure)
    | .crash => (device.crash, .done)

/-- Everything one event can do to the device. -/
inductive Step (device : Device) : Event → Device → Answer → Prop where
  | ignored (event : Event) : Step device event device .ignored
  | refused (event : Event) (failure : Failure) : Step device event device (.failed failure)
  | started {policy clockMilliseconds written spool} (closed : device.spool = none)
      (opened : openSpool device.lease (device.target policy.backend) policy clockMilliseconds =
        .ok spool) :
      Step device (.start policy clockMilliseconds written)
        { device with
          lease := writeCursorLease device.lease spool.cursorLease written
          spool := some spool } .done
  | published {records committed spool cursors after} (current : device.spool = some spool)
      (returned : spool.publishRecords records committed = .ok (cursors, after)) :
      Step device (.publish records committed) { device with spool := some after }
        (.cursors cursors)
  | registered {name spool after} (current : device.spool = some spool)
      (returned : spool.registerConsumer name = .ok after) :
      Step device (.register name) { device with spool := some after } .done
  | unregistered {name spool after} (current : device.spool = some spool)
      (returned : spool.unregisterConsumer name = .ok after) :
      Step device (.unregister name) { device with spool := some after } .done
  | wasRead {name limit spool rows} (current : device.spool = some spool)
      (returned : spool.readAfter name limit = .ok rows) :
      Step device (.read name limit) device (.rows rows)
  | acknowledged {name cursor spool after} (current : device.spool = some spool)
      (returned : spool.acknowledge name cursor = .ok after) :
      Step device (.acknowledge name cursor) { device with spool := some after } .done
  | pruned {nowNanoseconds written progress spool} (current : device.spool = some spool) :
      Step device (.prune nowNanoseconds written progress)
        { device with
          lease := (prune device.lease spool nowNanoseconds written progress).1
          spool := some (prune device.lease spool nowNanoseconds written progress).2 } .done
  | policyKept {policy clockMilliseconds written copied spool}
      (current : device.spool = some spool) (same : policy.backend = spool.policy.backend) :
      Step device (.applyPolicy policy clockMilliseconds written copied)
        { device with spool := some { spool with policy } } .done
  | switchFailed {policy clockMilliseconds written failure spool replacement}
      (current : device.spool = some spool) (different : policy.backend ≠ spool.policy.backend)
      (opened : openSpool device.lease (device.target policy.backend) policy clockMilliseconds =
        .ok replacement) :
      Step device (.applyPolicy policy clockMilliseconds written (.error failure))
        { device with
          lease := writeCursorLease device.lease replacement.cursorLease written
          disk := match policy.backend with
            | .memory => device.disk
            | .persistent => replacement.store } (.failed failure)
  | switched {policy clockMilliseconds written spool replacement}
      (current : device.spool = some spool) (different : policy.backend ≠ spool.policy.backend)
      (opened : openSpool device.lease (device.target policy.backend) policy clockMilliseconds =
        .ok replacement) :
      Step device (.applyPolicy policy clockMilliseconds written (.ok ()))
        { lease := writeCursorLease device.lease replacement.cursorLease written
          disk := device.left
          spool := some (migrate spool replacement) } .done
  | crashed : Step device .crash device.crash .done

theorem onSpool_cases (device : Device)
    (call : DurableMeterSpool → Except Failure (Answer × DurableMeterSpool)) :
    (∃ answer, onSpool device call = (device, answer) ∧
        (answer = .ignored ∨ ∃ failure, answer = .failed failure)) ∨
      ∃ spool answer after, device.spool = some spool ∧ call spool = .ok (answer, after) ∧
        onSpool device call = ({ device with spool := some after }, answer) := by
  unfold onSpool
  cases device.spool with
  | none => exact .inl ⟨.ignored, rfl, .inl rfl⟩
  | some spool =>
      cases outcome : call spool with
      | error failure => exact .inl ⟨.failed failure, by simp only [outcome], .inr ⟨failure, rfl⟩⟩
      | ok result =>
          exact .inr ⟨spool, result.1, result.2, rfl, outcome, by simp only [outcome]⟩

theorem unchanged_step {device : Device} {event : Event} {answer : Answer}
    (kind : answer = .ignored ∨ ∃ failure, answer = .failed failure) :
    Step device event device answer := by
  rcases kind with rfl | ⟨failure, rfl⟩
  · exact .ignored event
  · exact .refused event failure

theorem step_cases (device : Device) (event : Event) :
    Step device event (machine.next device event) (machine.answer device event) := by
  unfold Machine.next Machine.answer
  cases event with
  | start policy clockMilliseconds written =>
      simp only [machine]
      cases closed : device.spool with
      | some spool => exact .ignored _
      | none =>
          simp only [Device.start]
          cases opened : openSpool device.lease (device.target policy.backend) policy
              clockMilliseconds with
          | error failure => exact .refused _ failure
          | ok spool => exact .started closed opened
  | publish records committed =>
      simp only [machine]
      rcases onSpool_cases device (fun spool => do
        let (cursors, after) ← spool.publishRecords records committed
        return (.cursors cursors, after)) with ⟨answer, same, kind⟩ |
          ⟨spool, answer, after, current, returned, same⟩
      · rw [same]
        exact unchanged_step kind
      · rw [same]
        rcases Loops.bind_ok returned with ⟨⟨cursors, settled⟩, published, rest⟩
        cases rest
        exact .published current published
  | register name =>
      simp only [machine]
      rcases onSpool_cases device (fun spool => do
        let after ← spool.registerConsumer name
        return (.done, after)) with ⟨answer, same, kind⟩ |
          ⟨spool, answer, after, current, returned, same⟩
      · rw [same]
        exact unchanged_step kind
      · rw [same]
        rcases Loops.bind_ok returned with ⟨settled, registered, rest⟩
        cases rest
        exact .registered current registered
  | unregister name =>
      simp only [machine]
      rcases onSpool_cases device (fun spool => do
        let after ← spool.unregisterConsumer name
        return (.done, after)) with ⟨answer, same, kind⟩ |
          ⟨spool, answer, after, current, returned, same⟩
      · rw [same]
        exact unchanged_step kind
      · rw [same]
        rcases Loops.bind_ok returned with ⟨settled, unregistered, rest⟩
        cases rest
        exact .unregistered current unregistered
  | read name limit =>
      simp only [machine]
      rcases onSpool_cases device (fun spool => do
        let rows ← spool.readAfter name limit
        return (.rows rows, spool)) with ⟨answer, same, kind⟩ |
          ⟨spool, answer, after, current, returned, same⟩
      · rw [same]
        exact unchanged_step kind
      · rw [same]
        rcases Loops.bind_ok returned with ⟨rows, read, rest⟩
        cases rest
        have kept : { device with spool := some spool } = device := by
          rw [← current]
        rw [kept]
        exact .wasRead current read
  | acknowledge name cursor =>
      simp only [machine]
      rcases onSpool_cases device (fun spool => do
        let after ← spool.acknowledge name cursor
        return (.done, after)) with ⟨answer, same, kind⟩ |
          ⟨spool, answer, after, current, returned, same⟩
      · rw [same]
        exact unchanged_step kind
      · rw [same]
        rcases Loops.bind_ok returned with ⟨settled, acknowledged, rest⟩
        cases rest
        exact .acknowledged current acknowledged
  | prune nowNanoseconds written progress =>
      simp only [machine]
      cases current : device.spool with
      | none => exact .ignored _
      | some spool => exact .pruned current
  | applyPolicy policy clockMilliseconds written copied =>
      simp only [machine]
      cases current : device.spool with
      | none => exact .ignored _
      | some spool =>
          simp only [Device.applyPolicy]
          cases validateDatabasePolicy policy with
          | error failure => exact .refused _ failure
          | ok valid =>
              simp only
              by_cases same : policy.backend = spool.policy.backend
              · rw [if_pos same]
                exact .policyKept current same
              · rw [if_neg same]
                cases opened : openSpool device.lease (device.target policy.backend) policy
                    clockMilliseconds with
                | error failure => exact .refused _ failure
                | ok replacement =>
                    cases copied with
                    | error failure => exact .switchFailed current same opened
                    | ok done => exact .switched current same opened
  | crash => exact .crashed

end Msap1.Spool
