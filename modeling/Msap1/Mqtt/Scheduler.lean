import Mathlib.Data.List.Sort
import Msap1.Machine

/-! `MeterPublicationScheduler`: the io thread that runs the timer handlers, and the thread that
holds the service's runtime mutex and calls `stop`, `configure`, `start` and `flush_pending`.
A step is one stretch of code between two points where the other thread can run. -/

namespace Msap1.Mqtt

structure MqttPublicationSettings where
  id : String
  enabled : Bool := true
  topic : String
  period : String := "basic"
  intervalMs : UInt32 := 1000
  qos : UInt8 := 1
  retain : Bool := false
  attributes : List String
  deriving DecidableEq, Repr

/-- A request carries the rank of its snapshot among all that were taken. -/
structure PublishRequest where
  publicationId : String
  topic : String
  payload : String
  qos : UInt8
  retain : Bool
  snapshot : Nat
  deriving DecidableEq, Repr

/-- `pending_`, the map from publication ids to the newest request. -/
abbrev Pending := List PublishRequest

namespace Pending

def find (pending : Pending) (id : String) : Option PublishRequest :=
  List.find? (fun request => request.publicationId == id) pending

def erase (pending : Pending) (id : String) : Pending :=
  List.filter (fun request => request.publicationId != id) pending

def assign (pending : Pending) (request : PublishRequest) : Pending :=
  request :: pending.erase request.publicationId

def inOrder (pending : Pending) : List PublishRequest :=
  List.insertionSort (fun first second => first.publicationId ≤ second.publicationId) pending

/-- Both clean-ups: the entry goes if it still has the payload that was sent. -/
def settle (pending : Pending) (sent : PublishRequest) : Pending :=
  match pending.find sent.publicationId with
  | some current =>
      if current.payload = sent.payload then pending.erase sent.publicationId else pending
  | none => pending

theorem find_id {pending : Pending} {id : String} {request : PublishRequest}
    (found : pending.find id = some request) : request.publicationId = id := by
  have holds := List.find?_some found
  exact eq_of_beq holds

end Pending

/-- Where the io thread stands in the handler of a timer. -/
inductive Handler where
  | idle
  | checked (publication : Nat)
  | encoded (publication : Nat) (request : PublishRequest)
  | stored (publication : Nat) (request : PublishRequest)
  | sent (publication : Nat) (request : PublishRequest)
  | ending (publication : Nat)
  deriving DecidableEq, Repr

def Handler.publication : Handler → Option Nat
  | idle => none
  | checked publication => some publication
  | encoded publication _ => some publication
  | stored publication _ => some publication
  | sent publication _ => some publication
  | ending publication => some publication

/-- Where the other thread stands. `cancelling` is the loop of `stop`, on its own or at the
head of a `configure`. -/
inductive Control where
  | idle
  | cancelling (rest : List Nat) (configure : Option (List MqttPublicationSettings))
  | scheduling (rest : List Nat)
  | flushing (rest : List PublishRequest)
  | cleaning (request : PublishRequest) (rest : List PublishRequest)
  deriving DecidableEq, Repr

/-- A publication object is its number in `objects`, which keeps every object ever made: a
handler shares the ownership of its object with `publications_`. `queued` are the handlers of
expired timers that the io thread has not run yet, which a cancel no longer reaches.
`configured` remembers the argument of the last `configure` that went through. -/
structure MeterPublicationScheduler where
  objects : List MqttPublicationSettings := []
  publications : List Nat := []
  running : Bool := false
  pending : Pending := []
  armed : Nat → Bool := fun _ => false
  queued : List Nat := []
  handler : Handler := .idle
  control : Control := .idle
  snapshots : Nat := 0
  configured : List MqttPublicationSettings := []
  handed : List PublishRequest := []

inductive Step where
  | stop
  | configure (settings : List MqttPublicationSettings)
  | start
  | flush
  | advance (succeeds : Bool)
  | expire (publication : Nat)
  | dispatch (publication : Nat)
  | snapshot (payload : Option String)
  | proceed (succeeds : Bool)
  deriving DecidableEq, Repr

namespace MeterPublicationScheduler

variable (state : MeterPublicationScheduler)

/-- `schedule`: `expires_after` drops a wait that is still outstanding. -/
def schedule (publication : Nat) : MeterPublicationScheduler :=
  { state with armed := Function.update state.armed publication true }

def cancel (publication : Nat) : MeterPublicationScheduler :=
  { state with armed := Function.update state.armed publication false }

/-- The end of `configure`: the enabled publications become new objects. -/
def install (settings : List MqttPublicationSettings) : MeterPublicationScheduler :=
  { state with
    objects := state.objects ++ settings.filter (·.enabled)
    publications := (List.range (settings.filter (·.enabled)).length).map
      (state.objects.length + ·)
    pending := []
    configured := settings }

def callStop (configure : Option (List MqttPublicationSettings)) : MeterPublicationScheduler :=
  if state.control = .idle then
    { state with running := false, control := .cancelling state.publications configure }
  else state

def callStart : MeterPublicationScheduler :=
  if state.control = .idle ∧ state.running = false then
    { state with running := true, control := .scheduling state.publications }
  else state

def callFlush : MeterPublicationScheduler :=
  if state.control = .idle then
    { state with control := .flushing state.pending.inOrder }
  else state

/-- The next stretch of the call under way. `succeeds` is the outcome of `client_.publish` in a
flush, and whether every attribute is available in a `configure`. -/
def advance (succeeds : Bool) : MeterPublicationScheduler :=
  match state.control with
  | .idle => state
  | .cancelling (publication :: rest) configure =>
      { state.cancel publication with control := .cancelling rest configure }
  | .cancelling [] none => { state with control := .idle }
  | .cancelling [] (some settings) =>
      if succeeds then { state.install settings with control := .idle }
      else { state with control := .idle }
  | .scheduling (publication :: rest) =>
      { state.schedule publication with control := .scheduling rest }
  | .scheduling [] => { state with control := .idle }
  | .flushing (request :: rest) =>
      if succeeds then
        { state with control := .cleaning request rest, handed := state.handed ++ [request] }
      else { state with control := .flushing rest }
  | .flushing [] => { state with control := .idle }
  | .cleaning request rest =>
      { state with pending := state.pending.settle request, control := .flushing rest }

def expire (publication : Nat) : MeterPublicationScheduler :=
  if state.armed publication then
    { state with
      armed := Function.update state.armed publication false
      queued := state.queued ++ [publication] }
  else state

/-- The io thread takes an expired handler and runs it up to `publish_once`. -/
def dispatch (publication : Nat) : MeterPublicationScheduler :=
  if state.handler = .idle ∧ publication ∈ state.queued then
    { state with
      queued := state.queued.erase publication
      handler := if state.running then .checked publication else .idle }
  else state

def request (settings : MqttPublicationSettings) (payload : String) : PublishRequest where
  publicationId := settings.id
  topic := settings.topic
  payload := payload
  qos := settings.qos
  retain := settings.retain
  snapshot := state.snapshots

/-- `provider_.latest` and the encoder. Without a snapshot `publish_once` ends here. -/
def takeSnapshot (payload : Option String) : MeterPublicationScheduler :=
  match state.handler, payload with
  | .checked publication, some payload =>
      match state.objects[publication]? with
      | some settings =>
          { state with
            handler := .encoded publication (state.request settings payload)
            snapshots := state.snapshots + 1 }
      | none => state
  | .checked publication, none => { state with handler := .ending publication }
  | _, _ => state

/-- The next stretch of the handler. `succeeds` is the outcome of `client_.publish`. -/
def proceed (succeeds : Bool) : MeterPublicationScheduler :=
  match state.handler with
  | .encoded publication request =>
      { state with
        pending := state.pending.assign request
        handler := .stored publication request }
  | .stored publication request =>
      if succeeds then
        { state with handler := .sent publication request, handed := state.handed ++ [request] }
      else { state with handler := .ending publication }
  | .sent publication request =>
      { state with
        pending := state.pending.settle request
        handler := .ending publication }
  | .ending publication => { state.schedule publication with handler := .idle }
  | _ => state

def next : Step → MeterPublicationScheduler
  | .stop => state.callStop none
  | .configure settings => state.callStop (some settings)
  | .start => state.callStart
  | .flush => state.callFlush
  | .advance succeeds => state.advance succeeds
  | .expire publication => state.expire publication
  | .dispatch publication => state.dispatch publication
  | .snapshot payload => state.takeSnapshot payload
  | .proceed succeeds => state.proceed succeeds

end MeterPublicationScheduler

/-- The two threads in every interleaving: a step that its thread cannot take changes
nothing. -/
def threads : Machine MeterPublicationScheduler Step Unit where
  step := fun state step => (state.next step, ())

end Msap1.Mqtt
