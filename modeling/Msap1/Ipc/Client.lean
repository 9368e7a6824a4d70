import Msap1.Machine

/-! `PersistentBlockingClient` over one `RequestClient`: the calling threads, the strand that
owns the connection and the pending map, the read loops and the peer. A step is one stretch of
code that nothing else can interrupt. -/

namespace Msap1.Ipc

/-- Where a call of `PersistentBlockingClient::request` stands. -/
inductive Stage where
  | absent
  | arriving
  | locked
  | connecting
  | ready
  | sending
  | waiting
  | failed
  | returned
  | thrown
  deriving DecidableEq, Repr

namespace Stage

def early : Stage → Bool
  | absent | arriving | locked | connecting | ready => true
  | _ => false

def pends : Stage → Bool
  | sending | waiting => true
  | _ => false

def ended : Stage → Bool
  | returned | thrown => true
  | _ => false

end Stage

/-- A call with its `PendingRequest`. A response is known by the connection it came on and the
correlation id it carries. -/
structure Call where
  stage : Stage := .absent
  connection : Option Nat := none
  correlation : Nat := 0
  response : Option (Nat × Nat) := none
  failure : Bool := false
  deriving DecidableEq, Repr

/-- Connections are numbered in the order in which they are established. `heard` are the
requests the peer can have received, `closedBy` the call whose failure closed a connection, and
`harmed` the calls failed by the failure of another one. -/
structure RequestClient where
  calls : Nat → Call := fun _ => {}
  connection : Option Nat := none
  connections : Nat := 0
  sockets : List Nat := []
  readers : List Nat := []
  isOpen : Bool := false
  mutex : Option Nat := none
  nextCorrelationId : Nat := 1
  pending : List (Nat × Nat) := []
  posted : List (Option Nat) := []
  heard : List (Nat × Nat) := []
  closedBy : Nat → Option Nat := fun _ => none
  completed : List Nat := []
  harmed : List (Nat × Nat) := []

inductive Step where
  | call (caller : Nat)
  | check (caller : Nat)
  | lockedCheck (caller : Nat)
  | connected (caller : Nat) (succeeds : Bool)
  | issue (caller : Nat)
  | sent (caller : Nat) (succeeds : Bool)
  | wake (caller : Nat) (timedOut : Bool)
  | shutDown (caller : Nat)
  | close
  | runClose
  | respond (connection correlation : Nat)
  | readerFails (connection : Nat)
  | readerEnds (connection : Nat)
  | socketFails (connection : Nat)
  deriving DecidableEq, Repr

def idLimit : Nat := 2 ^ 64

def allocate (next : Nat) (taken : List Nat) : Option Nat :=
  ((List.range (taken.length + 2)).map fun offset => (next + offset) % idLimit).find?
    fun id => decide (id ≠ 0 ∧ id ∉ taken)

namespace RequestClient

variable (state : RequestClient)

def setCall (caller : Nat) (call : Call) : RequestClient :=
  { state with calls := Function.update state.calls caller call }

def moveTo (caller : Nat) (stage : Stage) : RequestClient :=
  state.setCall caller { state.calls caller with stage }

def usable : Option Nat :=
  state.connection.filter fun connection => decide (connection ∈ state.sockets)

def forget (correlation : Nat) : RequestClient :=
  { state with pending := state.pending.filter fun entry => entry.1 != correlation }

def waiters : List Nat := state.pending.map Prod.snd

/-- `fail_pending`, with the call that the failure goes back to. -/
def failPending (origin : Option Nat) : RequestClient :=
  { state with
    calls := fun caller =>
      if caller ∈ state.waiters then { state.calls caller with failure := true }
      else state.calls caller
    harmed := state.harmed ++
      origin.elim [] fun cause => state.waiters.map fun caller => (caller, cause) }

def startCall (caller : Nat) : RequestClient :=
  if (state.calls caller).stage = .absent then state.moveTo caller .arriving else state

def check (caller : Nat) : RequestClient :=
  if (state.calls caller).stage = .arriving then
    if state.isOpen then state.moveTo caller .ready
    else if state.mutex = none then { state.moveTo caller .locked with mutex := some caller }
    else state
  else state

/-- The second look, under the mutex, and the start of `connect`, which returns at once when
the connection is still usable. -/
def lockedCheck (caller : Nat) : RequestClient :=
  if (state.calls caller).stage = .locked then
    if state.isOpen || state.usable.isSome then
      { state.moveTo caller .ready with mutex := none }
    else state.moveTo caller .connecting
  else state

def connected (caller : Nat) (succeeds : Bool) : RequestClient :=
  if (state.calls caller).stage = .connecting then
    if succeeds then
      { state.moveTo caller .ready with
        connection := some state.connections
        connections := state.connections + 1
        sockets := state.connections :: state.sockets
        readers := state.connections :: state.readers
        isOpen := true
        mutex := none }
    else { state.moveTo caller .failed with mutex := none }
  else state

/-- `RequestClient::request` up to its `send`, for a frame with correlation id zero. -/
def issue (caller : Nat) : RequestClient :=
  if (state.calls caller).stage = .ready then
    match state.usable with
    | none => state.moveTo caller .failed
    | some connection =>
        match allocate state.nextCorrelationId (state.pending.map Prod.fst) with
        | none => state
        | some id =>
            { state.setCall caller
                { stage := .sending, connection := some connection, correlation := id } with
              nextCorrelationId := (id + 1) % idLimit
              pending := (id, caller) :: state.pending
              heard := (connection, id) :: state.heard }
  else state

def finish (caller : Nat) : RequestClient :=
  let call := state.calls caller
  if call.failure then (state.forget call.correlation).moveTo caller .failed
  else if call.response.isSome then
    { (state.forget call.correlation).moveTo caller .returned with
      completed := caller :: state.completed }
  else (state.forget call.correlation).moveTo caller .failed

/-- The end of `send`. A failure on a connection that another call's failure closed goes back
to that call. -/
def sent (caller : Nat) (succeeds : Bool) : RequestClient :=
  let call := state.calls caller
  if call.stage = .sending then
    if succeeds then
      if call.failure || call.response.isSome then state.finish caller
      else state.moveTo caller .waiting
    else
      { (state.forget call.correlation).moveTo caller .failed with
        harmed := state.harmed ++
          (call.connection.bind state.closedBy).elim [] fun cause => [(caller, cause)] }
  else state

def wake (caller : Nat) (timedOut : Bool) : RequestClient :=
  let call := state.calls caller
  if call.stage = .waiting then
    if timedOut then (state.forget call.correlation).moveTo caller .failed
    else if call.failure || call.response.isSome then state.finish caller
    else state
  else state

/-- The catch of `PersistentBlockingClient::request`: `close`, and the exception goes on. -/
def shutDown (caller : Nat) : RequestClient :=
  if (state.calls caller).stage = .failed then
    { state.moveTo caller .thrown with
      isOpen := false
      posted := state.posted ++ [some caller]
      completed := caller :: state.completed }
  else state

def close : RequestClient :=
  { state with isOpen := false, posted := state.posted ++ [none] }

def runClose : RequestClient :=
  match state.posted with
  | [] => state
  | origin :: rest =>
      match state.connection with
      | none => { state.failPending origin with posted := rest }
      | some connection =>
          { state.failPending origin with
            posted := rest
            sockets := state.sockets.erase connection
            closedBy := Function.update state.closedBy connection origin }

/-- The read loop of a connection takes a response. The peer answers a request it has heard on
that connection, or sends an id that is not pending. A frame that was read before its socket
closes counts as taken before that. -/
def respond (connection correlation : Nat) : RequestClient :=
  if connection ∈ state.readers ∧ connection ∈ state.sockets ∧
      ((connection, correlation) ∈ state.heard ∨ correlation ∉ state.pending.map Prod.fst) then
    match state.pending.find? fun entry => entry.1 == correlation with
    | none => state
    | some entry =>
        state.setCall entry.2
          { state.calls entry.2 with response := some (connection, correlation) }
  else state

def dropReader (connection : Nat) : RequestClient :=
  if state.connection = some connection then
    { state with
      sockets := state.sockets.erase connection
      readers := state.readers.erase connection
      connection := none
      isOpen := false }
  else
    { state with
      sockets := state.sockets.erase connection
      readers := state.readers.erase connection }

def readerFails (connection : Nat) : RequestClient :=
  if connection ∈ state.readers then
    if state.connection = some connection then
      (state.failPending (state.closedBy connection)).dropReader connection
    else state.dropReader connection
  else state

def readerEnds (connection : Nat) : RequestClient :=
  if connection ∈ state.readers ∧ connection ∉ state.sockets then state.dropReader connection
  else state

def socketFails (connection : Nat) : RequestClient :=
  { state with sockets := state.sockets.erase connection }

def next : Step → RequestClient
  | .call caller => state.startCall caller
  | .check caller => state.check caller
  | .lockedCheck caller => state.lockedCheck caller
  | .connected caller succeeds => state.connected caller succeeds
  | .issue caller => state.issue caller
  | .sent caller succeeds => state.sent caller succeeds
  | .wake caller timedOut => state.wake caller timedOut
  | .shutDown caller => state.shutDown caller
  | .close => state.close
  | .runClose => state.runClose
  | .respond connection correlation => state.respond connection correlation
  | .readerFails connection => state.readerFails connection
  | .readerEnds connection => state.readerEnds connection
  | .socketFails connection => state.socketFails connection

end RequestClient

def client : Machine RequestClient Step Unit where
  step := fun state step => (state.next step, ())

end Msap1.Ipc
