import Mathlib.Data.Finset.Card
import Msap1.Machine

/-! The client slots of `ModbusTcpServer`: the thread that calls `start` and `stop`, the accept
loop of every run and the sessions, in any order. Every access to the set of sockets holds its
lock, so `reserve`, `release` and the clearing in `stop` are steps; the flag and the generation
change in steps of their own. -/

namespace Msap1.Modbus.TcpServer

/-- Where the thread is that calls `start` and `stop`. -/
inductive Control where
  | idle
  | starting
  | opening
  | stopping
  | closing
  deriving DecidableEq, Repr

inductive AcceptLoop where
  | absent
  | checking
  | accepting
  | accepted (socket : Nat)
  | refused (socket : Nat)
  | spawning (socket : Nat)
  | returned
  deriving DecidableEq, Repr

structure ModbusTcpServer where
  running : Bool := false
  generation : Nat := 0
  sockets : Finset Nat := ∅
  control : Control := .idle
  loops : Nat → AcceptLoop := fun _ => .absent
  sessions : Nat → Option Nat := fun _ => none
  closed : Finset Nat := ∅
  created : Nat := 0

inductive Step where
  | start
  | number
  | listen (succeeds : Bool)
  | stop
  | advance
  | clear
  | check (run : Nat)
  | accept (run : Nat) (succeeds : Bool)
  | reserve (run : Nat)
  | refuse (run : Nat)
  | spawn (run : Nat) (succeeds : Bool)
  | finish (socket : Nat)
  deriving DecidableEq, Repr

namespace ModbusTcpServer

variable (server : ModbusTcpServer)

def current (run : Nat) : Bool := server.running && server.generation == run

def loopAt (run : Nat) (loop : AcceptLoop) : ModbusTcpServer :=
  { server with loops := Function.update server.loops run loop }

def release (socket : Nat) : ModbusTcpServer :=
  { server with sockets := server.sockets.erase socket, closed := insert socket server.closed }

/-- The steps of `start` and `stop`. A start that fails after its number is taken resets the flag
and nothing else. -/
def start : ModbusTcpServer :=
  if server.control = .idle ∧ server.running = false then
    { server with running := true, control := .starting }
  else server

def number : ModbusTcpServer :=
  if server.control = .starting then
    { server with generation := server.generation + 1, control := .opening }
  else server

def listen (succeeds : Bool) : ModbusTcpServer :=
  if server.control = .opening then
    if succeeds then { server.loopAt server.generation .checking with control := .idle }
    else { server with running := false, control := .idle }
  else server

def stop : ModbusTcpServer :=
  if server.control = .idle ∧ server.running = true then
    { server with running := false, control := .stopping }
  else server

def advance : ModbusTcpServer :=
  if server.control = .stopping then
    { server with generation := server.generation + 1, control := .closing }
  else server

def clear : ModbusTcpServer :=
  if server.control = .closing then
    { server with
      sockets := ∅
      closed := server.closed ∪ server.sockets
      control := .idle }
  else server

def check (run : Nat) : ModbusTcpServer :=
  if server.loops run = .checking then
    server.loopAt run (if server.current run then .accepting else .returned)
  else server

/-- A connection gets a socket of its own; an accept that fails is reported, and tried again. -/
def accept (run : Nat) (succeeds : Bool) : ModbusTcpServer :=
  if server.loops run = .accepting then
    if succeeds then
      { server.loopAt run (.accepted server.created) with created := server.created + 1 }
    else server.loopAt run .checking
  else server

def reserve (maximumClients run : Nat) : ModbusTcpServer :=
  match server.loops run with
  | .accepted socket =>
      if server.current run = false ∨ maximumClients ≤ server.sockets.card then
        server.loopAt run (.refused socket)
      else { server.loopAt run (.spawning socket) with sockets := insert socket server.sockets }
  | _ => server

def refuse (run : Nat) : ModbusTcpServer :=
  match server.loops run with
  | .refused socket =>
      { server.loopAt run (if server.current run then .checking else .returned) with
        closed := insert socket server.closed }
  | _ => server

def spawn (run : Nat) (succeeds : Bool) : ModbusTcpServer :=
  match server.loops run with
  | .spawning socket =>
      if succeeds then
        { server.loopAt run .checking with
          sessions := Function.update server.sessions socket (some run) }
      else (server.loopAt run .checking).release socket
  | _ => server

/-- A session ends, whatever ends it, and its guard releases the socket. -/
def finish (socket : Nat) : ModbusTcpServer :=
  match server.sessions socket with
  | some _ =>
      { server.release socket with sessions := Function.update server.sessions socket none }
  | none => server

end ModbusTcpServer

def threads (maximumClients : Nat) : Machine ModbusTcpServer Step Unit where
  step server step := (match step with
    | .start => server.start
    | .number => server.number
    | .listen succeeds => server.listen succeeds
    | .stop => server.stop
    | .advance => server.advance
    | .clear => server.clear
    | .check run => server.check run
    | .accept run succeeds => server.accept run succeeds
    | .reserve run => server.reserve maximumClients run
    | .refuse run => server.refuse run
    | .spawn run succeeds => server.spawn run succeeds
    | .finish socket => server.finish socket, ())

end Msap1.Modbus.TcpServer
