import Msap1.Modbus.TcpServer

/-! Which sockets have a slot, over every run of the server. -/

namespace Msap1.Modbus.TcpServer

def AcceptLoop.socket : AcceptLoop → Option Nat
  | accepted socket => some socket
  | refused socket => some socket
  | spawning socket => some socket
  | _ => none

namespace ModbusTcpServer

variable (server : ModbusTcpServer)

/-- A session of a run has the socket, or the accept loop of the run is about to start one. -/
def Holds (run socket : Nat) : Prop :=
  server.loops run = .spawning socket ∨ server.sessions socket = some run

/-- A run that has an accept loop, or a session left over. -/
def Begun (run : Nat) : Prop :=
  server.loops run ≠ .absent ∨ ∃ socket, server.sessions socket = some run

/-- `start` has returned and no `stop` was called since. -/
def Up : Prop := server.control = .idle ∧ server.running = true

/-- `stop` has returned and no `start` was called since, or none has succeeded. -/
def Down : Prop := server.control = .idle ∧ server.running = false

@[simp] theorem loopAt_self (run : Nat) (loop : AcceptLoop) :
    (server.loopAt run loop).loops run = loop := by simp [loopAt]

theorem loopAt_other {run other : Nat} (loop : AcceptLoop) (different : other ≠ run) :
    (server.loopAt run loop).loops other = server.loops other := by simp [loopAt, different]

end ModbusTcpServer

/-- Every socket is in one place. -/
structure Seated (server : ModbusTcpServer) : Prop where
  single : ∀ one two socket, (server.loops one).socket = some socket →
    (server.loops two).socket = some socket → one = two
  apart : ∀ run socket, (server.loops run).socket = some socket → server.sessions socket = none
  looped : ∀ run socket, (server.loops run).socket = some socket → socket < server.created
  served : ∀ run socket, server.sessions socket = some run → socket < server.created
  settled : ∀ socket < server.created, socket ∈ server.sockets ∨ socket ∈ server.closed ∨
    ∃ run, server.loops run = .accepted socket ∨ server.loops run = .refused socket

/-- The set of sockets, and the runs they belong to. -/
structure Slots (maximumClients : Nat) (server : ModbusTcpServer) : Prop where
  bounded : server.sockets.card ≤ maximumClients
  flag : server.control = .starting ∨ server.control = .opening → server.running = true
  begun : ∀ run, server.Begun run → run ≤ server.generation ∧
    (run = server.generation → server.control = .stopping ∨ server.Up)
  held : ∀ socket ∈ server.sockets, ∃ run, server.Holds run socket ∧
    (run = server.generation ∨ server.control = .closing ∧ run + 1 = server.generation)
  taken : ∀ socket, server.Holds server.generation socket → socket ∈ server.sockets

variable {maximumClients : Nat} {server after : ModbusTcpServer}

section Places

theorem Seated.moved (seated : Seated server) {sockets closed : Finset Nat}
    (left : ∀ socket ∈ server.sockets, socket ∈ sockets ∨ socket ∈ closed)
    (grown : server.closed ⊆ closed) : Seated { server with sockets, closed } := by
  refine { seated with settled := ?_ }
  intro socket made
  rcases seated.settled socket made with slot | shut | waiting
  · rcases left socket slot with stays | leaves
    · exact .inl stays
    · exact .inr (.inl leaves)
  · exact .inr (.inl (grown shut))
  · exact .inr (.inr waiting)

theorem Seated.released (seated : Seated server) (socket : Nat) :
    Seated (server.release socket) := by
  refine seated.moved ?_ (Finset.subset_insert _ _)
  intro other slot
  by_cases same : other = socket
  · exact .inr (by rw [same]; exact Finset.mem_insert_self _ _)
  · exact .inl (Finset.mem_erase.mpr ⟨same, slot⟩)

theorem socket_loopAt {run other socket : Nat} {loop : AcceptLoop}
    (same : loop.socket = none ∨ loop.socket = (server.loops run).socket)
    (has : ((server.loopAt run loop).loops other).socket = some socket) :
    (server.loops other).socket = some socket := by
  by_cases here : other = run
  · subst here
    rw [ModbusTcpServer.loopAt_self] at has
    rcases same with none | same
    · rw [none] at has
      cases has
    · rw [← same, has]
  · rw [ModbusTcpServer.loopAt_other _ _ here] at has
    exact has

theorem Seated.looped_on (seated : Seated server) {run : Nat} {loop : AcceptLoop}
    (same : loop.socket = none ∨ loop.socket = (server.loops run).socket)
    (kept : ∀ socket, server.loops run = .accepted socket ∨ server.loops run = .refused socket →
      socket ∈ server.sockets ∨ socket ∈ server.closed ∨ loop = .refused socket) :
    Seated (server.loopAt run loop) := by
  constructor
  case single =>
    exact fun one two socket first second =>
      seated.single one two socket (socket_loopAt same first) (socket_loopAt same second)
  case apart => exact fun other socket has => seated.apart other socket (socket_loopAt same has)
  case looped => exact fun other socket has => seated.looped other socket (socket_loopAt same has)
  case served => exact seated.served
  case settled =>
    intro socket made
    rcases seated.settled socket made with slot | shut | ⟨other, waiting⟩
    · exact .inl slot
    · exact .inr (.inl shut)
    · by_cases here : other = run
      · subst here
        rcases kept socket waiting with slot | shut | refused
        · exact .inl slot
        · exact .inr (.inl shut)
        · exact .inr (.inr ⟨other, .inr (by rw [ModbusTcpServer.loopAt_self, refused])⟩)
      · refine .inr (.inr ⟨other, ?_⟩)
        rw [ModbusTcpServer.loopAt_other _ _ here]
        exact waiting

theorem Seated.accepted (seated : Seated server) {run : Nat}
    (accepting : server.loops run = .accepting) :
    Seated { server.loopAt run (.accepted server.created) with created := server.created + 1 } := by
  have places : ∀ {other socket}, ((server.loopAt run (.accepted server.created)).loops
      other).socket = some socket → other = run ∧ socket = server.created ∨
        other ≠ run ∧ (server.loops other).socket = some socket := by
    intro other socket has
    by_cases here : other = run
    · rw [here, ModbusTcpServer.loopAt_self] at has
      exact .inl ⟨here, (Option.some.inj has).symm⟩
    · rw [ModbusTcpServer.loopAt_other _ _ here] at has
      exact .inr ⟨here, has⟩
  constructor
  case single =>
    intro one two socket first second
    rcases places first with ⟨here, rfl⟩ | ⟨there, first⟩
    · rcases places second with ⟨also, -⟩ | ⟨-, second⟩
      · rw [here, also]
      · exact absurd (seated.looped two _ second) (lt_irrefl _)
    · rcases places second with ⟨-, rfl⟩ | ⟨-, second⟩
      · exact absurd (seated.looped one _ first) (lt_irrefl _)
      · exact seated.single one two socket first second
  case apart =>
    intro other socket has
    rcases places has with ⟨-, rfl⟩ | ⟨-, has⟩
    · cases served : server.sessions server.created with
      | none => exact served
      | some run => exact absurd (seated.served run _ served) (lt_irrefl _)
    · exact seated.apart other socket has
  case looped =>
    intro other socket has
    rcases places has with ⟨-, rfl⟩ | ⟨-, has⟩
    · exact Nat.lt_succ_self _
    · exact Nat.lt_succ_of_lt (seated.looped other socket has)
  case served =>
    exact fun other socket session => Nat.lt_succ_of_lt (seated.served other socket session)
  case settled =>
    intro socket made
    change socket < server.created + 1 at made
    by_cases fresh : socket = server.created
    · refine .inr (.inr ⟨run, .inl ?_⟩)
      change (server.loopAt _ _).loops run = _
      rw [ModbusTcpServer.loopAt_self, fresh]
    · rcases seated.settled socket (by omega) with slot | shut | ⟨other, waiting⟩
      · exact .inl slot
      · exact .inr (.inl shut)
      · refine .inr (.inr ⟨other, ?_⟩)
        change (server.loopAt _ _).loops other = _ ∨ (server.loopAt _ _).loops other = _
        rw [ModbusTcpServer.loopAt_other]
        · exact waiting
        · rintro rfl
          rw [accepting] at waiting
          rcases waiting with accepted | refused
          · cases accepted
          · cases refused

end Places

section Threads

theorem Seated.controlled (seated : Seated server) (loops : after.loops = server.loops)
    (sessions : after.sessions = server.sessions) (created : after.created = server.created)
    (sockets : after.sockets = server.sockets) (closed : after.closed = server.closed) :
    Seated after := by
  constructor
  · rw [loops]
    exact seated.single
  · rw [loops, sessions]
    exact seated.apart
  · rw [loops, created]
    exact seated.looped
  · rw [sessions, created]
    exact seated.served
  · rw [loops, created, sockets, closed]
    exact seated.settled

theorem Slots.past (slots : Slots maximumClients server) (going : server.control ≠ .stopping)
    (down : ¬server.Up) {run : Nat} (begun : server.Begun run) : run < server.generation := by
  rcases slots.begun run begun with ⟨below, last⟩
  rcases Nat.lt_or_eq_of_le below with earlier | same
  · exact earlier
  · rcases last same with stopping | up
    · exact absurd stopping going
    · exact absurd up down

theorem begun_of_holds {run socket : Nat} (holds : server.Holds run socket) : server.Begun run := by
  rcases holds with spawning | session
  · exact .inl (by rw [spawning]; exact AcceptLoop.noConfusion)
  · exact .inr ⟨socket, session⟩

theorem Slots.empty (slots : Slots maximumClients server) (going : server.control ≠ .stopping)
    (down : ¬server.Up) (cleared : server.control ≠ .closing) : server.sockets = ∅ := by
  rw [Finset.eq_empty_iff_forall_notMem]
  intro socket member
  rcases slots.held socket member with ⟨run, holds, same | ⟨closing, -⟩⟩
  · have earlier := slots.past going down (begun_of_holds holds)
    omega
  · exact cleared closing

theorem Slots.controlled (slots : Slots maximumClients server) (loops : after.loops = server.loops)
    (sessions : after.sessions = server.sessions) (sockets : after.sockets = server.sockets)
    (flag : after.control = .starting ∨ after.control = .opening → after.running = true)
    (begun : ∀ run, server.Begun run → run ≤ after.generation ∧
      (run = after.generation → after.control = .stopping ∨ after.Up))
    (held : server.sockets = ∅ ∨ ∀ run, run = server.generation → run = after.generation ∨
      after.control = .closing ∧ run + 1 = after.generation)
    (steady : server.control ≠ .closing)
    (taken : ∀ socket, server.Holds after.generation socket → socket ∈ server.sockets) :
    Slots maximumClients after := by
  constructor
  case bounded =>
    rw [sockets]
    exact slots.bounded
  case flag => exact flag
  case begun =>
    intro run started
    unfold ModbusTcpServer.Begun at started
    rw [loops, sessions] at started
    exact begun run started
  case held =>
    intro socket member
    rw [sockets] at member
    rcases slots.held socket member with ⟨run, holds, same | ⟨closing, -⟩⟩
    · refine ⟨run, by unfold ModbusTcpServer.Holds; rw [loops, sessions]; exact holds, ?_⟩
      rcases held with none | place
      · rw [none] at member
        exact absurd member (Finset.notMem_empty socket)
      · exact place run same
    · exact absurd closing steady
  case taken =>
    intro socket holds
    unfold ModbusTcpServer.Holds at holds
    rw [loops, sessions] at holds
    rw [sockets]
    exact taken socket holds

theorem not_up_of_control (busy : server.control ≠ .idle) : ¬server.Up := fun up => busy up.1

theorem start_orderly (seated : Seated server) (slots : Slots maximumClients server) :
    Seated server.start ∧ Slots maximumClients server.start := by
  unfold ModbusTcpServer.start
  split
  · next idle =>
      have going : server.control ≠ .stopping := by rw [idle.1]; decide
      have cleared : server.control ≠ .closing := by rw [idle.1]; decide
      have down : ¬server.Up := fun up => Bool.noConfusion (idle.2.symm.trans up.2)
      refine ⟨seated.controlled rfl rfl rfl rfl rfl, ?_⟩
      refine slots.controlled rfl rfl rfl (fun _ => rfl) ?_
        (.inl (slots.empty going down cleared)) cleared slots.taken
      intro run begun
      have earlier := slots.past going down begun
      exact ⟨le_of_lt earlier, fun same => absurd same (Nat.ne_of_lt earlier)⟩
  · exact ⟨seated, slots⟩

theorem number_orderly (seated : Seated server) (slots : Slots maximumClients server) :
    Seated server.number ∧ Slots maximumClients server.number := by
  unfold ModbusTcpServer.number
  split
  · next starting =>
      have going : server.control ≠ .stopping := by rw [starting]; decide
      have cleared : server.control ≠ .closing := by rw [starting]; decide
      have down : ¬server.Up := not_up_of_control (by rw [starting]; decide)
      refine ⟨seated.controlled rfl rfl rfl rfl rfl, ?_⟩
      refine slots.controlled rfl rfl rfl (fun _ => slots.flag (.inl starting)) ?_
        (.inl (slots.empty going down cleared)) cleared ?_
      · intro run begun
        have earlier := slots.past going down begun
        exact ⟨Nat.le_succ_of_le (le_of_lt earlier), fun same => by
          change run = server.generation + 1 at same
          omega⟩
      · intro socket holds
        have earlier := slots.past going down (begun_of_holds holds)
        exact absurd earlier (Nat.not_lt.mpr (Nat.le_succ _))
  · exact ⟨seated, slots⟩

theorem stop_orderly (seated : Seated server) (slots : Slots maximumClients server) :
    Seated server.stop ∧ Slots maximumClients server.stop := by
  unfold ModbusTcpServer.stop
  split
  · next up =>
      refine ⟨seated.controlled rfl rfl rfl rfl rfl, ?_⟩
      refine slots.controlled rfl rfl rfl ?_ ?_ (.inr fun run same => .inl same)
        (by rw [up.1]; decide) slots.taken
      · rintro (starting | opening)
        · cases starting
        · cases opening
      · exact fun run begun => ⟨(slots.begun run begun).1, fun _ => .inl rfl⟩
  · exact ⟨seated, slots⟩

theorem advance_orderly (seated : Seated server) (slots : Slots maximumClients server) :
    Seated server.advance ∧ Slots maximumClients server.advance := by
  unfold ModbusTcpServer.advance
  split
  · next stopping =>
      refine ⟨seated.controlled rfl rfl rfl rfl rfl, ?_⟩
      refine slots.controlled rfl rfl rfl ?_ ?_ (.inr fun run same => .inr ⟨rfl, by rw [same]⟩)
        (by rw [stopping]; decide) ?_
      · rintro (starting | opening)
        · cases starting
        · cases opening
      · intro run begun
        have below := (slots.begun run begun).1
        exact ⟨Nat.le_succ_of_le below, fun same => by
          change run = server.generation + 1 at same
          omega⟩
      · intro socket holds
        have below := (slots.begun _ (begun_of_holds holds)).1
        exact absurd below (Nat.not_succ_le_self _)
  · exact ⟨seated, slots⟩

theorem clear_orderly (seated : Seated server) (slots : Slots maximumClients server) :
    Seated server.clear ∧ Slots maximumClients server.clear := by
  unfold ModbusTcpServer.clear
  split
  · next closing =>
      have going : server.control ≠ .stopping := by rw [closing]; decide
      have down : ¬server.Up := not_up_of_control (by rw [closing]; decide)
      have moved := @Seated.moved _ seated ∅ _
        (fun socket slot => .inr (Finset.mem_union_right _ slot)) Finset.subset_union_left
      refine ⟨moved.controlled rfl rfl rfl rfl rfl, ?_⟩
      constructor
      case bounded => exact Nat.zero_le maximumClients
      case flag =>
        rintro (starting | opening)
        · cases starting
        · cases opening
      case begun =>
        intro run begun
        have earlier := slots.past going down begun
        exact ⟨le_of_lt earlier, fun same => absurd same (Nat.ne_of_lt earlier)⟩
      case held => exact fun socket member => absurd member (Finset.notMem_empty socket)
      case taken =>
        intro socket holds
        have earlier := slots.past going down (begun_of_holds holds)
        exact absurd earlier (lt_irrefl _)
  · exact ⟨seated, slots⟩

theorem listen_orderly (seated : Seated server) (slots : Slots maximumClients server)
    (succeeds : Bool) :
    Seated (server.listen succeeds) ∧ Slots maximumClients (server.listen succeeds) := by
  unfold ModbusTcpServer.listen
  split
  · next opening =>
      have going : server.control ≠ .stopping := by rw [opening]; decide
      have cleared : server.control ≠ .closing := by rw [opening]; decide
      have down : ¬server.Up := not_up_of_control (by rw [opening]; decide)
      have none := slots.empty going down cleared
      have absent : server.loops server.generation = .absent := by
        by_contra present
        exact lt_irrefl _ (slots.past going down (.inl present))
      split
      · constructor
        · refine (seated.looped_on (.inl rfl) ?_).controlled rfl rfl rfl rfl rfl
          rw [absent]
          rintro socket (accepted | refused)
          · cases accepted
          · cases refused
        · constructor
          case bounded => exact slots.bounded
          case flag =>
            rintro (starting | opening)
            · cases starting
            · cases opening
          case begun =>
            intro run begun
            by_cases here : run = server.generation
            · exact ⟨le_of_eq here, fun _ => .inr ⟨rfl, slots.flag (.inr opening)⟩⟩
            · have before : server.Begun run := by
                rcases begun with present | left
                · exact .inl fun gone => present (by
                    change (server.loopAt _ _).loops run = _
                    rw [ModbusTcpServer.loopAt_other _ _ here, gone])
                · exact .inr left
              have earlier := slots.past going down before
              exact ⟨le_of_lt earlier, fun same => absurd same here⟩
          case held =>
            intro socket member
            change socket ∈ server.sockets at member
            rw [none] at member
            exact absurd member (Finset.notMem_empty socket)
          case taken =>
            rintro socket (spawning | session)
            · change (server.loopAt _ _).loops server.generation = _ at spawning
              rw [ModbusTcpServer.loopAt_self] at spawning
              cases spawning
            · exact absurd (slots.past going down (.inr ⟨socket, session⟩)) (lt_irrefl _)
      · refine ⟨seated.controlled rfl rfl rfl rfl rfl,
          slots.controlled rfl rfl rfl ?_ ?_ (.inl none) cleared slots.taken⟩
        · rintro (starting | opening)
          · cases starting
          · cases opening
        · intro run begun
          have earlier := slots.past going down begun
          exact ⟨le_of_lt earlier, fun same => absurd same (Nat.ne_of_lt earlier)⟩
  · exact ⟨seated, slots⟩

end Threads

section Loops

/-- The thread that starts and stops does nothing; the loops, the sessions and the set change. -/
theorem Slots.shifted (slots : Slots maximumClients server)
    (running : after.running = server.running) (generation : after.generation = server.generation)
    (control : after.control = server.control) (bounded : after.sockets.card ≤ maximumClients)
    (begun : ∀ run, after.Begun run → server.Begun run)
    (held : ∀ socket ∈ after.sockets, (socket ∈ server.sockets ∧
      ∀ run, server.Holds run socket → after.Holds run socket) ∨
        after.Holds server.generation socket)
    (taken : ∀ socket, after.Holds server.generation socket → socket ∈ after.sockets) :
    Slots maximumClients after := by
  constructor
  case bounded => exact bounded
  case flag =>
    rw [control, running]
    exact slots.flag
  case begun =>
    intro run started
    unfold ModbusTcpServer.Up
    rw [control, running, generation]
    exact slots.begun run (begun run started)
  case held =>
    intro socket member
    rw [control, generation]
    rcases held socket member with ⟨before, still⟩ | fresh
    · rcases slots.held socket before with ⟨run, holds, place⟩
      exact ⟨run, still run holds, place⟩
    · exact ⟨server.generation, fresh, .inl rfl⟩
  case taken =>
    rw [generation]
    exact taken

theorem begun_loopAt {run other : Nat} {loop : AcceptLoop} (present : server.loops run ≠ .absent)
    (begun : (server.loopAt run loop).Begun other) : server.Begun other := by
  rcases begun with here | session
  · by_cases same : other = run
    · rw [same]
      exact .inl present
    · rw [ModbusTcpServer.loopAt_other _ _ same] at here
      exact .inl here
  · exact .inr session

theorem holds_loopAt {run other socket : Nat} {loop : AcceptLoop}
    (before : ∀ socket, server.loops run ≠ .spawning socket)
    (now : ∀ socket, loop ≠ .spawning socket) :
    (server.loopAt run loop).Holds other socket ↔ server.Holds other socket := by
  unfold ModbusTcpServer.Holds
  by_cases same : other = run
  · subst same
    rw [ModbusTcpServer.loopAt_self]
    exact or_congr_left (iff_of_false (now socket) (before socket))
  · rw [ModbusTcpServer.loopAt_other _ _ same]
    rfl

theorem Slots.looped_on (slots : Slots maximumClients server) {run : Nat} {loop : AcceptLoop}
    (present : server.loops run ≠ .absent) (before : ∀ socket, server.loops run ≠ .spawning socket)
    (now : ∀ socket, loop ≠ .spawning socket) : Slots maximumClients (server.loopAt run loop) := by
  refine slots.shifted rfl rfl rfl slots.bounded (fun other => begun_loopAt present) ?_ ?_
  · exact fun socket member => .inl ⟨member, fun other => (holds_loopAt before now).mpr⟩
  · exact fun socket holds => slots.taken socket ((holds_loopAt before now).mp holds)

theorem check_orderly (seated : Seated server) (slots : Slots maximumClients server) (run : Nat) :
    Seated (server.check run) ∧ Slots maximumClients (server.check run) := by
  unfold ModbusTcpServer.check
  split
  · next checking =>
      constructor
      · apply seated.looped_on
        · left
          split <;> rfl
        · rw [checking]
          rintro socket (accepted | refused)
          · cases accepted
          · cases refused
      · apply slots.looped_on
        · rw [checking]
          exact AcceptLoop.noConfusion
        · rw [checking]
          exact fun socket => AcceptLoop.noConfusion
        · intro socket
          split <;> exact AcceptLoop.noConfusion
  · exact ⟨seated, slots⟩

theorem accept_orderly (seated : Seated server) (slots : Slots maximumClients server) (run : Nat)
    (succeeds : Bool) :
    Seated (server.accept run succeeds) ∧ Slots maximumClients (server.accept run succeeds) := by
  unfold ModbusTcpServer.accept
  split
  · next accepting =>
      have present : server.loops run ≠ .absent := by
        rw [accepting]
        exact AcceptLoop.noConfusion
      have before : ∀ socket, server.loops run ≠ .spawning socket := by
        rw [accepting]
        exact fun socket => AcceptLoop.noConfusion
      split
      · constructor
        · exact seated.accepted accepting
        · exact (slots.looped_on present before fun socket => AcceptLoop.noConfusion).shifted rfl
            rfl
            rfl slots.bounded (fun _ begun => begun)
            (fun socket member => .inl ⟨member, fun _ holds => holds⟩)
            (fun socket holds => slots.taken socket
              ((holds_loopAt before fun socket => AcceptLoop.noConfusion).mp holds))
      · constructor
        · apply seated.looped_on (.inl rfl)
          rw [accepting]
          rintro socket (accepted | refused)
          · cases accepted
          · cases refused
        · exact slots.looped_on present before fun socket => AcceptLoop.noConfusion
  · exact ⟨seated, slots⟩

theorem reserve_orderly (seated : Seated server) (slots : Slots maximumClients server)
    (run : Nat) : Seated (server.reserve maximumClients run) ∧
      Slots maximumClients (server.reserve maximumClients run) := by
  unfold ModbusTcpServer.reserve
  split
  · next socket accepted =>
      have present : server.loops run ≠ .absent := by
        rw [accepted]
        exact AcceptLoop.noConfusion
      have before : ∀ socket, server.loops run ≠ .spawning socket := by
        rw [accepted]
        exact fun socket => AcceptLoop.noConfusion
      split
      · constructor
        · apply seated.looped_on (.inr (by rw [accepted]; rfl))
          rw [accepted]
          rintro other (same | refused)
          · cases same
            exact .inr (.inr rfl)
          · cases refused
        · exact slots.looped_on present before fun socket => AcceptLoop.noConfusion
      · next admitted =>
          push Not at admitted
          rcases admitted with ⟨current, room⟩
          simp only [ModbusTcpServer.current, ne_eq, Bool.not_eq_false, Bool.and_eq_true,
            beq_iff_eq] at current
          constructor
          · have more : Seated { server with sockets := insert socket server.sockets } :=
              seated.moved (fun other slot => .inl (Finset.mem_insert_of_mem slot))
                (Finset.Subset.refl _)
            refine more.looped_on (.inr (by rw [accepted]; rfl)) ?_
            intro other waiting
            rcases waiting with same | refused
            · rw [accepted] at same
              cases same
              exact .inl (Finset.mem_insert_self _ _)
            · rw [accepted] at refused
              cases refused
          · have spawning : ({ server.loopAt run (.spawning socket) with
                sockets := insert socket server.sockets } : ModbusTcpServer).Holds
                  server.generation socket := by
              rw [current.2]
              exact .inl (server.loopAt_self run _)
            refine slots.shifted rfl rfl rfl ?_ (fun other => begun_loopAt present) ?_ ?_
            · exact le_trans (Finset.card_insert_le _ _) room
            · intro other member
              rcases Finset.mem_insert.mp member with rfl | slot
              · exact .inr spawning
              · refine .inl ⟨slot, ?_⟩
                rintro holder (busy | session)
                · refine .inl ?_
                  change (server.loopAt _ _).loops holder = _
                  rw [ModbusTcpServer.loopAt_other _ _ fun same => ?_]
                  · exact busy
                  · rw [same] at busy
                    exact before other busy
                · exact .inr session
            · rintro other (busy | session)
              · change (server.loopAt _ _).loops server.generation = _ at busy
                rw [current.2, ModbusTcpServer.loopAt_self] at busy
                cases busy
                exact Finset.mem_insert_self _ _
              · exact Finset.mem_insert_of_mem (slots.taken other (.inr session))
  · exact ⟨seated, slots⟩

theorem refuse_orderly (seated : Seated server) (slots : Slots maximumClients server)
    (run : Nat) : Seated (server.refuse run) ∧ Slots maximumClients (server.refuse run) := by
  unfold ModbusTcpServer.refuse
  split
  · next socket refused =>
      have present : server.loops run ≠ .absent := by
        rw [refused]
        exact AcceptLoop.noConfusion
      have before : ∀ socket, server.loops run ≠ .spawning socket := by
        rw [refused]
        exact fun socket => AcceptLoop.noConfusion
      constructor
      · have more : Seated { server with closed := insert socket server.closed } :=
          seated.moved (fun other slot => .inl slot) (Finset.subset_insert _ _)
        refine more.looped_on (.inl ?_) ?_
        · split <;> rfl
        · intro other waiting
          rcases waiting with accepted | same
          · rw [refused] at accepted
            cases accepted
          · rw [refused] at same
            cases same
            exact .inr (.inl (Finset.mem_insert_self _ _))
      · have now : ∀ socket, (if server.current run then AcceptLoop.checking else .returned) ≠
            .spawning socket := by
          intro socket
          split <;> exact AcceptLoop.noConfusion
        exact (slots.looped_on present before now).shifted rfl rfl rfl slots.bounded
          (fun _ begun => begun) (fun socket member => .inl ⟨member, fun _ holds => holds⟩)
          (fun socket holds => slots.taken socket ((holds_loopAt before now).mp holds))
  · exact ⟨seated, slots⟩

theorem Slots.released (slots : Slots maximumClients server) {socket : Nat}
    (running : after.running = server.running) (generation : after.generation = server.generation)
    (control : after.control = server.control)
    (sockets : after.sockets = server.sockets.erase socket)
    (begun : ∀ run, after.Begun run → server.Begun run)
    (holds : ∀ run other, after.Holds run other ↔ server.Holds run other ∧ other ≠ socket) :
    Slots maximumClients after := by
  refine slots.shifted running generation control ?_ begun ?_ ?_
  · rw [sockets]
    exact le_trans (Finset.card_erase_le) slots.bounded
  · intro other member
    rw [sockets] at member
    rcases Finset.mem_erase.mp member with ⟨different, slot⟩
    exact .inl ⟨slot, fun run held => (holds run other).mpr ⟨held, different⟩⟩
  · intro other held
    rcases (holds _ other).mp held with ⟨before, different⟩
    rw [sockets]
    exact Finset.mem_erase.mpr ⟨different, slots.taken other before⟩

theorem spawn_orderly (seated : Seated server) (slots : Slots maximumClients server) (run : Nat)
    (succeeds : Bool) :
    Seated (server.spawn run succeeds) ∧ Slots maximumClients (server.spawn run succeeds) := by
  unfold ModbusTcpServer.spawn
  split
  · next socket spawning =>
      have present : server.loops run ≠ .absent := by
        rw [spawning]
        exact AcceptLoop.noConfusion
      have mine : (server.loops run).socket = some socket := by
        rw [spawning]
        rfl
      have unserved := seated.apart run socket mine
      have later : Seated (server.loopAt run .checking) := by
        apply seated.looped_on (.inl rfl)
        rw [spawning]
        rintro other (accepted | refused)
        · cases accepted
        · cases refused
      have gone : ∀ other, ((server.loopAt run .checking).loops other).socket ≠ some socket := by
        intro other has
        have same := seated.single other run socket (socket_loopAt (.inl rfl) has) mine
        rw [same, ModbusTcpServer.loopAt_self] at has
        cases has
      have busy : ∀ holder other, server.loops holder = .spawning other ↔
          (server.loopAt run .checking).loops holder = .spawning other ∨
            holder = run ∧ other = socket := by
        intro holder other
        by_cases same : holder = run
        · rw [same, ModbusTcpServer.loopAt_self, spawning]
          simp [eq_comm]
        · rw [ModbusTcpServer.loopAt_other _ _ same]
          simp [same]
      split
      · have served : ∀ {holder other}, Function.update server.sessions socket (some run) other =
            some holder ↔ holder = run ∧ other = socket ∨ server.sessions other = some holder := by
          intro holder other
          by_cases same : other = socket
          · rw [same, Function.update_self, unserved]
            simp [eq_comm]
          · rw [Function.update_of_ne same]
            simp [same]
        constructor
        · refine { later with apart := ?_, served := ?_ }
          · intro holder other has
            change Function.update server.sessions socket (some run) other = none
            rw [Function.update_of_ne]
            · exact later.apart holder other has
            · rintro rfl
              exact gone holder has
          · intro holder other session
            rcases served.mp session with ⟨-, rfl⟩ | before
            · exact seated.looped run other mine
            · exact seated.served holder other before
        · have same : ∀ holder other, ({ server.loopAt run .checking with
                sessions := Function.update server.sessions socket (some run) } :
              ModbusTcpServer).Holds holder other ↔ server.Holds holder other := by
            intro holder other
            unfold ModbusTcpServer.Holds
            rw [busy holder other, or_assoc, ← served]
          refine slots.shifted rfl rfl rfl slots.bounded ?_ ?_ ?_
          · rintro holder (looped | ⟨other, session⟩)
            · exact begun_loopAt present (.inl looped)
            · rcases served.mp session with ⟨rfl, -⟩ | before
              · exact .inl present
              · exact .inr ⟨other, before⟩
          · exact fun other slot => .inl ⟨slot, fun holder => (same holder other).mpr⟩
          · exact fun other holds => slots.taken other ((same _ other).mp holds)
      · constructor
        · exact later.released socket
        · refine slots.released rfl rfl rfl rfl (fun holder => begun_loopAt present) ?_
          intro holder other
          constructor
          · rintro (still | session)
            · refine ⟨.inl ((busy holder other).mpr (.inl still)), ?_⟩
              rintro rfl
              change (server.loopAt _ _).loops holder = _ at still
              exact gone holder (by rw [still]; rfl)
            · refine ⟨.inr session, ?_⟩
              rintro rfl
              exact absurd (unserved.symm.trans session) nofun
          · rintro ⟨before | session, different⟩
            · rcases (busy holder other).mp before with still | ⟨-, same⟩
              · exact .inl still
              · exact absurd same different
            · exact .inr session
  · exact ⟨seated, slots⟩

theorem finish_orderly (seated : Seated server) (slots : Slots maximumClients server)
    (socket : Nat) : Seated (server.finish socket) ∧
      Slots maximumClients (server.finish socket) := by
  unfold ModbusTcpServer.finish
  split
  · next run session =>
      have unlooped : ∀ other, server.loops other ≠ .spawning socket := by
        intro other busy
        have none := seated.apart other socket (by rw [busy]; rfl)
        rw [session] at none
        cases none
      have fewer : ∀ {other holder}, Function.update server.sessions socket none other =
          some holder ↔ server.sessions other = some holder ∧ other ≠ socket := by
        intro other holder
        by_cases same : other = socket
        · simp [same]
        · simp [same]
      constructor
      · refine { seated.released socket with apart := ?_, served := ?_ }
        · intro holder other has
          by_cases same : other = socket
          · simp [same]
          · change Function.update server.sessions socket none other = none
            rw [Function.update_of_ne same]
            exact seated.apart holder other has
        · exact fun holder other served => seated.served holder other (fewer.mp served).1
      · refine slots.released rfl rfl rfl rfl ?_ ?_
        · rintro holder (looped | ⟨other, served⟩)
          · exact .inl looped
          · exact .inr ⟨other, (fewer.mp served).1⟩
        · intro holder other
          constructor
          · rintro (busy | served)
            · refine ⟨.inl busy, ?_⟩
              rintro rfl
              exact unlooped holder busy
            · exact ⟨.inr (fewer.mp served).1, (fewer.mp served).2⟩
          · rintro ⟨busy | served, different⟩
            · exact .inl busy
            · exact .inr (fewer.mpr ⟨served, different⟩)
  · exact ⟨seated, slots⟩

end Loops

section Runs

theorem step_orderly (seated : Seated server) (slots : Slots maximumClients server) (step : Step) :
    Seated ((threads maximumClients).next server step) ∧
      Slots maximumClients ((threads maximumClients).next server step) := by
  cases step with
  | start => exact start_orderly seated slots
  | number => exact number_orderly seated slots
  | listen succeeds => exact listen_orderly seated slots succeeds
  | stop => exact stop_orderly seated slots
  | advance => exact advance_orderly seated slots
  | clear => exact clear_orderly seated slots
  | check run => exact check_orderly seated slots run
  | accept run succeeds => exact accept_orderly seated slots run succeeds
  | reserve run => exact reserve_orderly seated slots run
  | refuse run => exact refuse_orderly seated slots run
  | spawn run succeeds => exact spawn_orderly seated slots run succeeds
  | finish socket => exact finish_orderly seated slots socket

theorem run_orderly (maximumClients : Nat) (steps : List Step) :
    Seated ((threads maximumClients).run {} steps) ∧
      Slots maximumClients ((threads maximumClients).run {} steps) := by
  refine (threads maximumClients).run_invariant
    (fun server => Seated server ∧ Slots maximumClients server) ?_ {} ⟨?_, ?_⟩ steps
  · rintro server step ⟨seated, slots⟩
    exact step_orderly seated slots step
  · constructor
    case single => exact fun one two socket has => nomatch has
    case apart => exact fun run socket has => nomatch has
    case looped => exact fun run socket has => nomatch has
    case served => exact fun run socket session => nomatch session
    case settled => exact fun socket made => absurd made (Nat.not_lt_zero socket)
  · constructor
    case bounded => exact Nat.zero_le maximumClients
    case flag =>
      rintro (starting | opening)
      · cases starting
      · cases opening
    case begun =>
      rintro run (present | ⟨socket, session⟩)
      · exact absurd rfl present
      · cases session
    case held => exact fun socket member => absurd member (Finset.notMem_empty socket)
    case taken =>
      rintro socket (spawning | session)
      · cases spawning
      · cases session

theorem step_kept (step : Step) {socket : Nat}
    (has : socket ∈ server.sockets ∨ socket ∈ server.closed) :
    socket ∈ ((threads maximumClients).next server step).sockets ∨
      socket ∈ ((threads maximumClients).next server step).closed := by
  have released : ∀ other, socket ∈ (server.release other).sockets ∨
      socket ∈ (server.release other).closed := by
    intro other
    rcases has with slot | shut
    · by_cases same : socket = other
      · exact .inr (by rw [same]; exact Finset.mem_insert_self _ _)
      · exact .inl (Finset.mem_erase.mpr ⟨same, slot⟩)
    · exact .inr (Finset.mem_insert_of_mem shut)
  cases step with
  | start =>
      change _ ∈ server.start.sockets ∨ _ ∈ server.start.closed
      unfold ModbusTcpServer.start
      split <;> exact has
  | number =>
      change _ ∈ server.number.sockets ∨ _ ∈ server.number.closed
      unfold ModbusTcpServer.number
      split <;> exact has
  | listen succeeds =>
      change _ ∈ (server.listen succeeds).sockets ∨ _ ∈ (server.listen succeeds).closed
      unfold ModbusTcpServer.listen
      split
      · split <;> exact has
      · exact has
  | stop =>
      change _ ∈ server.stop.sockets ∨ _ ∈ server.stop.closed
      unfold ModbusTcpServer.stop
      split <;> exact has
  | advance =>
      change _ ∈ server.advance.sockets ∨ _ ∈ server.advance.closed
      unfold ModbusTcpServer.advance
      split <;> exact has
  | clear =>
      change _ ∈ server.clear.sockets ∨ _ ∈ server.clear.closed
      unfold ModbusTcpServer.clear
      split
      · exact .inr (Finset.mem_union.mpr has.symm)
      · exact has
  | check run =>
      change _ ∈ (server.check run).sockets ∨ _ ∈ (server.check run).closed
      unfold ModbusTcpServer.check
      split <;> exact has
  | accept run succeeds =>
      change _ ∈ (server.accept run succeeds).sockets ∨ _ ∈ (server.accept run succeeds).closed
      unfold ModbusTcpServer.accept
      split
      · split <;> exact has
      · exact has
  | reserve run =>
      change _ ∈ (server.reserve maximumClients run).sockets ∨
        _ ∈ (server.reserve maximumClients run).closed
      unfold ModbusTcpServer.reserve
      split
      · split
        · exact has
        · exact has.imp_left Finset.mem_insert_of_mem
      · exact has
  | refuse run =>
      change _ ∈ (server.refuse run).sockets ∨ _ ∈ (server.refuse run).closed
      unfold ModbusTcpServer.refuse
      split
      · exact has.imp_right Finset.mem_insert_of_mem
      · exact has
  | spawn run succeeds =>
      change _ ∈ (server.spawn run succeeds).sockets ∨ _ ∈ (server.spawn run succeeds).closed
      unfold ModbusTcpServer.spawn
      split
      · split
        · exact has
        · exact released _
      · exact has
  | finish other =>
      change _ ∈ (server.finish other).sockets ∨ _ ∈ (server.finish other).closed
      unfold ModbusTcpServer.finish
      split
      · exact released _
      · exact has

theorem run_kept (steps : List Step) {socket : Nat}
    (has : socket ∈ server.sockets ∨ socket ∈ server.closed) :
    socket ∈ ((threads maximumClients).run server steps).sockets ∨
      socket ∈ ((threads maximumClients).run server steps).closed :=
  (threads maximumClients).run_invariant
    (fun state => socket ∈ state.sockets ∨ socket ∈ state.closed)
    (fun _ step kept => step_kept step kept) server has steps

theorem Seated.made_of_holds (seated : Seated server) {run socket : Nat}
    (holds : server.Holds run socket) : socket < server.created := by
  rcases holds with spawning | session
  · exact seated.looped run socket (by rw [spawning]; rfl)
  · exact seated.served run socket session

/-- A socket that a run works on is not one that an accept loop has still to give a slot. -/
theorem Seated.not_waiting (seated : Seated server) {run other socket : Nat}
    (holds : server.Holds run socket) :
    ¬(server.loops other = .accepted socket ∨ server.loops other = .refused socket) := by
  intro waiting
  have has : (server.loops other).socket = some socket := by
    rcases waiting with accepted | refused
    · rw [accepted]
      rfl
    · rw [refused]
      rfl
  rcases holds with spawning | session
  · have same := seated.single run other socket (by rw [spawning]; rfl) has
    rw [same] at spawning
    rw [spawning] at waiting
    rcases waiting with accepted | refused
    · cases accepted
    · cases refused
  · rw [seated.apart other socket has] at session
    cases session

/-- Whatever the order, and however often the server is stopped and started: never more slots than
clients allowed; a connection that has had a slot keeps it until its socket is closed; while the
server is up, the slots are those of this run's sessions and of no earlier run's; and once it is
down no slot is taken, every connection that ever had one is closed, and so is every other one that
no accept loop still has in its hands. -/
theorem slots_follow_the_runs (maximumClients : Nat) (steps : List Step) :
    ((threads maximumClients).run {} steps).sockets.card ≤ maximumClients ∧
    (∀ before later, steps = before ++ later →
      ∀ socket ∈ ((threads maximumClients).run {} before).sockets,
        socket ∈ ((threads maximumClients).run {} steps).sockets ∨
          socket ∈ ((threads maximumClients).run {} steps).closed) ∧
    (((threads maximumClients).run {} steps).Up →
      ∀ socket, socket ∈ ((threads maximumClients).run {} steps).sockets ↔
        ((threads maximumClients).run {} steps).Holds
          ((threads maximumClients).run {} steps).generation socket) ∧
    (((threads maximumClients).run {} steps).Down →
      ((threads maximumClients).run {} steps).sockets = ∅ ∧
      (∀ before later, steps = before ++ later →
        ∀ socket ∈ ((threads maximumClients).run {} before).sockets,
          socket ∈ ((threads maximumClients).run {} steps).closed) ∧
      (∀ run socket, ((threads maximumClients).run {} steps).Holds run socket →
        socket ∈ ((threads maximumClients).run {} steps).closed) ∧
      ∀ socket < ((threads maximumClients).run {} steps).created,
        socket ∈ ((threads maximumClients).run {} steps).closed ∨
          ∃ run, ((threads maximumClients).run {} steps).loops run = .accepted socket ∨
            ((threads maximumClients).run {} steps).loops run = .refused socket) := by
  have kept : ∀ before later, steps = before ++ later →
      ∀ socket ∈ ((threads maximumClients).run {} before).sockets,
        socket ∈ ((threads maximumClients).run {} steps).sockets ∨
          socket ∈ ((threads maximumClients).run {} steps).closed := by
    rintro before later rfl socket slot
    rw [Machine.run_append]
    exact run_kept later (.inl slot)
  rcases run_orderly maximumClients steps with ⟨seated, slots⟩
  generalize (threads maximumClients).run {} steps = server at seated slots kept
  refine ⟨slots.bounded, kept, ?_, ?_⟩
  · intro up socket
    constructor
    · intro member
      rcases slots.held socket member with ⟨run, holds, rfl | ⟨closing, -⟩⟩
      · exact holds
      · rw [up.1] at closing
        cases closing
    · exact slots.taken socket
  · intro down
    have none := slots.empty (by rw [down.1]; decide)
      (fun up => Bool.noConfusion (down.2.symm.trans up.2)) (by rw [down.1]; decide)
    have settled : ∀ socket < server.created, socket ∈ server.closed ∨
        ∃ run, server.loops run = .accepted socket ∨ server.loops run = .refused socket := by
      intro socket made
      rcases seated.settled socket made with slot | elsewhere
      · rw [none] at slot
        exact absurd slot (Finset.notMem_empty socket)
      · exact elsewhere
    refine ⟨none, ?_, ?_, settled⟩
    · intro before later split socket slot
      rcases kept before later split socket slot with still | shut
      · rw [none] at still
        exact absurd still (Finset.notMem_empty socket)
      · exact shut
    · intro run socket holds
      rcases settled socket (seated.made_of_holds holds) with shut | ⟨other, waiting⟩
      · exact shut
      · exact absurd waiting (seated.not_waiting holds)

end Runs

end Msap1.Modbus.TcpServer
