import Mathlib.Data.List.Basic
import Mathlib.Tactic

namespace Msap1

/-- A deterministic component: every call takes its state to the next one and answers.
Failing calls answer with their failure, so a run is simply a list of calls. -/
structure Machine (State Call Answer : Type) where
  step : State → Call → State × Answer

namespace Machine

variable {State Call Answer View : Type} (m : Machine State Call Answer)

def next (state : State) (call : Call) : State := (m.step state call).1

def answer (state : State) (call : Call) : Answer := (m.step state call).2

def run (state : State) (calls : List Call) : State := calls.foldl m.next state

def answers : State → List Call → List Answer
  | _, [] => []
  | state, call :: calls => m.answer state call :: answers (m.next state call) calls

@[simp] theorem run_nil (state : State) : m.run state [] = state := rfl

@[simp] theorem run_cons (state : State) (call : Call) (calls : List Call) :
    m.run state (call :: calls) = m.run (m.next state call) calls := rfl

theorem run_append (state : State) (first second : List Call) :
    m.run state (first ++ second) = m.run (m.run state first) second :=
  List.foldl_append

theorem run_concat (state : State) (calls : List Call) (call : Call) :
    m.run state (calls ++ [call]) = m.next (m.run state calls) call := by
  rw [run_append, run_cons, run_nil]

theorem answer_mem_answers (state : State) (before : List Call) (call : Call)
    (later : List Call) :
    m.answer (m.run state before) call ∈ m.answers state (before ++ call :: later) := by
  induction before generalizing state with
  | nil => exact List.mem_cons_self
  | cons first before ih => exact List.mem_cons_of_mem _ (ih (m.next state first))

/-- What one call preserves, every run preserves. -/
theorem run_invariant (Holds : State → Prop)
    (preserved : ∀ state call, Holds state → Holds (m.next state call))
    (state : State) (start : Holds state) (calls : List Call) : Holds (m.run state calls) := by
  induction calls generalizing state with
  | nil => exact start
  | cons call calls ih => exact ih (m.next state call) (preserved state call start)

/-- The same with a condition that every call of the run meets. -/
theorem run_invariant_of (Holds : State → Prop) (Allowed : Call → Prop)
    (preserved : ∀ state call, Allowed call → Holds state → Holds (m.next state call))
    (state : State) (start : Holds state) (calls : List Call)
    (allowed : ∀ call ∈ calls, Allowed call) : Holds (m.run state calls) := by
  induction calls generalizing state with
  | nil => exact start
  | cons call calls ih =>
      exact ih (m.next state call) (preserved state call (allowed call List.mem_cons_self) start)
        (fun later member => allowed later (List.mem_cons_of_mem call member))

/-- Every call of a run meets a condition on the state it finds. -/
def Along (Allowed : State → Call → Prop) : State → List Call → Prop
  | _, [] => True
  | state, call :: calls => Allowed state call ∧ Along Allowed (m.next state call) calls

instance decidableAlong (Allowed : State → Call → Prop)
    [allowed : ∀ state call, Decidable (Allowed state call)] :
    ∀ state calls, Decidable (m.Along Allowed state calls)
  | _, [] => isTrue trivial
  | state, call :: calls =>
      @instDecidableAnd _ _ (allowed state call) (decidableAlong Allowed (m.next state call) calls)

/-- What the calls that meet the condition preserve, such a run preserves. -/
theorem along_invariant (Allowed : State → Call → Prop) (Holds : State → Prop)
    (preserved : ∀ state call, Allowed state call → Holds state → Holds (m.next state call))
    (state : State) (start : Holds state) (calls : List Call)
    (along : m.Along Allowed state calls) : Holds (m.run state calls) := by
  induction calls generalizing state with
  | nil => exact start
  | cons call calls ih =>
      exact ih (m.next state call) (preserved state call along.1 start) along.2

/-- What the states of such a run satisfy shows in each of its calls. -/
theorem along_shown {Allowed Shown : State → Call → Prop} (Holds : State → Prop)
    (preserved : ∀ state call, Allowed state call → Holds state → Holds (m.next state call))
    (shown : ∀ state call, Allowed state call → Holds state → Shown state call)
    {state : State} (start : Holds state) {calls : List Call}
    (along : m.Along Allowed state calls) : m.Along Shown state calls := by
  induction calls generalizing state with
  | nil => trivial
  | cons call calls ih =>
      exact ⟨shown state call along.1 start, ih (preserved state call along.1 start) along.2⟩

theorem along_trivial (state : State) (calls : List Call) :
    m.Along (fun _ _ => True) state calls := by
  induction calls generalizing state with
  | nil => trivial
  | cons call calls ih => exact ⟨trivial, ih (m.next state call)⟩

theorem along_imp {First Second : State → Call → Prop}
    (weaker : ∀ state call, First state call → Second state call) {state : State}
    {calls : List Call} (along : m.Along First state calls) : m.Along Second state calls := by
  induction calls generalizing state with
  | nil => trivial
  | cons call calls ih => exact ⟨weaker state call along.1, ih along.2⟩

theorem along_append {Allowed : State → Call → Prop} {state : State} {first second : List Call} :
    m.Along Allowed state (first ++ second) ↔
      m.Along Allowed state first ∧ m.Along Allowed (m.run state first) second := by
  induction first generalizing state with
  | nil => simp [Along]
  | cons call calls ih => simp only [List.cons_append, Along, run_cons, ih, and_assoc]

theorem along_and {First Second : State → Call → Prop} {state : State} {calls : List Call}
    (first : m.Along First state calls) (second : m.Along Second state calls) :
    m.Along (fun state call => First state call ∧ Second state call) state calls := by
  induction calls generalizing state with
  | nil => trivial
  | cons call calls ih => exact ⟨⟨first.1, second.1⟩, ih first.2 second.2⟩

/-- Two states that no single call tells apart are not told apart by any run. -/
theorem run_agrees (Agree : State → State → Prop) (view : Answer → View)
    (preserved : ∀ left right call, Agree left right →
      Agree (m.next left call) (m.next right call) ∧
        view (m.answer left call) = view (m.answer right call))
    (left right : State) (start : Agree left right) (calls : List Call) :
    Agree (m.run left calls) (m.run right calls) ∧
      (m.answers left calls).map view = (m.answers right calls).map view := by
  induction calls generalizing left right with
  | nil => exact ⟨start, rfl⟩
  | cons call calls ih =>
      obtain ⟨agree, same⟩ := preserved left right call start
      obtain ⟨finish, rest⟩ := ih _ _ agree
      refine ⟨finish, ?_⟩
      simp only [answers, List.map_cons, same, rest]

/-- A machine with a history beside its state, written from each call and its answer. -/
def traced {History : Type} (note : State → History → Call → Answer → History) :
    Machine (State × History) Call Answer where
  step := fun (state, history) call =>
    ((m.next state call, note state history call (m.answer state call)), m.answer state call)

variable {History : Type} (note : State → History → Call → Answer → History)

@[simp] theorem traced_next (state : State) (history : History) (call : Call) :
    (m.traced note).next (state, history) call =
      (m.next state call, note state history call (m.answer state call)) := rfl

theorem traced_state (state : State) (history : History) (calls : List Call) :
    ((m.traced note).run (state, history) calls).1 = m.run state calls := by
  induction calls generalizing state history with
  | nil => rfl
  | cons call calls ih => exact ih (m.next state call) _

end Machine

end Msap1
