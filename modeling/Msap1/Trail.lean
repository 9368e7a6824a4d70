import Mathlib.Data.List.Chain
import Mathlib.Logic.Relation
import Mathlib.Tactic

/-! Operations with several durable effects. Such an operation is the list of the states its
effects leave one after another; an exception or a crash cuts the list short. -/

namespace Msap1.Trail

variable {State Item : Type}

/-- The state at the end of a trail. -/
def last (start : State) (trail : List State) : State := trail.getLastD start

/-- The state an operation leaves when it stops after some of its effects. -/
def stopped (start : State) (trail : List State) (effects : Nat) : State :=
  last start (trail.take effects)

/-- One operation after another. -/
def andThen (start : State) (trail : List State) (next : State → List State) : List State :=
  trail ++ next (last start trail)

/-- The same effects for every item in turn. -/
def each (effect : State → Item → List State) : State → List Item → List State
  | _, [] => []
  | start, item :: items =>
      andThen start (effect start item) (fun after => each effect after items)

/-- Every effect of a trail is one of the given ones. -/
def Walks (Effect : State → State → Prop) (start : State) (trail : List State) : Prop :=
  List.IsChain Effect (start :: trail)

variable {Effect : State → State → Prop} {start : State} {trail : List State}

@[simp] theorem last_nil : last start [] = start := rfl

@[simp] theorem last_cons (next : State) : last start (next :: trail) = last next trail :=
  List.getLastD_cons

theorem walks_nil : Walks Effect start [] := List.isChain_singleton start

theorem walks_cons {next : State} (first : Effect start next) (rest : Walks Effect next trail) :
    Walks Effect start (next :: trail) :=
  List.isChain_cons_cons.mpr ⟨first, rest⟩

theorem walks_append {rest : List State} (first : Walks Effect start trail)
    (second : Walks Effect (last start trail) rest) : Walks Effect start (trail ++ rest) := by
  induction trail generalizing start with
  | nil => exact second
  | cons next trail ih =>
      rcases List.isChain_cons_cons.mp first with ⟨step, others⟩
      apply walks_cons step
      apply ih others
      rwa [last_cons] at second

theorem walks_andThen {next : State → List State} (first : Walks Effect start trail)
    (second : Walks Effect (last start trail) (next (last start trail))) :
    Walks Effect start (andThen start trail next) :=
  walks_append first second

theorem last_append (rest : List State) :
    last start (trail ++ rest) = last (last start trail) rest := by
  induction trail generalizing start with
  | nil => rfl
  | cons next trail ih => rw [List.cons_append, last_cons, last_cons, ih]

theorem walks_take (walks : Walks Effect start trail) (effects : Nat) :
    Walks Effect start (trail.take effects) := by
  have chain := List.IsChain.take walks (effects + 1)
  simpa [Walks] using chain

/-- The end of a trail is its start or one of its states. -/
theorem last_forall (Holds : State → Prop) (first : Holds start)
    (others : ∀ state ∈ trail, Holds state) : Holds (last start trail) := by
  induction trail generalizing start with
  | nil => exact first
  | cons next trail ih =>
      rw [last_cons]
      apply ih (others next List.mem_cons_self)
      intro state member
      exact others state (List.mem_cons_of_mem next member)

/-- What every effect preserves holds at the end of a trail. -/
theorem walks_invariant_within (Holds : State → Prop)
    (preserved : ∀ before, ∀ after ∈ trail, Effect before after → Holds before → Holds after)
    (walks : Walks Effect start trail) (holds : Holds start) : Holds (last start trail) := by
  induction trail generalizing start with
  | nil => exact holds
  | cons next trail ih =>
      rcases List.isChain_cons_cons.mp walks with ⟨step, others⟩
      rw [last_cons]
      apply ih _ others (preserved start next List.mem_cons_self step holds)
      intro before after member
      exact preserved before after (List.mem_cons_of_mem next member)

theorem walks_invariant {Holds : State → Prop}
    (preserved : ∀ before after, Effect before after → Holds before → Holds after)
    (walks : Walks Effect start trail) (holds : Holds start) : Holds (last start trail) :=
  walks_invariant_within Holds (fun before after _ => preserved before after) walks holds

theorem walks_imp {Other : State → State → Prop}
    (weaker : ∀ before after, Effect before after → Other before after)
    (walks : Walks Effect start trail) : Walks Other start trail :=
  List.IsChain.imp weaker walks

/-- A loop walks when its body walks from every state the invariant allows. -/
theorem walks_each {effect : State → Item → List State} {items : List Item}
    (Holds : State → Item → Prop)
    (body : ∀ state, ∀ item ∈ items, Holds state item → Walks Effect state (effect state item))
    (kept : ∀ state, ∀ item ∈ items, ∀ other ∈ items, Holds state item → Holds state other →
      Holds (last state (effect state item)) other)
    (start : State) (holds : ∀ item ∈ items, Holds start item) :
    Walks Effect start (each effect start items) := by
  induction items generalizing start with
  | nil => exact walks_nil
  | cons item items ih =>
      have head := holds item List.mem_cons_self
      apply walks_andThen (body start item List.mem_cons_self head)
      apply ih
      · intro state other member
        exact body state other (List.mem_cons_of_mem item member)
      · intro state first firstMember second secondMember
        exact kept state first (List.mem_cons_of_mem item firstMember) second
          (List.mem_cons_of_mem item secondMember)
      · intro other member
        exact kept start item List.mem_cons_self other (List.mem_cons_of_mem item member) head
          (holds other (List.mem_cons_of_mem item member))

end Msap1.Trail
