import Mathlib.Data.List.Nodup
import Mathlib.Data.Fin.Basic
import Mathlib.Tactic

/-! Computations that may fail: what a returned result says about the parts, and loops that
walk over keys and change one entry of an array at a time. -/

namespace Msap1.Loops

variable {Key Value Flag Failure : Type} [DecidableEq Key]

omit [DecidableEq Key] in
/-- A computation that returned ran its first part and then the rest. -/
theorem bind_ok {first : Except Failure Key} {rest : Key → Except Failure Value} {result : Value}
    (returned : (first >>= rest) = .ok result) :
    ∃ middle, first = .ok middle ∧ rest middle = .ok result := by
  cases first with
  | error failure => cases returned
  | ok middle => exact ⟨middle, rfl, returned⟩

/-- The results of a loop that returned belong to its items one by one. -/
theorem mapM_ok {Item Result : Type} {body : Item → Except Failure Result} {items : List Item}
    {results : List Result} (returned : items.mapM body = .ok results) :
    List.Forall₂ (fun item result => body item = .ok result) items results := by
  induction items generalizing results with
  | nil =>
      cases returned
      exact .nil
  | cons item items ih =>
      rw [List.mapM_cons] at returned
      rcases bind_ok returned with ⟨result, first, rest⟩
      rcases bind_ok rest with ⟨others, later, same⟩
      cases same
      exact .cons first (ih later)

omit [DecidableEq Key] in
theorem when_ok {condition : Prop} [Decidable condition] {first : Except Failure Key}
    {rest : Except Failure Value} {result : Value}
    (returned : (if condition then first >>= fun _ => rest else rest) = .ok result) :
    rest = .ok result := by
  by_cases holds : condition
  · rw [if_pos holds] at returned
    rcases bind_ok returned with ⟨middle, -, returned⟩
    exact returned
  · rwa [if_neg holds] at returned

omit [DecidableEq Key] in
theorem unless_ok {condition : Prop} [Decidable condition] {failure : Failure}
    {rest : Except Failure Value} {result : Value}
    (returned : (if condition then (throw failure : Except Failure Unit) >>= fun _ => rest
      else rest) = .ok result) : ¬condition ∧ rest = .ok result := by
  by_cases holds : condition
  · rw [if_pos holds] at returned
    cases returned
  · rw [if_neg holds] at returned
    exact ⟨holds, returned⟩

omit [DecidableEq Key] in
theorem mapError_ok {Other : Type} {change : Failure → Other} {computed : Except Failure Value}
    {result : Value} (returned : computed.mapError change = .ok result) :
    computed = .ok result := by
  cases computed with
  | error failure => cases returned
  | ok value =>
      cases returned
      rfl

omit [DecidableEq Key] in
/-- A computation that failed did so in its first part or in the rest. -/
theorem bind_error {first : Except Failure Key} {rest : Key → Except Failure Value}
    {failure : Failure} (failed : (first >>= rest) = .error failure) :
    first = .error failure ∨ ∃ middle, first = .ok middle ∧ rest middle = .error failure := by
  cases first with
  | error early =>
      cases failed
      exact .inl rfl
  | ok middle => exact .inr ⟨middle, rfl, failed⟩

omit [DecidableEq Key] in
theorem toOption_ok {result : Except Failure Key} {value : Key}
    (found : result.toOption = some value) : result = .ok value := by
  cases result with
  | error failure => cases found
  | ok other => rw [Option.some.inj found]

/-- One pass of the loop body: entry `key` is replaced, the accumulated flag is carried on. -/
def updateEntry (body : Key → Value → Flag → Except Failure (Value × Flag))
    (state : (Key → Value) × Flag) (key : Key) : Except Failure ((Key → Value) × Flag) := do
  let (value, flag) ← body key (state.1 key) state.2
  return (Function.update state.1 key value, flag)

def updateEach (body : Key → Value → Flag → Except Failure (Value × Flag)) (keys : List Key)
    (entries : Key → Value) (flag : Flag) : Except Failure ((Key → Value) × Flag) :=
  keys.foldlM (updateEntry body) (entries, flag)

theorem updateEntry_ok {body : Key → Value → Flag → Except Failure (Value × Flag)}
    {state after : (Key → Value) × Flag} {key : Key}
    (finished : updateEntry body state key = .ok after) :
    ∃ value, body key (state.1 key) state.2 = .ok (value, after.2) ∧
      after.1 = Function.update state.1 key value := by
  obtain ⟨result, executed, returned⟩ := bind_ok finished
  cases returned
  exact ⟨result.1, executed, rfl⟩

/-- A loop over distinct keys that finishes has run its body once on each entry. -/
theorem updateEach_ok {body : Key → Value → Flag → Except Failure (Value × Flag)}
    {keys : List Key} (distinct : keys.Nodup) {entries after : Key → Value}
    {flag finalFlag : Flag}
    (finished : updateEach body keys entries flag = .ok (after, finalFlag)) :
    (∀ key ∈ keys, ∃ before later, body key (entries key) before = .ok (after key, later)) ∧
      ∀ key, key ∉ keys → after key = entries key := by
  unfold updateEach at finished
  induction keys generalizing entries flag with
  | nil =>
      cases finished
      exact ⟨fun key member => absurd member List.not_mem_nil, fun _ _ => rfl⟩
  | cons key keys ih =>
      rw [List.foldlM_cons] at finished
      obtain ⟨middle, first, finished⟩ := bind_ok finished
      obtain ⟨fresh, rest⟩ := List.nodup_cons.mp distinct
      obtain ⟨value, executed, updated⟩ := updateEntry_ok first
      obtain ⟨later, untouched⟩ := ih rest finished
      have kept : ∀ other, other ≠ key → middle.1 other = entries other := by
        intro other different
        rw [updated, Function.update_of_ne different]
      refine ⟨?_, ?_⟩
      · intro other member
        rcases List.mem_cons.mp member with rfl | inside
        · refine ⟨flag, middle.2, ?_⟩
          rw [untouched other fresh, updated, Function.update_self]
          exact executed
        · obtain ⟨before, flagAfter, ran⟩ := later other inside
          rw [kept other (fun same => fresh (same ▸ inside))] at ran
          exact ⟨before, flagAfter, ran⟩
      · intro other absent
        rw [untouched other (fun inside => absent (List.mem_cons_of_mem key inside)),
          kept other (fun same => absent (same ▸ List.mem_cons_self))]

/-- What the body keeps of the flag, the loop keeps. -/
theorem updateEach_flag {body : Key → Value → Flag → Except Failure (Value × Flag)}
    (Holds : Flag → Prop)
    (kept : ∀ key value flag after later, body key value flag = .ok (after, later) →
      Holds flag → Holds later)
    {keys : List Key} {entries after : Key → Value} {flag finalFlag : Flag}
    (finished : updateEach body keys entries flag = .ok (after, finalFlag))
    (start : Holds flag) : Holds finalFlag := by
  unfold updateEach at finished
  induction keys generalizing entries flag with
  | nil =>
      cases finished
      exact start
  | cons key keys ih =>
      rw [List.foldlM_cons] at finished
      obtain ⟨middle, first, finished⟩ := bind_ok finished
      obtain ⟨value, executed, -⟩ := updateEntry_ok first
      exact ih finished (kept key _ _ _ _ executed start)

section Fill

variable {State Item : Type} {step : State → Item → Except Failure State} {key : Item → Key}
  {taken : State → List Key} {entry : State → Key → Value} {Good : Item → Value → Prop}

/-- One pass of a loop that fills a table: the entry of a fresh key is written, no other. -/
def Fills (step : State → Item → Except Failure State) (key : Item → Key)
    (taken : State → List Key) (entry : State → Key → Value) (Good : Item → Value → Prop) : Prop :=
  ∀ state item after, step state item = .ok after →
    key item ∉ taken state ∧ taken after = key item :: taken state ∧
      (∀ other, other ≠ key item → entry after other = entry state other) ∧
        Good item (entry after (key item))

omit [DecidableEq Key] in
/-- A table that a loop has filled holds a good entry for each of the items, and what it held. -/
theorem fill_ok (fills : Fills step key taken entry Good) {items : List Item}
    {state after : State} (finished : items.foldlM step state = .ok after) :
    (∀ other ∈ taken state, other ∈ taken after ∧ entry after other = entry state other) ∧
      ∀ item ∈ items, key item ∈ taken after ∧ Good item (entry after (key item)) := by
  induction items generalizing state with
  | nil =>
      cases finished
      exact ⟨fun other member => ⟨member, rfl⟩, fun item member => absurd member List.not_mem_nil⟩
  | cons item items ih =>
      rw [List.foldlM_cons] at finished
      obtain ⟨middle, first, rest⟩ := bind_ok finished
      obtain ⟨fresh, grown, untouched, good⟩ := fills state item middle first
      obtain ⟨kept, filled⟩ := ih rest
      constructor
      · intro other member
        have stays := kept other (by rw [grown]; exact List.mem_cons_of_mem _ member)
        refine ⟨stays.1, stays.2.trans (untouched other ?_)⟩
        rintro rfl
        exact fresh member
      · intro next member
        rcases List.mem_cons.mp member with rfl | inside
        · have stays := kept (key next) (by rw [grown]; exact List.mem_cons_self)
          exact ⟨stays.1, stays.2 ▸ good⟩
        · exact filled next inside

end Fill

end Msap1.Loops
