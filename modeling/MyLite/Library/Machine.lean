import Mathlib.Tactic.Common

/-! Runs: of machines that answer each input with an output, and the rule that compares
the answers of two of them; of loops; and of systems that take one event at a time. -/

namespace Machine

variable {σ τ ι ο : Type*}

/-- The outputs of a run, in order. -/
def run (step : σ → ι → σ × ο) : σ → List ι → List ο
  | _, [] => []
  | state, input :: rest => (step state input).2 :: run step (step state input).1 rest

/-- The state a run ends in. -/
def final (step : σ → ι → σ × ο) : σ → List ι → σ
  | state, [] => state
  | state, input :: rest => final step (step state input).1 rest

/-- `condition` holds of every input, in the state in which the run meets it. -/
def Along (step : σ → ι → σ × ο) (condition : σ → ι → Prop) : σ → List ι → Prop
  | _, [] => True
  | state, input :: rest =>
    condition state input ∧ Along step condition (step state input).1 rest

theorem final_invariant {step : σ → ι → σ × ο} (accepted : ι → Prop) (invariant : σ → Prop)
    (preserved : ∀ state input, accepted input → invariant state →
      invariant (step state input).1)
    {state : σ} {inputs : List ι} (inputsAccepted : ∀ input ∈ inputs, accepted input)
    (start : invariant state) : invariant (final step state inputs) := by
  induction inputs generalizing state with
  | nil => exact start
  | cons input rest ih =>
    have first := inputsAccepted input List.mem_cons_self
    exact ih (fun next member => inputsAccepted next (List.mem_cons_of_mem _ member))
      (preserved state input first start)

/-- Two machines that every input keeps in a relation are in it after every run. -/
theorem final_related {concrete : σ → ι → σ × ο} {model : τ → ι → τ × ο} (related : σ → τ → Prop)
    (kept : ∀ state spec input, related state spec →
      related (concrete state input).1 (model spec input).1)
    {state : σ} {spec : τ} {inputs : List ι} (start : related state spec) :
    related (final concrete state inputs) (final model spec inputs) := by
  induction inputs generalizing state spec with
  | nil => exact start
  | cons input rest ih => exact ih (kept state spec input start)

theorem final_append (step : σ → ι → σ × ο) (state : σ) (first second : List ι) :
    final step state (first ++ second) = final step (final step state first) second := by
  induction first generalizing state with
  | nil => rfl
  | cons input rest ih => exact ih (step state input).1

/-- Two machines kept in a relation by every accepted input answer a whole run
alike exactly when each input meets the condition under which one step does. -/
theorem run_eq_iff {concrete : σ → ι → σ × ο} {model : τ → ι → τ × ο}
    {related : σ → τ → Prop} {accepted : ι → Prop} {condition : τ → ι → Prop}
    (kept : ∀ state spec input, accepted input → related state spec →
      related (concrete state input).1 (model spec input).1)
    (answers : ∀ state spec input, accepted input → related state spec →
      ((concrete state input).2 = (model spec input).2 ↔ condition spec input))
    {state : σ} {spec : τ} {inputs : List ι}
    (inputsAccepted : ∀ input ∈ inputs, accepted input) (start : related state spec) :
    run concrete state inputs = run model spec inputs ↔ Along model condition spec inputs := by
  induction inputs generalizing state spec with
  | nil => exact iff_of_true rfl trivial
  | cons input rest ih =>
    have first := inputsAccepted input List.mem_cons_self
    have later := ih (fun next member => inputsAccepted next (List.mem_cons_of_mem _ member))
      (kept state spec input first start)
    simp only [run, Along, List.cons.injEq, answers state spec input first start, later]

end Machine

/-! Loops that step a state until a result comes out. -/

namespace Loop

variable {σ ρ : Type*}

/-- At most `fuel` rounds. -/
def iterate (step : σ → σ ⊕ ρ) : Nat → σ → Option ρ
  | 0, _ => none
  | fuel + 1, state =>
    match step state with
    | .inl next => iterate step fuel next
    | .inr result => some result

/-- What one round or more lead to: another state, or the result. -/
inductive Leads (step : σ → σ ⊕ ρ) : σ → σ ⊕ ρ → Prop where
  | last {state : σ} {outcome : σ ⊕ ρ} (stepped : step state = outcome) : Leads step state outcome
  | next {state after : σ} {outcome : σ ⊕ ρ} (stepped : step state = .inl after)
      (rest : Leads step after outcome) : Leads step state outcome

variable {step : σ → σ ⊕ ρ} {state after other : σ} {outcome : σ ⊕ ρ} {result : ρ}

theorem Leads.trans (first : Leads step state (.inl after)) (second : Leads step after outcome) :
    Leads step state outcome := by
  generalize reached : (Sum.inl after : σ ⊕ ρ) = middle at first
  induction first with
  | last stepped =>
    subst reached
    exact .next stepped second
  | next stepped _ ih => exact .next stepped (ih reached)

/-- A loop goes on as it does from any state with the same next round. -/
theorem Leads.of_step_eq (same : step state = step other) (leads : Leads step other outcome) :
    Leads step state outcome := by
  cases leads with
  | last stepped => exact .last (same.trans stepped)
  | next stepped rest => exact .next (same.trans stepped) rest

/-- A loop that leads to a result comes out with it, however many more rounds it may take. -/
theorem Leads.iterate (leads : Leads step state (.inr result)) :
    ∃ fuel, ∀ more, fuel ≤ more → Loop.iterate step more state = some result := by
  generalize reached : (Sum.inr result : σ ⊕ ρ) = outcome at leads
  induction leads with
  | last stepped =>
    refine ⟨1, fun more enough => ?_⟩
    obtain ⟨rounds, rfl⟩ := Nat.exists_eq_add_of_le' enough
    rw [Loop.iterate, stepped, ← reached]
  | next stepped _ ih =>
    obtain ⟨fuel, ends⟩ := ih reached
    refine ⟨fuel + 1, fun more enough => ?_⟩
    obtain ⟨rounds, rfl⟩ := Nat.exists_eq_add_of_le' (Nat.le_of_add_left_le enough)
    rw [Loop.iterate, stepped]
    exact ends rounds (Nat.le_of_succ_le_succ enough)

end Loop

/-! Runs of a system that takes one event at a time. -/

namespace Transition

variable {σ ε : Type*}

/-- The states reached by events that each meet a condition in the state they
start from. -/
inductive Reaches (step : σ → ε → Option σ) (allowed : σ → ε → Prop) (start : σ) : σ → Prop where
  | refl : Reaches step allowed start start
  | next {before after : σ} {event : ε} (reached : Reaches step allowed start before)
      (meets : allowed before event) (taken : step before event = some after) :
      Reaches step allowed start after

variable {step : σ → ε → Option σ} {allowed : σ → ε → Prop}

theorem Reaches.invariant (invariant : σ → Prop) {start state : σ}
    (reached : Reaches step allowed start state) (holds : invariant start)
    (preserved : ∀ before event after, invariant before → allowed before event →
      step before event = some after → invariant after) : invariant state := by
  induction reached with
  | refl => exact holds
  | next _ meets taken ih => exact preserved _ _ _ ih meets taken

/-- A run given as its list of events. -/
def runFrom (step : σ → ε → Option σ) : σ → List ε → Option σ
  | state, [] => some state
  | state, event :: rest => (step state event).bind fun next => runFrom step next rest

theorem runFrom_append (state : σ) (first second : List ε) :
    runFrom step state (first ++ second) =
      (runFrom step state first).bind fun next => runFrom step next second := by
  induction first generalizing state with
  | nil => rfl
  | cons event rest ih =>
    simp only [List.cons_append, runFrom, Option.bind_assoc]
    congr 1
    funext next
    exact ih next

/-- A run whose every event meets the condition reaches its last state. -/
theorem Reaches.guarded [∀ state event, Decidable (allowed state event)] {start state : σ}
    {events : List ε} {last : σ} (reached : Reaches step allowed start state)
    (run : runFrom (fun state event => if allowed state event then step state event else none)
      state events = some last) :
    Reaches step allowed start last := by
  induction events generalizing state with
  | nil =>
    cases run
    exact reached
  | cons event rest ih =>
    obtain ⟨after, taken, run⟩ := Option.bind_eq_some_iff.mp run
    dsimp only at taken
    split at taken
    · rename_i meets
      exact ih (.next reached meets taken) run
    · cases taken

theorem Reaches.append {start state : σ} {events : List ε} {last : σ}
    (reached : Reaches step (fun _ _ => True) start state)
    (run : runFrom step state events = some last) :
    Reaches step (fun _ _ => True) start last := by
  apply reached.guarded
  simpa using run

/-- A run of a system that takes every event. -/
theorem Reaches.foldl {next : σ → ε → σ} (total : ∀ state event, step state event =
    some (next state event)) {start state : σ} (reached : Reaches step allowed start state)
    (events : List ε) (meets : ∀ event ∈ events, ∀ state, allowed state event) :
    Reaches step allowed start (events.foldl next state) := by
  induction events generalizing state with
  | nil => exact reached
  | cons event rest ih =>
    have here := reached.next (meets event List.mem_cons_self state) (total state event)
    exact ih here fun other member => meets other (List.mem_cons_of_mem _ member)

end Transition
