import Mathlib.Tactic.Common

/-! Aggregates over a window: rows enter it at the end, and its oldest row leaves. -/

namespace Window

variable {σ α ρ : Type*}

inductive Call (α : Type*) where
  | step (row : α)
  | inverse (row : α)

/-- The calls take one window to another, the oldest row first: every row that leaves is the oldest
one. -/
inductive Slides : List α → List (Call α) → List α → Prop where
  | done {window : List α} : Slides window [] window
  | step {window after : List α} {calls : List (Call α)} {row : α}
      (rest : Slides (window ++ [row]) calls after) : Slides window (.step row :: calls) after
  | inverse {window after : List α} {calls : List (Call α)} {row : α}
      (rest : Slides window calls after) : Slides (row :: window) (.inverse row :: calls) after

structure Aggregate (σ α : Type*) where
  start : σ
  step : σ → α → σ
  inverse : σ → α → σ

namespace Aggregate

def call (aggregate : Aggregate σ α) (state : σ) : Call α → σ
  | .step row => aggregate.step state row
  | .inverse row => aggregate.inverse state row

def run (aggregate : Aggregate σ α) (calls : List (Call α)) : σ :=
  calls.foldl aggregate.call aggregate.start

/-- A new aggregate that is given the rows of a window. -/
def fresh (aggregate : Aggregate σ α) (rows : List α) : σ :=
  rows.foldl aggregate.step aggregate.start

/-- Every call keeps what the state holds of the window. -/
structure Tracks (aggregate : Aggregate σ α) (holds : σ → List α → Prop) : Prop where
  start : holds aggregate.start []
  step : ∀ {state window} row, holds state window →
    holds (aggregate.step state row) (window ++ [row])
  inverse : ∀ {state window row}, holds state (row :: window) →
    holds (aggregate.inverse state row) window

variable {aggregate : Aggregate σ α} {holds : σ → List α → Prop}

theorem Tracks.foldl (tracks : aggregate.Tracks holds) {window after : List α}
    {calls : List (Call α)} (slides : Slides window calls after) {state : σ}
    (held : holds state window) : holds (calls.foldl aggregate.call state) after := by
  induction slides generalizing state with
  | done => exact held
  | step _ ih => exact ih (tracks.step _ held)
  | inverse _ ih => exact ih (tracks.inverse held)

theorem Tracks.run (tracks : aggregate.Tracks holds) {window : List α} {calls : List (Call α)}
    (slides : Slides [] calls window) : holds (aggregate.run calls) window :=
  tracks.foldl slides tracks.start

theorem slides_steps (before rows : List α) :
    Slides before (rows.map Call.step) (before ++ rows) := by
  induction rows generalizing before with
  | nil =>
    rw [List.append_nil]
    exact .done
  | cons row rows ih =>
    have rest := ih (before ++ [row])
    rw [List.append_assoc] at rest
    exact .step rest

theorem Tracks.fresh (tracks : aggregate.Tracks holds) (rows : List α) :
    holds (aggregate.fresh rows) rows := by
  have held := tracks.run (slides_steps [] rows)
  rwa [Aggregate.run, List.foldl_map] at held

/-- Where the value depends on what is held only, it is the value of a new aggregate. -/
theorem Tracks.value_fresh (tracks : aggregate.Tracks holds) {value : σ → ρ}
    (determined : ∀ {state other window}, holds state window → holds other window →
      value state = value other)
    {window : List α} {calls : List (Call α)} (slides : Slides [] calls window) :
    value (aggregate.run calls) = value (aggregate.fresh window) :=
  determined (tracks.run slides) (tracks.fresh window)

end Aggregate

end Window
