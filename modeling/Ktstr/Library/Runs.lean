import Mathlib.Data.List.Induction

/-! Runs of a machine that takes one step for each event of a list, with the rules
that carry a property of single steps to whole runs. -/
namespace Ktstr.Library.Runs

variable {σ ε : Type} (step : σ → ε → σ)

def run (start : σ) (events : List ε) : σ := events.foldl step start

@[simp] theorem run_nil (start : σ) : run step start [] = start := rfl

@[simp] theorem run_cons (start : σ) (event : ε) (events : List ε) :
    run step start (event::events) = run step (step start event) events := rfl

theorem run_append {start : σ} {before after : List ε} :
    run step start (before ++ after) = run step (run step start before) after := List.foldl_append

/-- Every event of the list meets the guard in the state it is taken from. -/
def Throughout (guard : σ → ε → Prop) : σ → List ε → Prop
  | _,[] => True
  | state,event::events => guard state event ∧ Throughout guard (step state event) events

instance decidableThroughout (guard : σ → ε → Prop) [∀ state event, Decidable (guard state event)] :
    (start : σ) → (events : List ε) → Decidable (Throughout step guard start events)
  | _,[] => isTrue trivial
  | start,event::events =>
    have := decidableThroughout guard (step start event) events
    inferInstanceAs (Decidable (guard start event ∧ Throughout step guard (step start event) events))

theorem Throughout.mono (weak strong : σ → ε → Prop) (imp : ∀ state event, strong state event → weak state event)
    (start : σ) (events : List ε) (all : Throughout step strong start events) :
    Throughout step weak start events := by
  induction events generalizing start with
  | nil => trivial
  | cons event events ih => exact ⟨imp start event all.1,ih (step start event) all.2⟩

theorem Throughout.cut (guard : σ → ε → Prop) (start : σ) (before after : List ε)
    (all : Throughout step guard start (before ++ after)) : Throughout step guard start before := by
  induction before generalizing start with
  | nil => trivial
  | cons event before ih => exact ⟨all.1,ih (step start event) all.2⟩

theorem run_guarded (guard : σ → ε → Prop) (inv : σ → Prop)
    (kept : ∀ state event, guard state event → inv state → inv (step state event))
    (start : σ) (events : List ε) (legal : Throughout step guard start events) (holds : inv start) :
    inv (run step start events) := by
  induction events generalizing start with
  | nil => exact holds
  | cons event events ih =>
    obtain ⟨first,rest⟩ := legal
    exact ih (step start event) rest (kept start event first holds)

theorem run_invariant (inv : σ → Prop) (kept : ∀ state event, inv state → inv (step state event))
    (start : σ) (events : List ε) (holds : inv start) : inv (run step start events) := by
  induction events generalizing start with
  | nil => exact holds
  | cons event events ih => exact ih (step start event) (kept start event holds)

theorem run_history (start : σ) (inv : List ε → σ → Prop) (first : inv [] start)
    (kept : ∀ events event, inv events (run step start events) →
      inv (events ++ [event]) (step (run step start events) event))
    (events : List ε) : inv events (run step start events) := by
  induction events using List.reverseRecOn with
  | nil => exact first
  | append_singleton events event ih =>
    rw [run_append]
    exact kept events event ih

end Ktstr.Library.Runs
