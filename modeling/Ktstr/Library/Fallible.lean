import Mathlib.Data.List.Basic

/-! Computations that may stop with an error: what is known once they have not. -/
namespace Ktstr.Library.Fallible
open List

variable {ε α β σ : Type}

theorem map_ok {f : α → β} {x : Except ε α} {result : β} (ok : x.map f = .ok result) :
    ∃ value, x = .ok value ∧ result = f value := by
  cases x with
  | error e => exact absurd ok (by simp [Except.map])
  | ok value => exact ⟨value,rfl,(Except.ok.inj ok).symm⟩

theorem bind_ok (x : Except ε α) (f : α → Except ε β) (result : β) (ok : (x >>= f) = .ok result) :
    ∃ value, x = .ok value ∧ f value = .ok result := by
  cases x with
  | error e => exact absurd ok (by simp [bind,Except.bind])
  | ok value => exact ⟨value,rfl,ok⟩

theorem mapM_ok (f : α → Except ε β) (items : List α) (results : List β) (ok : items.mapM f = .ok results) :
    results.length = items.length ∧ ∀ result ∈ results, ∃ item ∈ items, f item = .ok result := by
  induction items generalizing results with
  | nil =>
    obtain rfl := Except.ok.inj ok
    exact ⟨rfl,fun result member => absurd member (by simp)⟩
  | cons item rest ih =>
    rw [mapM_cons] at ok
    obtain ⟨value,first,ok⟩ := bind_ok _ _ _ ok
    obtain ⟨values,others,ok⟩ := bind_ok _ _ _ ok
    obtain rfl := Except.ok.inj ok
    obtain ⟨lengths,each⟩ := ih values others
    refine ⟨by simp [lengths],fun result member => ?_⟩
    rcases mem_cons.mp member with rfl | member
    · exact ⟨item,mem_cons_self,first⟩
    · obtain ⟨source,listed,made⟩ := each result member
      exact ⟨source,mem_cons_of_mem item listed,made⟩

theorem mapM_eq_some {f : α → Option β} {items : List α} {results : List β} :
    items.mapM f = some results ↔ items.map f = results.map some := by
  induction items generalizing results with
  | nil => cases results <;> simp
  | cons item items ih => cases results <;> simp [Option.bind_eq_some_iff,ih]

theorem mapM_pure {m : Type → Type} [Monad m] [LawfulMonad m] {γ : Type} (text : γ → α) (read : α → m β)
    (value : γ → β) (items : List γ) (each : ∀ item ∈ items, read (text item) = pure (value item)) :
    (items.map text).mapM read = pure (items.map value) := by
  induction items with
  | nil => exact mapM_nil
  | cons item items ih =>
    rw [map_cons,mapM_cons,each item mem_cons_self,ih fun other member => each other (mem_cons_of_mem _ member)]
    simp

theorem foldlM_range_ok {step : σ → Nat → Except ε σ} {holds : Nat → σ → Prop} (start final : σ) (rounds : Nat)
    (initial : holds 0 start)
    (preserved : ∀ round state next, round < rounds → holds round state → step state round = .ok next → holds (round + 1) next)
    (ok : (List.range rounds).foldlM step start = .ok final) : holds rounds final := by
  induction rounds generalizing final with
  | zero =>
    obtain rfl := Except.ok.inj ok
    exact initial
  | succ rounds ih =>
    rw [range_succ,foldlM_append] at ok
    obtain ⟨state,before,ok⟩ := bind_ok _ _ _ ok
    obtain ⟨next,stepped,ok⟩ := bind_ok _ _ _ ok
    obtain rfl := Except.ok.inj ok
    refine preserved rounds state next (by omega) (ih state ?_ before) stepped
    intro round state next below
    exact preserved round state next (by omega)

end Ktstr.Library.Fallible
