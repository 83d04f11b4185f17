import Mathlib.Data.List.Chain
import Mathlib.Order.MinMax

/-! Sequences with missing entries: neighbours in the list, and neighbours once the missing ones are left out. -/
namespace Ktstr.Library.Gaps
open List

variable {α β : Type}

theorem mem_zip_tail {items : List α} {left right : α} :
    (left,right) ∈ items.zip items.tail ↔ ∃ before after, items = before ++ left :: right :: after := by
  induction items with
  | nil => simp
  | cons item items ih =>
    cases items with
    | nil =>
      refine ⟨by simp,?_⟩
      rintro ⟨before,after,split⟩
      have lengths := congrArg List.length split
      simp only [length_append,length_cons,length_nil] at lengths
      omega
    | cons next items =>
      rw [tail_cons,zip_cons_cons,mem_cons]
      constructor
      · rintro (here | there)
        · cases here
          exact ⟨[],items,rfl⟩
        · obtain ⟨before,after,split⟩ := ih.mp there
          exact ⟨item :: before,after,by rw [split,cons_append]⟩
      · rintro ⟨before,after,split⟩
        cases before with
        | nil =>
          obtain ⟨rfl,rest⟩ := List.cons.inj split
          obtain ⟨rfl,_⟩ := List.cons.inj rest
          exact .inl rfl
        | cons first before => exact .inr (ih.mpr ⟨before,after,(List.cons.inj split).2⟩)

theorem isChain_filterMap {R : β → β → Prop} {entry : α → Option β} {items : List α} :
    (items.filterMap entry).IsChain R ↔
      ∀ before left gap right after x y, items = before ++ left :: (gap ++ right :: after) →
        (∀ item ∈ gap, entry item = none) → entry left = some x → entry right = some y → R x y := by
  rw [isChain_iff_forall_rel_of_append_cons_cons]
  constructor
  · intro chain before left gap right after x y split missing first second
    refine @chain x y (before.filterMap entry) (after.filterMap entry) ?_
    rw [split,filterMap_append,filterMap_cons_some first,filterMap_append,
      filterMap_eq_nil_iff.mpr missing,nil_append,filterMap_cons_some second]
  · intro ordered x y those these split
    obtain ⟨before,rest,rfl,_,split⟩ := filterMap_eq_append_iff.mp split
    obtain ⟨skipped,left,rest,rfl,_,first,split⟩ := filterMap_eq_cons_iff.mp split
    obtain ⟨gap,right,after,rfl,missing,second,_⟩ := filterMap_eq_cons_iff.mp split
    exact ordered (before ++ skipped) left gap right after x y (by simp) missing first second

theorem foldl_max_le_iff [LinearOrder β] {values : List β} {start bound : β} :
    values.foldl max start ≤ bound ↔ start ≤ bound ∧ ∀ value ∈ values, value ≤ bound := by
  induction values generalizing start with
  | nil => simp
  | cons value values ih => rw [foldl_cons,ih,max_le_iff,forall_mem_cons,and_assoc]

end Ktstr.Library.Gaps
