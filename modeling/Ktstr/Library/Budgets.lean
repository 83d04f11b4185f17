import Mathlib.Algebra.Order.BigOperators.Group.Finset

/-! Filling a budget from a list of weighted items: an item is taken as long as the different items before it fall short. -/
namespace Ktstr.Library.Budgets
open List

variable {α : Type} [DecidableEq α] (weight : α → Nat) (target : Nat)

def within (items : List α) : Finset α :=
  items.toFinset.filter fun item => ∑ other ∈ (items.take (items.idxOf item)).toFinset, weight other < target

variable {weight target}

theorem within_nil : within weight target ([] : List α) = ∅ := rfl

variable (items : List α)

theorem within_subset : within weight target items ⊆ items.toFinset := Finset.filter_subset _ _

theorem before_concat {last item : α} (member : item ∈ items) :
    (items ++ [last]).take ((items ++ [last]).idxOf item) = items.take (items.idxOf item) := by
  rw [idxOf_append_of_mem member,take_append_of_le_length idxOf_le_length]

theorem within_short (short : ∑ item ∈ items.toFinset, weight item < target) :
    within weight target items = items.toFinset := by
  rw [within,Finset.filter_true_of_mem]
  intro item _
  refine (Finset.sum_le_sum_of_subset fun other member => ?_).trans_lt short
  rw [mem_toFinset] at member ⊢
  exact mem_of_mem_take member

variable (weight target)

theorem within_concat (last : α) : within weight target (items ++ [last]) =
      if ∑ item ∈ items.toFinset, weight item < target then insert last (within weight target items)
      else within weight target items := by
  have old (item : α) (member : item ∈ items) :
      item ∈ within weight target (items ++ [last]) ↔ item ∈ within weight target items := by
    simp only [within,Finset.mem_filter,before_concat items member]
    simp [member]
  have fresh (new : last ∉ items) : last ∈ within weight target (items ++ [last]) ↔
      ∑ item ∈ items.toFinset, weight item < target := by
    simp [within,idxOf_append_of_notMem new]
  have apart (item : α) (member : item ∉ items) : item ∉ within weight target items :=
    fun inside => member (mem_toFinset.mp (within_subset items inside))
  ext item
  by_cases member : item ∈ items
  · rw [old item member]
    split
    · next short =>
      have all : item ∈ within weight target items := by
        rw [within_short items short]
        exact mem_toFinset.mpr member
      simp [all]
    · exact Iff.rfl
  · by_cases same : item = last
    · subst same
      rw [fresh member]
      split
      · next short => simp [short]
      · next full => simp [full,apart item member]
    · have outside : item ∉ within weight target (items ++ [last]) := by
        intro inside
        have listed := mem_toFinset.mp (within_subset _ inside)
        rcases mem_append.mp listed with before | now
        · exact member before
        · exact same (mem_singleton.mp now)
      split
      · simp [outside,apart item member,same]
      · simp [outside,apart item member]

theorem le_sum_within (enough : target ≤ ∑ item ∈ items.toFinset, weight item) :
    target ≤ ∑ item ∈ within weight target items, weight item := by
  induction items using List.reverseRecOn with
  | nil =>
    exact enough
  | append_singleton items last ih =>
    rw [within_concat]
    split
    · next short =>
      rw [within_short items short]
      simpa using enough
    · next full => exact ih (Nat.not_lt.mp full)

theorem within_append {more : List α} (enough : target ≤ ∑ item ∈ items.toFinset, weight item) :
    within weight target (items ++ more) = within weight target items := by
  induction more using List.reverseRecOn with
  | nil => rw [append_nil]
  | append_singleton more last ih =>
    have grown : ¬ ∑ item ∈ (items ++ more).toFinset, weight item < target := by
      refine Nat.not_lt.mpr (enough.trans (Finset.sum_le_sum_of_subset fun item member => ?_))
      rw [mem_toFinset] at member ⊢
      exact mem_append_left _ member
    rw [← append_assoc,within_concat,if_neg grown,ih]

end Ktstr.Library.Budgets
