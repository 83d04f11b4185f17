import Mathlib.Algebra.Order.Ring.Int
import Mathlib.Data.List.Induction
import Mathlib.Algebra.BigOperators.Group.List.Basic
import Mathlib.Data.List.Nodup
import Std.Data.ExtTreeMap

/-! Grouping a list by key: one accumulator for each key, and the keys in the order in
which they first appear. -/
namespace Ktstr.Library.Grouping
open Std (ExtTreeMap TransCmp LawfulEqCmp)
open List

variable {ρ κ α : Type}

structure Grouped (κ α : Type) (cmp : κ → κ → Ordering) [TransCmp cmp] where
  order : List κ := []
  groups : ExtTreeMap κ α cmp := ∅

def gather (start : ρ → α) (contribute : α → ρ → α) : List ρ → Option α
  | [] => none
  | row::rows => some ((row::rows).foldl contribute (start row))

theorem gather_concat (start : ρ → α) (contribute : α → ρ → α) (rows : List ρ) (row : ρ) :
    gather start contribute (rows ++ [row]) =
      some (contribute ((gather start contribute rows).getD (start row)) row) := by
  cases rows with
  | nil => rfl
  | cons first rows => simp [gather]

variable {cmp : κ → κ → Ordering} [TransCmp cmp]

def addTo (key : ρ → κ) (start : ρ → α) (contribute : α → ρ → α) (grouped : Grouped κ α cmp) (row : ρ) :
    Grouped κ α cmp :=
  match grouped.groups[key row]? with
  | some acc => {grouped with groups := grouped.groups.insert (key row) (contribute acc row)}
  | none =>
    {order := grouped.order ++ [key row],groups := grouped.groups.insert (key row) (contribute (start row) row)}

def collect (key : ρ → κ) (start : ρ → α) (contribute : α → ρ → α) (rows : List ρ) : Grouped κ α cmp :=
  rows.foldl (addTo key start contribute) {}

def takeAll : List κ → ExtTreeMap κ α cmp → Option (List α)
  | [],_ => some []
  | key::order,groups => do
    let acc ← groups[key]?
    let rest ← takeAll order (groups.erase key)
    return acc::rest

section
variable (key : ρ → κ) (start : ρ → α) (contribute : α → ρ → α) (rows : List ρ)

theorem collect_concat (row : ρ) :
    (collect key start contribute (rows ++ [row]) : Grouped κ α cmp) =
      addTo key start contribute (collect key start contribute rows) row := by
  rw [collect,foldl_concat]
  rfl

variable [LawfulEqCmp cmp] [DecidableEq κ]

theorem addTo_groups (grouped : Grouped κ α cmp) (row : ρ) (label : κ) :
    (addTo key start contribute grouped row).groups[label]? =
      if key row = label then some (contribute (grouped.groups[key row]?.getD (start row)) row)
      else grouped.groups[label]? := by
  unfold addTo
  cases found : grouped.groups[key row]? with
  | some acc => simp only [ExtTreeMap.getElem?_insert,LawfulEqCmp.compare_eq_iff_eq,Option.getD_some]
  | none => simp only [ExtTreeMap.getElem?_insert,LawfulEqCmp.compare_eq_iff_eq,Option.getD_none]

theorem collect_groups (label : κ) :
    (collect key start contribute rows : Grouped κ α cmp).groups[label]? =
      gather start contribute (rows.filter fun row => key row = label) := by
  induction rows using List.reverseRecOn with
  | nil => exact ExtTreeMap.getElem?_empty
  | append_singleton rows row ih =>
    rw [collect_concat,addTo_groups,filter_append]
    by_cases here : key row = label
    · subst here
      rw [if_pos rfl,ih,filter_cons_of_pos (by simp),filter_nil,gather_concat]
    · rw [if_neg here,ih,filter_cons_of_neg (by simpa using here),filter_nil,append_nil]

theorem gather_isSome (label : κ) :
    (gather start contribute (rows.filter fun row => key row = label)).isSome ↔ ∃ row ∈ rows, key row = label := by
  cases found : rows.filter fun row => key row = label with
  | nil =>
    have none := filter_eq_nil_iff.mp found
    simpa [gather] using none
  | cons row rest =>
    have inside : row ∈ rows.filter fun row => key row = label := by rw [found]; exact mem_cons_self
    rw [mem_filter] at inside
    exact ⟨fun _ => ⟨row,inside.1,of_decide_eq_true inside.2⟩,fun _ => rfl⟩

theorem collect_order :
    (collect key start contribute rows : Grouped κ α cmp).order.Nodup ∧
      ∀ label, label ∈ (collect key start contribute rows : Grouped κ α cmp).order ↔ ∃ row ∈ rows, key row = label := by
  induction rows using List.reverseRecOn with
  | nil => exact ⟨nodup_nil,fun label => by simp [collect]⟩
  | append_singleton rows row ih =>
    obtain ⟨nodup,members⟩ := ih
    have present := gather_isSome key start contribute rows (key row)
    have group : (collect key start contribute rows : Grouped κ α cmp).groups[key row]? = _ :=
      collect_groups key start contribute rows (key row)
    rw [← group] at present
    rw [collect_concat]
    unfold addTo
    cases found : (collect key start contribute rows : Grouped κ α cmp).groups[key row]? with
    | some acc =>
      have seen := present.mp (by rw [found]; rfl)
      refine ⟨nodup,fun label => ?_⟩
      rw [members]
      constructor
      · rintro ⟨other,inside,same⟩
        exact ⟨other,mem_append_left _ inside,same⟩
      · rintro ⟨other,inside,same⟩
        rcases mem_append.mp inside with old | new
        · exact ⟨other,old,same⟩
        · rw [mem_singleton.mp new] at same
          rwa [same] at seen
    | none =>
      have unseen : ¬ ∃ other ∈ rows, key other = key row := fun seen => by
        have := present.mpr seen
        rw [found] at this
        exact Bool.false_ne_true this
      refine ⟨?_,fun label => ?_⟩
      · refine nodup_append.mpr ⟨nodup,nodup_singleton _,?_⟩
        intro old inside new same equal
        rw [mem_singleton.mp same] at equal
        exact unseen ((members _).mp (equal ▸ inside))
      · simp only [mem_append,members,mem_singleton]
        constructor
        · rintro (⟨other,inside,same⟩ | rfl)
          · exact ⟨other,Or.inl inside,same⟩
          · exact ⟨row,Or.inr rfl,rfl⟩
        · rintro ⟨other,inside | rfl,same⟩
          · exact Or.inl ⟨other,inside,same⟩
          · exact Or.inr same.symm

end

theorem takeAll_total [LawfulEqCmp cmp] (order : List κ) (groups : ExtTreeMap κ α cmp) (distinct : order.Nodup)
    (present : ∀ key ∈ order, (groups[key]?).isSome) :
    ∃ accs, takeAll order groups = some accs ∧ List.Forall₂ (fun key acc => groups[key]? = some acc) order accs := by
  induction order generalizing groups with
  | nil => exact ⟨[],rfl,.nil⟩
  | cons key order ih =>
    obtain ⟨apart,distinct⟩ := nodup_cons.mp distinct
    obtain ⟨acc,found⟩ := Option.isSome_iff_exists.mp (present key mem_cons_self)
    have kept : ∀ other ∈ order, (groups.erase key)[other]? = groups[other]? := fun other inside => by
      have differ : key ≠ other := fun equal => apart (equal ▸ inside)
      rw [ExtTreeMap.getElem?_erase,if_neg (fun equal => differ (LawfulEqCmp.eq_of_compare equal))]
    obtain ⟨accs,taken,each⟩ := ih (groups.erase key) distinct fun other inside => by
      rw [kept other inside]
      exact present other (mem_cons_of_mem _ inside)
    refine ⟨acc::accs,?_,.cons found ?_⟩
    · simp [takeAll,found,taken]
    · exact ((forall₂_and_left order accs).mpr ⟨fun _ inside => inside,each⟩).imp fun other acc both => by
        rw [← kept other both.1]
        exact both.2

theorem gather_rows {β : Type} (f : ρ → β) (rows : List ρ) :
    gather (fun _ => []) (fun kept row => kept ++ [f row]) rows = if rows = [] then none else some (rows.map f) := by
  induction rows using List.reverseRecOn with
  | nil => rfl
  | append_singleton rows row ih =>
    rw [gather_concat,ih]
    by_cases empty : rows = []
    · simp [empty]
    · simp [empty]

theorem sum_by_key [DecidableEq κ] {key : ρ → κ} {weight : ρ → Nat} {keys : List κ} (distinct : keys.Nodup)
    {rows : List ρ} (cover : ∀ row ∈ rows, key row ∈ keys) :
    (keys.map fun label => ((rows.filter fun row => key row = label).map weight).sum).sum = (rows.map weight).sum := by
  induction rows with
  | nil => simp
  | cons row rows ih =>
    have one (labels : List κ) (nodup : labels.Nodup) :
        (labels.map fun label => (((row::rows).filter fun row => key row = label).map weight).sum).sum =
          (if key row ∈ labels then weight row else 0) +
            (labels.map fun label => ((rows.filter fun row => key row = label).map weight).sum).sum := by
      induction labels with
      | nil => simp
      | cons label labels ihLabels =>
        obtain ⟨apart,nodup⟩ := nodup_cons.mp nodup
        rw [map_cons,sum_cons,ihLabels nodup,map_cons,sum_cons]
        by_cases here : key row = label
        · subst here
          simp [apart,Nat.add_assoc]
        · simp only [filter_cons,here,decide_false,Bool.false_eq_true,if_false,mem_cons,false_or]
          omega
    rw [one keys distinct,if_pos (cover row mem_cons_self),map_cons,sum_cons,
      ih fun other inside => cover other (mem_cons_of_mem _ inside)]

end Ktstr.Library.Grouping
