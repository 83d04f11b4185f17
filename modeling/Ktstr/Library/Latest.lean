import Mathlib.Data.List.Dedup

/-! The latest entry under each key of a log, and the last few of them. -/
namespace Ktstr.Library.Latest
open List

variable {α κ : Type} [DecidableEq κ] (key : α → κ)

/-- The entries that no later entry of the same key replaces. -/
def latest : List α → List α
  | [] => []
  | entry::log => if key entry ∈ log.map key then latest log else entry::latest log

def recent (limit : Nat) (entries : List α) : List α := entries.drop (entries.length - limit)

def replaced (entries : List α) (entry : α) : List α := (entries.filter fun other => key other != key entry) ++ [entry]

variable {key} {entries : List α} {entry : α} {limit : Nat}

theorem latest_keys (log : List α) : (latest key log).map key = (log.map key).dedup := by
  induction log with
  | nil => rfl
  | cons entry log ih =>
    rw [latest,map_cons]
    by_cases again : key entry ∈ log.map key
    · rw [if_pos again,ih,dedup_cons_of_mem again]
    · rw [if_neg again,map_cons,ih,dedup_cons_of_notMem again]

theorem latest_concat (log : List α) : latest key (log ++ [entry]) = replaced key (latest key log) entry := by
  induction log with
  | nil => rfl
  | cons first log ih =>
    rw [cons_append,latest,latest,ih]
    by_cases again : key first ∈ log.map key
    · rw [if_pos (by simp [again]),if_pos again]
    · rw [if_neg again]
      by_cases same : key first = key entry
      · rw [if_pos (by simp [same]),replaced,replaced,filter_cons_of_neg (by simp [same])]
      · rw [if_neg (by simp_all),replaced,replaced,filter_cons_of_pos (by simp [same]),cons_append]

theorem replaced_keys (entry : α) (distinct : (entries.map key).Nodup) :
    (replaced key entries entry).map key = (entries.map key).erase (key entry) ++ [key entry] := by
  rw [replaced,map_append,distinct.erase_eq_filter,filter_map]
  rfl

theorem length_replaced (entry : α) (distinct : (entries.map key).Nodup) : (replaced key entries entry).length =
    if key entry ∈ entries.map key then entries.length else entries.length + 1 := by
  have length := congrArg length (replaced_keys entry distinct)
  rw [length_map,length_append,length_erase,length_map] at length
  rw [length]
  split
  · next among => exact Nat.sub_add_cancel (length_map key ▸ length_pos_of_mem among)
  · rfl

theorem find_replaced (key' : κ) : (replaced key entries entry).find? (key · == key') =
    if key entry = key' then some entry else entries.find? (key · == key') := by
  rw [replaced,find?_append]
  by_cases here : key entry = key'
  · rw [find?_eq_none.mpr (by simp [here])]
    simp [here]
  · rw [find?_filter,if_neg here,find?_singleton,if_neg (by simpa using here),Option.or_none]
    congr 1
    funext other
    by_cases there : key other = key' <;> simp [there,Ne.symm here]

theorem recent_append {first second : List α} (long : limit ≤ second.length) :
    recent limit (first ++ second) = recent limit second := by
  rw [recent,recent,length_append,Nat.add_sub_assoc long,drop_length_add_append]

/-- At most one entry makes room for the new one, so what is beyond the limit stays there. -/
theorem recent_replaced (distinct : (entries.map key).Nodup) :
    recent limit (replaced key entries entry) = recent limit (replaced key (recent limit entries) entry) := by
  by_cases few : entries.length ≤ limit
  · rw [recent.eq_def limit entries,Nat.sub_eq_zero_of_le few,drop_zero]
  · conv_lhs => rw [← take_append_drop (entries.length - limit) entries,replaced,filter_append,append_assoc]
    refine recent_append ?_
    rw [← replaced,length_replaced entry (distinct.sublist ((drop_sublist _ entries).map key)),length_drop]
    split <;> omega

end Ktstr.Library.Latest
