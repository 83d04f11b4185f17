import Mathlib.Data.List.Basic
import Mathlib.Data.List.Induction

/-! Ordered maps: folding the entries of one map into another, one entry at a time. -/
namespace Ktstr.Library.Maps
open List Std LawfulEqCmp

variable {α β : Type} {cmp : α → α → Ordering} [TransCmp cmp] [LawfulEqCmp cmp]

/-- Updates the entry at every key of the second map, given the old value and the new. -/
def foldInto (update : α → Option β → β → β) (into other : ExtTreeMap α β cmp) : ExtTreeMap α β cmp :=
  other.foldl (fun acc key value => acc.alter key fun old => some (update key old value)) into

theorem foldl_alter {update : α → Option β → β → β} {entries : List (α × β)}
    (distinct : entries.Pairwise fun a b => ¬ cmp a.1 b.1 = .eq) (into : ExtTreeMap α β cmp) (key : α) :
    (entries.foldl (fun acc entry => acc.alter entry.1 fun old => some (update entry.1 old entry.2)) into)[key]? =
      match entries.find? fun entry => cmp entry.1 key == .eq with
      | some entry => some (update entry.1 into[key]? entry.2)
      | none => into[key]? := by
  induction entries generalizing into with
  | nil => rfl
  | cons entry entries ih =>
    obtain ⟨apart,rest⟩ := pairwise_cons.mp distinct
    rw [foldl_cons,ih rest,find?_cons,ExtTreeMap.getElem?_alter]
    by_cases here : cmp entry.1 key = .eq
    · have same : entry.1 = key := eq_of_compare here
      have gone : (entries.find? fun other => cmp other.1 key == .eq) = none := by
        rw [find?_eq_none]
        intro other inside found
        exact apart other inside (by rw [same]; exact OrientedCmp.eq_symm (by simpa using found))
      subst same
      simp [gone,here]
    · have off : (cmp entry.1 key == .eq) = false := by simpa using here
      rw [off,if_neg here]

theorem getElem?_foldInto (update : α → Option β → β → β) (into other : ExtTreeMap α β cmp) (key : α) :
    (foldInto update into other)[key]? =
      match other[key]? with
      | some value => some (update key into[key]? value)
      | none => into[key]? := by
  rw [foldInto,ExtTreeMap.foldl_eq_foldl_toList,foldl_alter ExtTreeMap.distinct_keys_toList]
  cases found : other.toList.find? fun entry => cmp entry.1 key == .eq with
  | none =>
    have absent : other[key]? = none := by
      cases there : other[key]? with
      | none => rfl
      | some value =>
        have inside := ExtTreeMap.mem_toList_iff_getElem?_eq_some.mpr there
        have other : ¬ cmp key key = .eq := by simpa using find?_eq_none.mp found _ inside
        exact absurd ReflCmp.compare_self other
    rw [absent]
  | some entry =>
    have same : entry.1 = key := by simpa using find?_some found
    have there := ExtTreeMap.mem_toList_iff_getElem?_eq_some.mp (mem_of_find?_eq_some found)
    rw [← same,there]

theorem getElem?_foldl_insert {step : ExtTreeMap α β cmp → α → β → β} (update : Option β → β → β)
    (updates : ∀ acc key value, step acc key value = update acc[key]? value) {into other : ExtTreeMap α β cmp} {key : α} :
    (other.foldl (fun acc key value => acc.insert key (step acc key value)) into)[key]? =
      match other[key]? with
      | some value => some (update into[key]? value)
      | none => into[key]? := by
  rw [← getElem?_foldInto fun _ => update]
  refine congrArg (fun step => (other.foldl step into)[key]?)
    (funext fun acc => funext fun key => funext fun value => ExtTreeMap.ext_getElem? fun other => ?_)
  rw [ExtTreeMap.getElem?_insert,ExtTreeMap.getElem?_alter,updates]

theorem toList_eq_map_keys {entries : ExtTreeMap α β cmp} {value : α → β}
    (known : ∀ key found, entries[key]? = some found → found = value key) :
    entries.toList = entries.keys.map fun key => (key,value key) := by
  rw [← ExtTreeMap.map_fst_toList_eq_keys,map_map]
  conv_lhs => rw [← map_id entries.toList]
  refine map_congr_left fun entry inside => ?_
  have there := ExtTreeMap.mem_toList_iff_getElem?_eq_some.mp (show (entry.1,entry.2) ∈ entries.toList from inside)
  exact Prod.ext rfl (known entry.1 entry.2 there)

theorem keys_nodup {entries : ExtTreeMap α β cmp} : entries.keys.Nodup :=
  ExtTreeMap.distinct_keys.imp fun apart same => apart (by rw [same]; exact ReflCmp.compare_self)

theorem mem_of_getElem?_ofList {entries : List (α × β)} {key : α} {value : β}
    (found : (ExtTreeMap.ofList entries cmp)[key]? = some value) : (key,value) ∈ entries := by
  induction entries using List.reverseRecOn with
  | nil => simp at found
  | append_singleton entries entry ih =>
    rw [ExtTreeMap.ofList_eq_foldl,foldl_concat,ExtTreeMap.getElem?_insert] at found
    split at found
    next same =>
      have here : entry = (key,value) := Prod.ext (eq_of_compare same) (Option.some.inj found)
      exact mem_append_right _ (here ▸ mem_cons_self)
    next =>
      refine mem_append_left _ (ih ?_)
      rw [ExtTreeMap.ofList_eq_foldl]
      exact found

theorem getElem?_ofList_iff {entries : List (α × β)} (distinct : entries.Pairwise fun a b => a.1 ≠ b.1) {key : α} {value : β} :
    (ExtTreeMap.ofList entries cmp)[key]? = some value ↔ (key,value) ∈ entries := by
  constructor
  · exact mem_of_getElem?_ofList
  · intro member
    refine ExtTreeMap.getElem?_ofList_of_mem ReflCmp.compare_self (distinct.imp ?_) member
    intro first second apart same
    exact apart (eq_of_compare same)

def buckets {ρ : Type} (keyOf : ρ → α) (valueOf : ρ → β) (rows : List ρ) : ExtTreeMap α (List β) cmp :=
  rows.foldl (fun held row => held.alter (keyOf row) fun old => some (old.getD [] ++ [valueOf row])) ∅

theorem getElem?_buckets {ρ : Type} {keyOf : ρ → α} (valueOf : ρ → β) (rows : List ρ) (key : α) :
    (buckets keyOf valueOf rows : ExtTreeMap α (List β) cmp)[key]?.getD [] =
      (rows.filter fun row => cmp (keyOf row) key == .eq).map valueOf := by
  unfold buckets
  induction rows using List.reverseRecOn with
  | nil => simp
  | append_singleton rows row ih =>
    rw [foldl_concat,ExtTreeMap.getElem?_alter,filter_append,map_append,← ih]
    by_cases here : cmp (keyOf row) key = .eq
    · have same : keyOf row = key := eq_of_compare here
      subst same
      simp [here]
    · simp [here]

end Ktstr.Library.Maps
