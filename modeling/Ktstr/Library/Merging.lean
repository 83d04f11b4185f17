import Ktstr.Library.Maps
import Mathlib.Data.List.Perm.Basic

/-! Values merged under the key of their row, and maps merged key by key. With a commutative and associative operation
what a key holds depends on its rows alone. -/
namespace Ktstr.Library.Merging
open List Std Maps

variable {α κ β : Type} {cmp : κ → κ → Ordering} [TransCmp cmp] [LawfulEqCmp cmp]

def mergeAt (op : β → β → β) (out : ExtTreeMap κ β cmp) (key : κ) (value : β) : ExtTreeMap κ β cmp :=
  match out[key]? with
  | none => out.insert key value
  | some agg => out.insert key (op agg value)

def mergeMaps (op : κ → β → β → β) (into other : ExtTreeMap κ β cmp) : ExtTreeMap κ β cmp :=
  foldInto (fun key old value => old.elim value (op key · value)) into other

section
variable {op : κ → β → β → β}

theorem getElem?_mergeMaps (into other : ExtTreeMap κ β cmp) (key : κ) :
    (mergeMaps op into other)[key]? = Option.merge (op key) into[key]? other[key]? := by
  rw [mergeMaps,getElem?_foldInto]
  cases into[key]? <;> cases other[key]? <;> rfl

instance [∀ key, Commutative (op key)] : Commutative (mergeMaps op : ExtTreeMap κ β cmp → _ → _) where
  comm first second := by
    apply ExtTreeMap.ext_getElem?
    intro key
    rw [getElem?_mergeMaps,getElem?_mergeMaps]
    exact Commutative.comm _ _

instance [∀ key, Associative (op key)] : Associative (mergeMaps op : ExtTreeMap κ β cmp → _ → _) where
  assoc first second third := by
    apply ExtTreeMap.ext_getElem?
    intro key
    simp only [getElem?_mergeMaps]
    ac_rfl

end

variable [DecidableEq κ] (op : β → β → β) (keyOf : α → κ) (key : κ)

/-- What the rows of one key merge to. -/
def share (held : Option β) (row : α × β) : Option β :=
  if keyOf row.1 = key then held.merge op (some row.2) else held

theorem getElem?_mergeAll (rows : List (α × β)) :
    (rows.foldl (fun out row => mergeAt op out (keyOf row.1) row.2) (∅ : ExtTreeMap κ β cmp))[key]? =
      rows.foldl (share op keyOf key) none := by
  induction rows using List.reverseRecOn with
  | nil => exact ExtTreeMap.getElem?_empty
  | append_singleton rows row ih =>
    rw [foldl_concat,foldl_concat,← ih,share,mergeAt]
    by_cases here : keyOf row.1 = key
    · subst here
      rw [if_pos rfl]
      split
      next none => rw [none,ExtTreeMap.getElem?_insert_self,Option.merge]
      next agg found => rw [found,ExtTreeMap.getElem?_insert_self,Option.merge]
    · have other : ¬ cmp (keyOf row.1) key = .eq := fun same => here (LawfulEqCmp.eq_of_compare same)
      rw [if_neg here]
      split
      · rw [ExtTreeMap.getElem?_insert,if_neg other]
      · rw [ExtTreeMap.getElem?_insert,if_neg other]

theorem share_any {p : β → Bool} (joins : ∀ a b, p (op a b) = (p a || p b)) (rows : List (α × β)) :
    (rows.foldl (share op keyOf key) none).any p = rows.any fun row => decide (keyOf row.1 = key) && p row.2 := by
  induction rows using List.reverseRecOn with
  | nil => rfl
  | append_singleton rows row ih =>
    rw [foldl_concat,any_append,← ih,share]
    split
    next here => cases rows.foldl (share op keyOf key) none <;> simp [here,joins]
    next other => simp [other]

variable [Associative op]

theorem share_append (first second : List (α × β)) : (first ++ second).foldl (share op keyOf key) none =
    Option.merge op (first.foldl (share op keyOf key) none) (second.foldl (share op keyOf key) none) := by
  induction second using List.reverseRecOn with
  | nil => simp
  | append_singleton second row ih =>
    rw [← append_assoc,foldl_concat,foldl_concat,ih,share,share]
    split
    · ac_rfl
    · rfl

variable [Commutative op]

instance : RightCommutative (share op keyOf key) where
  right_comm held first second := by
    unfold share
    split <;> split <;> ac_rfl

theorem share_split (rows : List (α × β)) (side : α → Bool) : rows.foldl (share op keyOf key) none =
    Option.merge op ((rows.filter fun row => side row.1).foldl (share op keyOf key) none)
      ((rows.filter fun row => !side row.1).foldl (share op keyOf key) none) := by
  rw [← share_append]
  exact ((filter_append_perm (fun row : α × β => side row.1) rows).foldl_eq none).symm

end Ktstr.Library.Merging
