import Mathlib.Data.Nat.Bitwise
import Mathlib.Data.Fin.Basic

/-! Radix trees of a fixed width: a slot of a node at some level is empty, a value, or a node
one level down. A key picks one slot per level by its digit there. -/
namespace Ktstr.Library.Radix

section
variable {width : Nat} [NeZero width] {α : Type}

inductive Slot (width : Nat) (α : Type) : Nat → Type
  | empty {level : Nat} : Slot width α level
  | leaf {level : Nat} (value : α) : Slot width α level
  | node {level : Nat} (tag : α) (slots : Fin width → Slot width α level) : Slot width α (level + 1)

def digit (width : Nat) [NeZero width] (level key : Nat) : Fin width := Fin.ofNat width (key / width ^ level)

def Slot.lookup : {level : Nat} → Slot width α level → Nat → Option α
  | _,.empty,_ => none
  | _,.leaf value,_ => some value
  | level + 1,.node _ slots,key => (slots (digit width level key)).lookup key

theorem digit_mod {level height : Nat} (below : level < height) (key : Nat) :
    digit width level (key % width ^ height) = digit width level key := by
  apply Fin.ext
  have split : width ^ height = width ^ level * width ^ (height - level) := by
    rw [← Nat.pow_add,Nat.add_sub_cancel' below.le]
  have factor : width ∣ width ^ (height - level) := dvd_pow_self width (by omega)
  simp only [digit,Fin.ofNat]
  rw [split,Nat.mod_mul_right_div_self,Nat.mod_mod_of_dvd _ factor]

theorem Slot.lookup_mod {level height : Nat} (slot : Slot width α level) (within : level ≤ height) (key : Nat) :
    slot.lookup (key % width ^ height) = slot.lookup key := by
  induction slot with
  | empty => rfl
  | leaf value => rfl
  | node tag slots ih =>
    simp only [Slot.lookup]
    rw [digit_mod (by omega),ih _ (by omega)]

/-- A whole tree: nothing, a single value at key zero, or a root node. -/
inductive Tree (width : Nat) (α : Type)
  | empty
  | direct (value : α)
  | root (tag : α) (level : Nat) (slots : Fin width → Slot width α level)

def Tree.capacity : Tree width α → Option Nat
  | .root _ level _ => some (width ^ (level + 1))
  | _ => none

def Tree.lookup : Tree width α → Nat → Option α
  | .empty,_ => none
  | .direct value,key => if key = 0 then some value else none
  | .root _ level slots,key =>
    if key < width ^ (level + 1) then (slots (digit width level key)).lookup key else none

theorem Tree.capacity_pos {tree : Tree width α} {capacity : Nat} (rooted : tree.capacity = some capacity) :
    0 < capacity := by
  cases tree with
  | empty => cases rooted
  | direct value => cases rooted
  | root tag level slots =>
    cases rooted
    exact Nat.pow_pos (Nat.pos_of_neZero width)

theorem Tree.lookup_beyond {tree : Tree width α} {capacity key : Nat} (rooted : tree.capacity = some capacity)
    (beyond : capacity ≤ key) : tree.lookup key = none := by
  cases tree with
  | empty => cases rooted
  | direct value => cases rooted
  | root tag level slots =>
    cases rooted
    exact if_neg (Nat.not_lt.mpr beyond)

theorem Tree.lookup_folded (tag : α) (level : Nat) (slots : Fin width → Slot width α level) (key : Nat) :
    (Tree.root tag level slots).lookup (key % width ^ (level + 1)) = (slots (digit width level key)).lookup key := by
  have inside : key % width ^ (level + 1) < width ^ (level + 1) :=
    Nat.mod_lt _ (Nat.pow_pos (Nat.pos_of_neZero width))
  rw [Tree.lookup,if_pos inside,digit_mod (Nat.lt_succ_self level),Slot.lookup_mod _ (Nat.le_succ level)]

end

end Ktstr.Library.Radix
