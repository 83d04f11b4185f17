import Mathlib.Algebra.BigOperators.Group.List.Basic

/-! Ways to combine a list of values by a binary operation and by left folds from a
neutral start, nested in any shape. What a commutative monoid sees of the result does
not depend on the shape or on the order of the values. -/
namespace Ktstr.Library.Bracketings

inductive Bracketing (α : Type)
  | leaf (value : α)
  | pair (first second : Bracketing α)
  | fold (parts : List (Bracketing α))

section
variable {α : Type} (op : α → α → α) (unit : α)

mutual
def eval : Bracketing α → α
  | .leaf value => value
  | .pair first second => op (eval first) (eval second)
  | .fold parts => evalFold unit parts
def evalFold (acc : α) : List (Bracketing α) → α
  | [] => acc
  | part::parts => evalFold (op acc (eval part)) parts
end

mutual
def leaves : Bracketing α → List α
  | .leaf value => [value]
  | .pair first second => leaves first ++ leaves second
  | .fold parts => leavesAll parts
def leavesAll : List (Bracketing α) → List α
  | [] => []
  | part::parts => leaves part ++ leavesAll parts
end

mutual
/-- Induction over every shape at once: a relation between a result and the values that
went into it holds for a bracketing if it holds for single values and for the neutral
start and is kept by the operation. -/
theorem eval_induction (relates : α → List α → Prop) (start : relates unit [])
    (single : ∀ value, relates value [value])
    (joins : ∀ first second these those, relates first these → relates second those →
      relates (op first second) (these ++ those)) :
    (shape : Bracketing α) → relates (eval op unit shape) (leaves shape)
  | .leaf value => by
    rw [eval,leaves]
    exact single value
  | .pair first second => by
    rw [eval,leaves]
    exact joins _ _ _ _ (eval_induction relates start single joins first)
      (eval_induction relates start single joins second)
  | .fold parts => by
    rw [eval,leaves]
    exact evalFold_induction relates start single joins parts unit [] start
theorem evalFold_induction (relates : α → List α → Prop) (start : relates unit [])
    (single : ∀ value, relates value [value])
    (joins : ∀ first second these those, relates first these → relates second those →
      relates (op first second) (these ++ those)) :
    (parts : List (Bracketing α)) → (acc : α) → (seen : List α) → relates acc seen →
      relates (evalFold op unit acc parts) (seen ++ leavesAll parts)
  | [],acc,seen,sofar => by
    rw [evalFold,leavesAll,List.append_nil]
    exact sofar
  | part::parts,acc,seen,sofar => by
    rw [evalFold,leavesAll,← List.append_assoc]
    exact evalFold_induction relates start single joins parts _ _
      (joins _ _ _ _ sofar (eval_induction relates start single joins part))
end

theorem view_eval {M : Type} [CommMonoid M] {view : α → M} (neutral : view unit = 1)
    (joins : ∀ first second, view (op first second) = view first * view second) (shape : Bracketing α) :
    view (eval op unit shape) = ((leaves shape).map view).prod := by
  apply eval_induction op unit (fun result values => view result = (values.map view).prod)
  · simpa using neutral
  · intro value
    simp
  · intro first second these those left right
    rw [joins,left,right,List.map_append,List.prod_append]

theorem view_perm {M : Type} [CommMonoid M] (view : α → M) (neutral : view unit = 1)
    (joins : ∀ first second, view (op first second) = view first * view second)
    {one other : Bracketing α} (same : (leaves one).Perm (leaves other)) :
    view (eval op unit one) = view (eval op unit other) := by
  rw [view_eval op unit neutral joins,view_eval op unit neutral joins]
  exact (same.map view).prod_eq

end

end Ktstr.Library.Bracketings
