import Mathlib.Algebra.Order.Ring.Rat
import Mathlib.Data.Finset.Card
import Mathlib.Data.List.Sort
import Mathlib.Data.String.Basic

/-! Selection of tests under a time budget, from `budget.rs`. Costs and ratios are exact. -/
namespace Ktstr.Source.Budget

structure TestCandidate where
  name : String
  features : BitVec 64
  estimatedSecs : ℚ
deriving DecidableEq

def countOnes (bits : BitVec 64) : Nat := ((Finset.range 64).filter fun i => bits.getLsbD i = true).card

def marginal (covered : BitVec 64) (c : TestCandidate) : Nat := countOnes (c.features &&& ~~~covered)

def ratio (covered : BitVec 64) (c : TestCandidate) : ℚ :=
  if c.estimatedSecs > 0 then marginal covered c / c.estimatedSecs else marginal covered c * 1000000

structure Picking where
  selected : List Nat := []
  used : List Bool
  covered : BitVec 64 := 0#64
  remainingBudget : ℚ

structure Best where
  idx : Option Nat := none
  ratio : ℚ := 0
  name : String := ""

def consider (state : Picking) (best : Best) (entry : TestCandidate × Nat) : Best :=
  let (c,i) := entry
  if state.used.getD i false = true ∨ c.estimatedSecs > state.remainingBudget then best
  else if marginal state.covered c = 0 then best
  else
    let r := ratio state.covered c
    if r > best.ratio ∨ r = best.ratio ∧ c.name < best.name then ⟨some i,r,c.name⟩ else best

variable (candidates : List TestCandidate) (state : Picking)

def findBest : Option Nat :=
  (candidates.zipIdx.foldl (consider state) {}).idx

def take (i : Nat) : Picking :=
  let c := candidates.getD i ⟨"",0#64,0⟩
  { selected := state.selected ++ [i]
    used := state.used.set i true
    covered := state.covered ||| c.features
    remainingBudget := state.remainingBudget - c.estimatedSecs }

/-- The loop of `select`. Every turn uses up a candidate: it takes no more turns than there are candidates. -/
def pickLoop (candidates : List TestCandidate) : Nat → Picking → Picking
  | 0,state => state
  | turns + 1,state =>
    match findBest candidates state with
    | some i => pickLoop candidates turns (take candidates state i)
    | none => state

variable (budgetSecs : ℚ)

def opening : Picking :=
  {used := List.replicate candidates.length false,remainingBudget := budgetSecs}

def picks : List Nat :=
  if candidates.isEmpty = true ∨ budgetSecs ≤ 0 then []
  else (pickLoop candidates candidates.length (opening candidates budgetSecs)).selected

def select : List Nat :=
  (picks candidates budgetSecs).insertionSort (· ≤ ·)

structure SelectionStats where
  selected : Nat
  total : Nat
  budgetUsed : ℚ
  budgetTotal : ℚ
  bitsCovered : Nat
  bitsPossible : Nat

def coverage : BitVec 64 :=
  candidates.foldl (fun covered c => covered ||| c.features) 0#64

def totalCost : ℚ := candidates.foldl (fun used c => used + c.estimatedSecs) 0

def selectionStats (selected : List Nat) (budgetSecs : ℚ) : SelectionStats :=
  let chosen := selected.map fun i => candidates.getD i ⟨"",0#64,0⟩
  { selected := selected.length
    total := candidates.length
    budgetUsed := totalCost chosen
    budgetTotal := budgetSecs
    bitsCovered := countOnes (coverage chosen)
    bitsPossible := countOnes (coverage candidates) }

end Ktstr.Source.Budget
