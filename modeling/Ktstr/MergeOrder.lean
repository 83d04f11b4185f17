import Ktstr.Library.Bracketings
import Ktstr.Source.Results
import Mathlib.Data.Multiset.AddSub

/-! Merging assertion results in any order and any nesting of merges and `allOf` gives the
same aggregate. The fields concerned form a commutative monoid with the empty pass as its
unit; the CPU of the worst gap is only known to belong to a worst input. -/
namespace Ktstr.MergeOrder
open List Std Library.Maps Library.Bracketings Source.Results AssertResult

/-- What an aggregate says apart from the order of its lists and the CPU of its worst gap. -/
@[ext]
structure Summary where
  passed : Bool
  details : Multiset AssertDetail
  cgroups : Multiset CgroupStats
  totalWorkers : Nat
  totalCpus : Nat
  totalMigrations : Nat
  totalIterations : Nat
  worstSpread : ℚ≥0
  worstGapMs : Nat
  worstMigrationRatio : ℚ≥0
  worstP99WakeLatencyUs : ℚ≥0
  worstMedianWakeLatencyUs : ℚ≥0
  worstWakeLatencyCv : ℚ≥0
  worstMeanRunDelayUs : ℚ≥0
  worstRunDelayUs : ℚ≥0
  worstPageLocality : ℚ≥0
  worstCrossNodeMigrationRatio : ℚ≥0
  worstWakeLatencyTailRatio : ℚ≥0
  worstIterationsPerWorker : ℚ≥0
  extMetrics : MetricMap

def summary (result : AssertResult) : Summary where
  passed := result.passed
  details := result.details
  cgroups := result.stats.cgroups
  totalWorkers := result.stats.totalWorkers
  totalCpus := result.stats.totalCpus
  totalMigrations := result.stats.totalMigrations
  totalIterations := result.stats.totalIterations
  worstSpread := result.stats.worstSpread
  worstGapMs := result.stats.worstGapMs
  worstMigrationRatio := result.stats.worstMigrationRatio
  worstP99WakeLatencyUs := result.stats.worstP99WakeLatencyUs
  worstMedianWakeLatencyUs := result.stats.worstMedianWakeLatencyUs
  worstWakeLatencyCv := result.stats.worstWakeLatencyCv
  worstMeanRunDelayUs := result.stats.worstMeanRunDelayUs
  worstRunDelayUs := result.stats.worstRunDelayUs
  worstPageLocality := result.stats.worstPageLocality
  worstCrossNodeMigrationRatio := result.stats.worstCrossNodeMigrationRatio
  worstWakeLatencyTailRatio := result.stats.worstWakeLatencyTailRatio
  worstIterationsPerWorker := result.stats.worstIterationsPerWorker
  extMetrics := result.stats.extMetrics

variable (first second : Summary)

def Summary.join : Summary where
  passed := first.passed && second.passed
  details := first.details + second.details
  cgroups := first.cgroups + second.cgroups
  totalWorkers := first.totalWorkers + second.totalWorkers
  totalCpus := first.totalCpus + second.totalCpus
  totalMigrations := first.totalMigrations + second.totalMigrations
  totalIterations := first.totalIterations + second.totalIterations
  worstSpread := max first.worstSpread second.worstSpread
  worstGapMs := max first.worstGapMs second.worstGapMs
  worstMigrationRatio := max first.worstMigrationRatio second.worstMigrationRatio
  worstP99WakeLatencyUs := max first.worstP99WakeLatencyUs second.worstP99WakeLatencyUs
  worstMedianWakeLatencyUs := max first.worstMedianWakeLatencyUs second.worstMedianWakeLatencyUs
  worstWakeLatencyCv := max first.worstWakeLatencyCv second.worstWakeLatencyCv
  worstMeanRunDelayUs := max first.worstMeanRunDelayUs second.worstMeanRunDelayUs
  worstRunDelayUs := max first.worstRunDelayUs second.worstRunDelayUs
  worstPageLocality := foldLowestNonzero first.worstPageLocality second.worstPageLocality
  worstCrossNodeMigrationRatio := max first.worstCrossNodeMigrationRatio second.worstCrossNodeMigrationRatio
  worstWakeLatencyTailRatio := max first.worstWakeLatencyTailRatio second.worstWakeLatencyTailRatio
  worstIterationsPerWorker := foldLowestNonzero first.worstIterationsPerWorker second.worstIterationsPerWorker
  extMetrics := foldInto worseMetric first.extMetrics second.extMetrics

theorem foldLowestNonzero_eq (first second : ℚ≥0) :
    foldLowestNonzero first second =
      if first = 0 then second else if second = 0 then first else min first second := by
  unfold foldLowestNonzero
  by_cases noFirst : first = 0
  · by_cases noSecond : second = 0
    · simp [noSecond]
    · simp [noFirst,noSecond]
  · by_cases noSecond : second = 0
    · simp [noSecond]
    · by_cases below : second < first
      · simp [noSecond,below,min_eq_right below.le]
      · simp [noFirst,below,min_eq_left (le_of_not_gt below)]

theorem foldLowestNonzero_comm {first second : ℚ≥0} :
    foldLowestNonzero first second = foldLowestNonzero second first := by
  rw [foldLowestNonzero_eq,foldLowestNonzero_eq,min_comm]
  split_ifs <;> simp_all

theorem foldLowestNonzero_assoc {first second third : ℚ≥0} :
    foldLowestNonzero (foldLowestNonzero first second) third =
      foldLowestNonzero first (foldLowestNonzero second third) := by
  simp only [foldLowestNonzero_eq]
  by_cases noFirst : first = 0
  · simp [noFirst]
  by_cases noSecond : second = 0
  · simp [noFirst,noSecond]
  by_cases noThird : third = 0
  · simp [noFirst,noSecond,noThird]
  simp [noFirst,noSecond,noThird,min_assoc]

variable (name : String)

def worse : Option ℚ → Option ℚ → Option ℚ
  | old,some value => some (worseMetric name old value)
  | old,none => old

theorem getElem?_merge (first second : MetricMap) (name : String) :
    (foldInto worseMetric first second)[name]? = worse name first[name]? second[name]? := by
  rw [getElem?_foldInto]
  cases second[name]? <;> rfl

theorem worse_comm (first second : Option ℚ) : worse name first second = worse name second first := by
  cases first <;> cases second <;> simp [worse,worseMetric,max_comm,min_comm]

theorem worse_assoc (first second third : Option ℚ) :
    worse name (worse name first second) third = worse name first (worse name second third) := by
  cases first <;> cases second <;> cases third <;> simp only [worse,worseMetric] <;>
    split <;> simp [max_assoc,min_assoc]

theorem join_comm : first.join second = second.join first := by
  ext1 <;> simp only [Summary.join]
  case passed => exact Bool.and_comm _ _
  case details | cgroups => exact Multiset.add_comm _ _
  case extMetrics =>
    refine ExtTreeMap.ext_getElem? fun name => ?_
    rw [getElem?_merge,getElem?_merge,worse_comm]
  case worstPageLocality | worstIterationsPerWorker => exact foldLowestNonzero_comm
  all_goals first | exact max_comm _ _ | exact Nat.add_comm _ _

theorem join_assoc (third : Summary) : (first.join second).join third = first.join (second.join third) := by
  ext1 <;> simp only [Summary.join]
  case passed => exact Bool.and_assoc _ _ _
  case details | cgroups => exact Multiset.add_assoc _ _ _
  case extMetrics =>
    refine ExtTreeMap.ext_getElem? fun name => ?_
    simp only [getElem?_merge,worse_assoc]
  case worstPageLocality | worstIterationsPerWorker => exact foldLowestNonzero_assoc
  all_goals first | exact max_assoc _ _ _ | exact Nat.add_assoc _ _ _

theorem join_pass : first.join (summary .pass) = first := by
  ext1 <;> simp only [Summary.join,summary,AssertResult.pass]
  case passed => exact Bool.and_true _
  case extMetrics =>
    rfl
  case worstPageLocality | worstIterationsPerWorker => simp [foldLowestNonzero]
  all_goals simp

instance : CommMonoid Summary where
  mul := Summary.join
  one := summary .pass
  mul_assoc := join_assoc
  mul_comm := join_comm
  mul_one := join_pass
  one_mul value := (join_comm _ _).trans (join_pass value)

theorem summary_merge (first second : AssertResult) :
    summary (first.merge second) = summary first * summary second := by
  change _ = (summary first).join (summary second)
  ext1 <;> simp only [summary,AssertResult.merge,mergeStats,Summary.join]
  case passed => cases first.passed <;> cases second.passed <;> rfl
  case worstGapMs => exact max_def_lt _ _ |>.symm
  case details | cgroups => exact (Multiset.coe_add _ _).symm


def aggregate (shape : Bracketing AssertResult) : AssertResult := eval AssertResult.merge AssertResult.pass shape

theorem aggregate_evalFold (parts : List (Bracketing AssertResult)) (acc : AssertResult) :
    evalFold merge pass acc parts = (parts.map aggregate).foldl merge acc := by
  induction parts generalizing acc with
  | nil => rfl
  | cons part parts ih =>
    rw [evalFold,ih]
    rfl

theorem aggregate_fold (parts : List (Bracketing AssertResult)) :
    aggregate (.fold parts) = allOf (parts.map aggregate) := by
  rw [aggregate,eval,aggregate_evalFold]
  rfl

/-- The worst gap bounds every input's gap, and a positive one comes with the CPU of an
input that posted it. -/
structure GapTraced (result : AssertResult) (inputs : List AssertResult) : Prop where
  bounds : ∀ input ∈ inputs, input.stats.worstGapMs ≤ result.stats.worstGapMs
  posted : 0 < result.stats.worstGapMs → ∃ input ∈ inputs,
    input.stats.worstGapMs = result.stats.worstGapMs ∧ input.stats.worstGapCpu = result.stats.worstGapCpu

theorem GapTraced.merge {first second : AssertResult} {these those : List AssertResult}
    (left : GapTraced first these) (right : GapTraced second those) :
    GapTraced (first.merge second) (these ++ those) := by
  by_cases later : second.stats.worstGapMs > first.stats.worstGapMs
  · refine ⟨fun input inside => ?_,fun positive => ?_⟩
    · simp only [AssertResult.merge,mergeStats,if_pos later]
      rcases mem_append.mp inside with here | here
      · exact (left.bounds input here).trans later.le
      · exact right.bounds input here
    · simp only [AssertResult.merge,mergeStats,if_pos later] at positive ⊢
      obtain ⟨input,inside,posted⟩ := right.posted positive
      exact ⟨input,mem_append_right _ inside,posted⟩
  · refine ⟨fun input inside => ?_,fun positive => ?_⟩
    · simp only [AssertResult.merge,mergeStats,if_neg later]
      rcases mem_append.mp inside with here | here
      · exact left.bounds input here
      · exact (right.bounds input here).trans (le_of_not_gt later)
    · simp only [AssertResult.merge,mergeStats,if_neg later] at positive ⊢
      obtain ⟨input,inside,posted⟩ := left.posted positive
      exact ⟨input,mem_append_left _ inside,posted⟩

theorem gapTraced_aggregate (shape : Bracketing AssertResult) : GapTraced (aggregate shape) (leaves shape) := by
  apply eval_induction merge pass GapTraced
  · exact ⟨fun _ inside => absurd inside not_mem_nil,fun positive => absurd positive (lt_irrefl 0)⟩
  · intro value
    refine ⟨fun input inside => ?_,fun _ => ⟨value,mem_singleton_self value,rfl,rfl⟩⟩
    rw [mem_singleton.mp inside]
  · intro first second these those left right
    exact left.merge right

/-- Two nestings of the same results, in any order, agree on all but the order of lists and
the CPU of the worst gap; that CPU belongs to an input whose gap is the largest of all. -/
theorem aggregate_order_irrelevant (one other : Bracketing AssertResult) (same : (leaves one).Perm (leaves other)) :
    summary (aggregate one) = summary (aggregate other) ∧
      ((∃ input ∈ leaves one, 0 < input.stats.worstGapMs) → ∃ input ∈ leaves one,
        (∀ rival ∈ leaves one, rival.stats.worstGapMs ≤ input.stats.worstGapMs) ∧
          input.stats.worstGapCpu = (aggregate one).stats.worstGapCpu) := by
  refine ⟨view_perm _ _ summary rfl summary_merge same,fun gap => ?_⟩
  have traced := gapTraced_aggregate one
  obtain ⟨some_gap,inside,positive⟩ := gap
  obtain ⟨input,member,gapMs,gapCpu⟩ := traced.posted (positive.trans_le (traced.bounds some_gap inside))
  refine ⟨input,member,fun rival among => ?_,gapCpu⟩
  rw [gapMs]
  exact traced.bounds rival among

def slowCpu : AssertResult :=
  { AssertResult.pass with
    passed := false
    details := [⟨.stuck,"stuck 90ms on cpu3"⟩]
    stats := { totalWorkers := 2, worstGapMs := 90, worstGapCpu := 3, worstPageLocality := 1 / 2 } }

def quietCpu : AssertResult :=
  { AssertResult.pass with stats := { totalWorkers := 4, worstGapMs := 10, worstGapCpu := 1 } }

/-- One merge against a nested fold of the same two results in the other order. -/
theorem aggregate_swapped_fold :
    [slowCpu,quietCpu].Perm [quietCpu,slowCpu] ∧
      summary (aggregate (.pair (.leaf slowCpu) (.leaf quietCpu))) =
        summary (aggregate (.fold [.leaf quietCpu,.fold [.leaf slowCpu]])) ∧
      ∃ input ∈ [slowCpu,quietCpu],
        (∀ rival ∈ [slowCpu,quietCpu], rival.stats.worstGapMs ≤ input.stats.worstGapMs) ∧
          input.stats.worstGapCpu = (aggregate (.pair (.leaf slowCpu) (.leaf quietCpu))).stats.worstGapCpu := by
  have swapped : [slowCpu,quietCpu].Perm [quietCpu,slowCpu] := List.Perm.swap _ _ _
  have both := aggregate_order_irrelevant (.pair (.leaf slowCpu) (.leaf quietCpu))
    (.fold [.leaf quietCpu,.fold [.leaf slowCpu]]) swapped
  exact ⟨swapped,both.1,both.2 ⟨slowCpu,mem_cons_self,by decide⟩⟩

end Ktstr.MergeOrder
