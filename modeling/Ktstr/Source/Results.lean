import Mathlib.Data.List.Infix
import Ktstr.Library.Maps
import Mathlib.Data.NNRat.Floor

/-! Aggregation of assertion results, from `assert/mod.rs`, with the metric polarities of
`stats.rs`. Scenario statistics are exact and non-negative; totals do not overflow. -/
namespace Ktstr.Source.Results
open Std Library.Maps

inductive DetailKind
  | starved
  | stuck
  | unfair
  | isolation
  | benchmark
  | migration
  | pageLocality
  | crossNodeMigration
  | slowTier
  | monitor
  | schedulerDied
  | schedulerEvent
  | temporal
  | skip
  | note
  | other
deriving DecidableEq

structure AssertDetail where
  kind : DetailKind
  message : String
deriving DecidableEq

inductive NoteValue
  | int (value : Int)
  | uint (value : Nat)
  | float (value : ℚ)
  | bool (value : Bool)
  | text (value : String)

abbrev MetricMap := ExtTreeMap String ℚ

structure CgroupStats where
  numWorkers : Nat
  numCpus : Nat
  avgOffCpuPct : ℚ
  minOffCpuPct : ℚ
  maxOffCpuPct : ℚ
  spread : ℚ
  maxGapMs : Nat
  maxGapCpu : Nat
  totalMigrations : Nat
  migrationRatio : ℚ
  p99WakeLatencyUs : ℚ
  medianWakeLatencyUs : ℚ
  wakeLatencyCv : ℚ
  totalIterations : Nat
  meanRunDelayUs : ℚ
  worstRunDelayUs : ℚ
  pageLocality : ℚ
  crossNodeMigrationRatio : ℚ
  extMetrics : MetricMap

structure ScenarioStats where
  cgroups : List CgroupStats := []
  totalWorkers : Nat := 0
  totalCpus : Nat := 0
  totalMigrations : Nat := 0
  totalIterations : Nat := 0
  worstSpread : ℚ≥0 := 0
  worstGapMs : Nat := 0
  worstGapCpu : Nat := 0
  worstMigrationRatio : ℚ≥0 := 0
  worstP99WakeLatencyUs : ℚ≥0 := 0
  worstMedianWakeLatencyUs : ℚ≥0 := 0
  worstWakeLatencyCv : ℚ≥0 := 0
  worstMeanRunDelayUs : ℚ≥0 := 0
  worstRunDelayUs : ℚ≥0 := 0
  worstPageLocality : ℚ≥0 := 0
  worstCrossNodeMigrationRatio : ℚ≥0 := 0
  worstWakeLatencyTailRatio : ℚ≥0 := 0
  worstIterationsPerWorker : ℚ≥0 := 0
  extMetrics : MetricMap := ∅

structure AssertResult where
  passed : Bool
  skipped : Bool
  details : List AssertDetail
  stats : ScenarioStats
  measurements : ExtTreeMap String NoteValue

def AssertResult.pass : AssertResult := ⟨true,false,[],{},∅⟩

def AssertResult.skip (reason : String) : AssertResult := ⟨true,true,[⟨.skip,reason⟩],{},∅⟩

def AssertResult.fail (detail : AssertDetail) : AssertResult := ⟨false,false,[detail],{},∅⟩

def AssertResult.note (self : AssertResult) (message : String) : AssertResult :=
  {self with details := self.details ++ [⟨.note,message⟩]}

/-- The lowest reading that is not the zero of an unreported one. -/
def foldLowestNonzero (selfField otherField : ℚ≥0) : ℚ≥0 :=
  if otherField > 0 ∧ (selfField = 0 ∨ otherField < selfField) then otherField else selfField

inductive Polarity
  | higherBetter
  | lowerBetter
deriving DecidableEq

def metrics : List (String × Polarity) :=
  [("worst_spread",.lowerBetter),("worst_gap_ms",.lowerBetter),("total_migrations",.lowerBetter),
    ("worst_migration_ratio",.lowerBetter),("max_imbalance_ratio",.lowerBetter),("max_dsq_depth",.lowerBetter),
    ("stuck_count",.lowerBetter),("total_fallback",.lowerBetter),("total_keep_last",.lowerBetter),
    ("worst_p99_wake_latency_us",.lowerBetter),("worst_median_wake_latency_us",.lowerBetter),
    ("worst_wake_latency_cv",.lowerBetter),("total_iterations",.higherBetter),
    ("worst_mean_run_delay_us",.lowerBetter),("worst_run_delay_us",.lowerBetter),
    ("worst_wake_latency_tail_ratio",.lowerBetter),("worst_iterations_per_worker",.higherBetter),
    ("worst_page_locality",.higherBetter),("worst_cross_node_migration_ratio",.lowerBetter)]

def metricDef (name : String) : Option Polarity := (metrics.find? fun metric => metric.1 == name).map Prod.snd

def higherIsWorseTokens : List String :=
  ["latency","delay","_gap","stall","stuck","_cv","error","fail","drop","spread","_us","_ms","_ns",
    "migration_ratio","imbalance"]

def higherIsBetterTokens : List String :=
  ["iops","throughput","bandwidth","iterations","ops_per_sec","locality","_score","goodput"]

def containsToken (name token : String) : Bool := decide (token.toList <:+: name.toList)

def inferHigherIsWorse (name : String) : Bool :=
  if higherIsWorseTokens.any (containsToken name) then true
  else if higherIsBetterTokens.any (containsToken name) then false
  else true

def higherIsWorse (name : String) : Bool :=
  match metricDef name with
  | some polarity => polarity == .lowerBetter
  | none => inferHigherIsWorse name

def worseMetric (name : String) (old : Option ℚ) (value : ℚ) : ℚ :=
  if higherIsWorse name then max (old.getD value) value else min (old.getD value) value

def mergeStats (s o : ScenarioStats) : ScenarioStats where
  totalWorkers := s.totalWorkers + o.totalWorkers
  totalCpus := s.totalCpus + o.totalCpus
  totalMigrations := s.totalMigrations + o.totalMigrations
  totalIterations := s.totalIterations + o.totalIterations
  worstSpread := max s.worstSpread o.worstSpread
  worstMigrationRatio := max s.worstMigrationRatio o.worstMigrationRatio
  worstP99WakeLatencyUs := max s.worstP99WakeLatencyUs o.worstP99WakeLatencyUs
  worstMedianWakeLatencyUs := max s.worstMedianWakeLatencyUs o.worstMedianWakeLatencyUs
  worstWakeLatencyCv := max s.worstWakeLatencyCv o.worstWakeLatencyCv
  worstRunDelayUs := max s.worstRunDelayUs o.worstRunDelayUs
  worstMeanRunDelayUs := max s.worstMeanRunDelayUs o.worstMeanRunDelayUs
  worstCrossNodeMigrationRatio := max s.worstCrossNodeMigrationRatio o.worstCrossNodeMigrationRatio
  worstWakeLatencyTailRatio := max s.worstWakeLatencyTailRatio o.worstWakeLatencyTailRatio
  worstIterationsPerWorker := foldLowestNonzero s.worstIterationsPerWorker o.worstIterationsPerWorker
  -- The CPU travels with the gap it belongs to.
  worstGapMs := if o.worstGapMs > s.worstGapMs then o.worstGapMs else s.worstGapMs
  worstGapCpu := if o.worstGapMs > s.worstGapMs then o.worstGapCpu else s.worstGapCpu
  worstPageLocality := foldLowestNonzero s.worstPageLocality o.worstPageLocality
  extMetrics := foldInto worseMetric s.extMetrics o.extMetrics
  cgroups := s.cgroups ++ o.cgroups

def AssertResult.merge (self other : AssertResult) : AssertResult where
  passed := if !other.passed then false else self.passed
  skipped := self.skipped && other.skipped
  details := self.details ++ other.details
  stats := mergeStats self.stats other.stats
  measurements := foldInto (fun _ _ value => value) self.measurements other.measurements

def AssertResult.allOf (branches : List AssertResult) : AssertResult :=
  branches.foldl AssertResult.merge AssertResult.pass

/-- `Vec::swap_remove`: the last element takes the place of the removed one. -/
def swapRemove {α : Type} (items : List α) (index : Nat) : List α :=
  match items.getLast? with
  | some last => (items.set index last).dropLast
  | none => []

def AssertResult.satisfied (self : AssertResult) : Bool := self.passed && !self.skipped

/-- Every entry is inserted, one that is there already overwritten. -/
def writeAll (into other : ExtTreeMap String NoteValue) : ExtTreeMap String NoteValue :=
  foldInto (fun _ _ value => value) into other

def branchDetail (index : Nat) (detail : AssertDetail) : AssertDetail :=
  ⟨detail.kind,String.join ["any_of[",toString index,"]: ",detail.message]⟩

def AssertResult.anyOf (branches : List AssertResult) : AssertResult :=
  match branches with
  | [] => .fail ⟨.other,"any_of: empty branch list — a disjunction of zero alternatives is logically false"⟩
  | first :: rest =>
    match branches.findIdx? AssertResult.satisfied with
    | some index =>
      let chosen := branches.getD index .pass
      let others := swapRemove branches index
      let measured := others.foldl (fun acc b => if b.satisfied then writeAll acc b.measurements else acc)
        chosen.measurements
      AssertResult.note {chosen with measurements := measured}
        (String.join ["any_of: branch ",toString index," satisfied the disjunction"])
    | none =>
      { passed := false
        skipped := false
        details := first.details.map (branchDetail 0) ++
          (rest.zipIdx 1).flatMap (fun entry => entry.1.details.map (branchDetail entry.2)) ++
          [⟨.other,String.join ["any_of: all ",toString branches.length," branches failed"]⟩]
        stats := first.stats
        measurements := first.measurements }

end Ktstr.Source.Results
