import Ktstr.Library.Grouping
import Ktstr.Library.Machine
import Ktstr.Library.Text
import Ktstr.Library.Words
import Ktstr.Source.Results

/-! Averaging and joining the rows of two runs, from `stats.rs`. Floating-point metrics are
exact; integer sums wrap. -/
namespace Ktstr.Source.Stats
open Std (ExtTreeMap)
open Library.Grouping Library.Machine Library.Words
open Library.Text (stripSuffix)
open Source.Results (Polarity MetricMap containsToken)

structure GauntletRow where
  scenario : String
  topology : String
  workType : String
  scheduler : String
  kernelVersion : Option String := none
  commit : Option String := none
  kernelCommit : Option String := none
  runSource : Option String := none
  passed : Bool
  skipped : Bool
  spread : ℚ := 0
  gapMs : Nat := 0
  migrations : Nat := 0
  migrationRatio : ℚ := 0
  imbalanceRatio : ℚ := 0
  maxDsqDepth : Nat := 0
  stuckCount : Nat := 0
  fallbackCount : Int := 0
  keepLastCount : Int := 0
  worstP99WakeLatencyUs : ℚ := 0
  worstMedianWakeLatencyUs : ℚ := 0
  worstWakeLatencyCv : ℚ := 0
  totalIterations : Nat := 0
  worstMeanRunDelayUs : ℚ := 0
  worstRunDelayUs : ℚ := 0
  worstWakeLatencyTailRatio : ℚ := 0
  worstIterationsPerWorker : ℚ := 0
  pageLocality : ℚ := 0
  crossNodeMigrationRatio : ℚ := 0
  extMetrics : MetricMap := ∅

inductive Dimension
  | kernel
  | scheduler
  | topology
  | workType
  | projectCommit
  | kernelCommit
  | runSource
deriving DecidableEq

def commitPairingKeyPart : Option String → String
  | none => ""
  | some text => (stripSuffix text "-dirty").getD text

abbrev PairingKey := List String

def keyPart (row : GauntletRow) : Dimension → String
  | .kernel => row.kernelVersion.getD ""
  | .scheduler => row.scheduler
  | .topology => row.topology
  | .workType => row.workType
  | .projectCommit => commitPairingKeyPart row.commit
  | .kernelCommit => commitPairingKeyPart row.kernelCommit
  | .runSource => row.runSource.getD ""

def fromRow (row : GauntletRow) (pairingDims : List Dimension) : PairingKey :=
  row.scenario::pairingDims.map (keyPart row)

structure DirtyTracking where
  anyClean : Bool := false
  anyDirty : Bool := false
  firstBase : Option String := none

def updateDirtyTracking (tracking : DirtyTracking) : Option String → DirtyTracking
  | none => tracking
  | some text =>
    match stripSuffix text "-dirty" with
    | some base => {tracking with anyDirty := true,firstBase := some (tracking.firstBase.getD base)}
    | none => {tracking with anyClean := true,firstBase := some (tracking.firstBase.getD text)}

def renderMixedDirty (tracking : DirtyTracking) (firstCommit : Option String) : Option String :=
  match tracking.anyClean && tracking.anyDirty,tracking.firstBase with
  | true,some base => some (base ++ "+mixed")
  | _,_ => firstCommit

structure Accumulator where
  first : GauntletRow
  totalObserved : Nat := 0
  passesObserved : Nat := 0
  anySkipped : Bool := false
  anyFailed : Bool := false
  project : DirtyTracking := {}
  kernel : DirtyTracking := {}
  sumSpread : ℚ := 0
  sumGapMs : Nat := 0
  sumMigrations : Nat := 0
  sumMigrationRatio : ℚ := 0
  sumImbalanceRatio : ℚ := 0
  sumMaxDsqDepth : Nat := 0
  sumStuckCount : Nat := 0
  sumFallbackCount : Int := 0
  sumKeepLastCount : Int := 0
  sumP99Wake : ℚ := 0
  sumMedianWake : ℚ := 0
  sumWakeCv : ℚ := 0
  sumTotalIterations : Nat := 0
  sumMeanRunDelay : ℚ := 0
  sumRunDelay : ℚ := 0
  sumTailRatio : ℚ := 0
  sumItersPerWorker : ℚ := 0
  sumPageLocality : ℚ := 0
  sumCrossNodeMig : ℚ := 0
  extSums : ExtTreeMap String (ℚ × Nat) := ∅

variable (acc : Accumulator) (row : GauntletRow)

def observe : Accumulator :=
  {acc with
    totalObserved := (acc.totalObserved + 1) % 2 ^ 32,project := updateDirtyTracking acc.project row.commit,
    kernel := updateDirtyTracking acc.kernel row.kernelCommit}

def addExtMetrics (sums : ExtTreeMap String (ℚ × Nat)) (metrics : MetricMap) : ExtTreeMap String (ℚ × Nat) :=
  metrics.foldl (fun sums name value =>
    let entry := sums[name]?.getD (0,0)
    sums.insert name (entry.1 + value,(entry.2 + 1) % 2 ^ 32)) sums

def addMetrics : Accumulator :=
  {acc with
    passesObserved := (acc.passesObserved + 1) % 2 ^ 32
    sumSpread := acc.sumSpread + row.spread
    sumGapMs := wrappingAdd acc.sumGapMs row.gapMs
    sumMigrations := wrappingAdd acc.sumMigrations row.migrations
    sumMigrationRatio := acc.sumMigrationRatio + row.migrationRatio
    sumImbalanceRatio := acc.sumImbalanceRatio + row.imbalanceRatio
    sumMaxDsqDepth := wrappingAdd acc.sumMaxDsqDepth row.maxDsqDepth
    sumStuckCount := wrappingAdd acc.sumStuckCount row.stuckCount
    sumFallbackCount := wrapI64 (acc.sumFallbackCount + row.fallbackCount)
    sumKeepLastCount := wrapI64 (acc.sumKeepLastCount + row.keepLastCount)
    sumP99Wake := acc.sumP99Wake + row.worstP99WakeLatencyUs
    sumMedianWake := acc.sumMedianWake + row.worstMedianWakeLatencyUs
    sumWakeCv := acc.sumWakeCv + row.worstWakeLatencyCv
    sumTotalIterations := wrappingAdd acc.sumTotalIterations row.totalIterations
    sumMeanRunDelay := acc.sumMeanRunDelay + row.worstMeanRunDelayUs
    sumRunDelay := acc.sumRunDelay + row.worstRunDelayUs
    sumTailRatio := acc.sumTailRatio + row.worstWakeLatencyTailRatio
    sumItersPerWorker := acc.sumItersPerWorker + row.worstIterationsPerWorker
    sumPageLocality := acc.sumPageLocality + row.pageLocality
    sumCrossNodeMig := acc.sumCrossNodeMig + row.crossNodeMigrationRatio
    extSums := addExtMetrics acc.extSums row.extMetrics}

/-- One row of a group. Commits are tracked for every row, metrics only for those that
passed. -/
def contribute : Accumulator :=
  let acc := observe acc row
  if row.skipped then {acc with anySkipped := true}
  else if !row.passed then {acc with anyFailed := true}
  else addMetrics acc row

structure AveragedGroup where
  row : GauntletRow
  passesObserved : Nat
  totalObserved : Nat

def round (value : ℚ) : Int := if 0 ≤ value then (value + 1 / 2).floor else -(-value + 1 / 2).floor

def toUnsigned (bound : Nat) (value : Int) : Nat := min value.toNat bound

def average : AveragedGroup :=
  let n := acc.passesObserved
  let denom : ℚ := if n = 0 then 1 else n
  let roundU32 (sum : Nat) : Nat := toUnsigned (2 ^ 32 - 1) (round (sum / denom))
  let roundU64 (sum : Nat) : Nat := toUnsigned u64Max (round (sum / denom))
  let roundI64 (sum : Int) : Int := saturateI64 (round (sum / denom))
  let row : GauntletRow :=
    {scenario := acc.first.scenario
     topology := acc.first.topology
     workType := acc.first.workType
     scheduler := acc.first.scheduler
     kernelVersion := acc.first.kernelVersion
     commit := renderMixedDirty acc.project acc.first.commit
     kernelCommit := renderMixedDirty acc.kernel acc.first.kernelCommit
     runSource := acc.first.runSource
     passed := !acc.anyFailed && !acc.anySkipped && decide (n > 0)
     skipped := acc.anySkipped
     spread := acc.sumSpread / denom
     gapMs := roundU64 acc.sumGapMs
     migrations := roundU64 acc.sumMigrations
     migrationRatio := acc.sumMigrationRatio / denom
     imbalanceRatio := acc.sumImbalanceRatio / denom
     maxDsqDepth := roundU32 acc.sumMaxDsqDepth
     stuckCount := roundU64 acc.sumStuckCount
     fallbackCount := roundI64 acc.sumFallbackCount
     keepLastCount := roundI64 acc.sumKeepLastCount
     worstP99WakeLatencyUs := acc.sumP99Wake / denom
     worstMedianWakeLatencyUs := acc.sumMedianWake / denom
     worstWakeLatencyCv := acc.sumWakeCv / denom
     totalIterations := roundU64 acc.sumTotalIterations
     worstMeanRunDelayUs := acc.sumMeanRunDelay / denom
     worstRunDelayUs := acc.sumRunDelay / denom
     worstWakeLatencyTailRatio := acc.sumTailRatio / denom
     worstIterationsPerWorker := acc.sumItersPerWorker / denom
     pageLocality := acc.sumPageLocality / denom
     crossNodeMigrationRatio := acc.sumCrossNodeMig / denom
     extMetrics := acc.extSums.map fun _ entry => entry.1 / entry.2}
  ⟨row,acc.passesObserved,acc.totalObserved⟩

/-- No result stands for the panic of a key that is missing from the map. -/
def groupAndAverageBy (rows : List GauntletRow) (pairingDims : List Dimension) : Option (List AveragedGroup) :=
  let grouped : Grouped PairingKey Accumulator compare :=
    collect (fun row => fromRow row pairingDims) (fun row => {first := row}) contribute rows
  (takeAll grouped.order grouped.groups).map (List.map average)

structure MetricDef where
  name : String
  polarity : Polarity
  defaultAbs : ℚ
  defaultRel : ℚ
  accessor : GauntletRow → Option ℚ

def wakeLatencyTailRatioMinIterations : Nat := 100

def metrics : List MetricDef :=
  [⟨"worst_spread",.lowerBetter,5,25/100,fun row => some row.spread⟩,
   ⟨"worst_gap_ms",.lowerBetter,500,50/100,fun row => some row.gapMs⟩,
   ⟨"total_migrations",.lowerBetter,10,30/100,fun row => some row.migrations⟩,
   ⟨"worst_migration_ratio",.lowerBetter,5/100,20/100,fun row => some row.migrationRatio⟩,
   ⟨"max_imbalance_ratio",.lowerBetter,1,25/100,fun row => some row.imbalanceRatio⟩,
   ⟨"max_dsq_depth",.lowerBetter,10,50/100,fun row => some row.maxDsqDepth⟩,
   ⟨"stuck_count",.lowerBetter,1,50/100,fun row => some row.stuckCount⟩,
   ⟨"total_fallback",.lowerBetter,5,30/100,fun row => some row.fallbackCount⟩,
   ⟨"total_keep_last",.lowerBetter,5,30/100,fun row => some row.keepLastCount⟩,
   ⟨"worst_p99_wake_latency_us",.lowerBetter,50,25/100,fun row => some row.worstP99WakeLatencyUs⟩,
   ⟨"worst_median_wake_latency_us",.lowerBetter,20,25/100,fun row => some row.worstMedianWakeLatencyUs⟩,
   ⟨"worst_wake_latency_cv",.lowerBetter,10/100,25/100,fun row => some row.worstWakeLatencyCv⟩,
   ⟨"total_iterations",.higherBetter,100,10/100,fun row => some row.totalIterations⟩,
   ⟨"worst_mean_run_delay_us",.lowerBetter,50,25/100,fun row => some row.worstMeanRunDelayUs⟩,
   ⟨"worst_run_delay_us",.lowerBetter,100,50/100,fun row => some row.worstRunDelayUs⟩,
   ⟨"worst_wake_latency_tail_ratio",.lowerBetter,5/10,25/100,fun row =>
     if row.totalIterations < wakeLatencyTailRatioMinIterations then none else some row.worstWakeLatencyTailRatio⟩,
   ⟨"worst_iterations_per_worker",.higherBetter,10,10/100,fun row => some row.worstIterationsPerWorker⟩,
   ⟨"worst_page_locality",.higherBetter,5/100,10/100,fun row => some row.pageLocality⟩,
   ⟨"worst_cross_node_migration_ratio",.lowerBetter,5/100,20/100,fun row => some row.crossNodeMigrationRatio⟩]

example : metrics.map (fun metric => (metric.name,metric.polarity)) = Results.metrics := rfl

def read (metric : MetricDef) (row : GauntletRow) : Option ℚ := (metric.accessor row).or row.extMetrics[metric.name]?

def higherIsWorse (metric : MetricDef) : Bool := metric.polarity != .higherBetter

structure ComparisonPolicy where
  defaultPercent : Option ℚ := none
  perMetricPercent : MetricMap := ∅

def relThreshold (policy : ComparisonPolicy) (metricName : String) (defaultRel : ℚ) : ℚ :=
  match policy.perMetricPercent[metricName]?,policy.defaultPercent with
  | some percent,_ => percent / 100
  | none,some percent => percent / 100
  | none,none => defaultRel

structure Finding where
  pairingKey : PairingKey
  scenario : String
  topology : String
  workType : String
  metric : MetricDef
  valA : ℚ
  valB : ℚ
  delta : ℚ
  isRegression : Bool

/-- `pairs` records the rows that were paired, with the key they met under. -/
structure CompareReport where
  regressions : Nat := 0
  improvements : Nat := 0
  unchanged : Nat := 0
  skippedFailed : Nat := 0
  newInB : Nat := 0
  removedFromA : Nat := 0
  findings : List Finding := []
  pairs : List (PairingKey × GauntletRow × GauntletRow) := []

def epsilon : ℚ := 1 / 2 ^ 52

def relDelta (valA delta : ℚ) : ℚ := if abs valA > epsilon then abs (delta / valA) else 0

def isRegression (metric : MetricDef) (delta : ℚ) : Bool :=
  if higherIsWorse metric then decide (delta > 0) else decide (delta < 0)

def recordFinding (report : CompareReport) (finding : Finding) : CompareReport :=
  if finding.isRegression then
    {report with regressions := report.regressions + 1,findings := report.findings ++ [finding]}
  else {report with improvements := report.improvements + 1,findings := report.findings ++ [finding]}

def compareMetric (policy : ComparisonPolicy) (keyB : PairingKey) (rowA rowB : GauntletRow) (report : CompareReport)
    (metric : MetricDef) : CompareReport :=
  let valA := (read metric rowA).getD 0
  let valB := (read metric rowB).getD 0
  if abs valA < epsilon ∧ abs valB < epsilon then report
  else
    let delta := valB - valA
    if abs delta < metric.defaultAbs ∨ relDelta valA delta < relThreshold policy metric.name metric.defaultRel then
      {report with unchanged := report.unchanged + 1}
    else
      recordFinding report
        ⟨keyB,rowB.scenario,rowB.topology,rowB.workType,metric,valA,valB,delta,isRegression metric delta⟩

def included (filter : Option String) (row : GauntletRow) : Bool :=
  match filter with
  | none => true
  | some wanted =>
    containsToken (row.scenario ++ " " ++ row.topology ++ " " ++ row.scheduler ++ " " ++ row.workType) wanted

section
variable (pairingDims : List Dimension) (filter : Option String) (policy : ComparisonPolicy)

def byKey (rowsA : List GauntletRow) : ExtTreeMap PairingKey GauntletRow :=
  rowsA.foldl (fun rows row => rows.insertIfNew (fromRow row pairingDims) row) ∅

def comparePair (report : CompareReport) (keyB : PairingKey) (rowA rowB : GauntletRow) : CompareReport :=
  if !rowA.passed || !rowB.passed || rowA.skipped || rowB.skipped then
    {report with skippedFailed := report.skippedFailed + 1}
  else metrics.foldl (compareMetric policy keyB rowA rowB) report

def compareRow (aByKey : ExtTreeMap PairingKey GauntletRow) (report : CompareReport) (rowB : GauntletRow) :
    CompareReport :=
  let keyB := fromRow rowB pairingDims
  if !included filter rowB then report
  else
    match aByKey[keyB]? with
    | none => {report with newInB := report.newInB + 1}
    | some rowA => comparePair policy {report with pairs := report.pairs ++ [(keyB,rowA,rowB)]} keyB rowA rowB

def countRemoved (bKeys : List PairingKey) (report : CompareReport) (rowA : GauntletRow) : CompareReport :=
  if !included filter rowA then report
  else if fromRow rowA pairingDims ∈ bKeys then report
  else {report with removedFromA := report.removedFromA + 1}

def compareRowsBy (rowsA rowsB : List GauntletRow) : CompareReport :=
  let report := rowsB.foldl (compareRow pairingDims filter policy (byKey pairingDims rowsA)) {}
  rowsA.foldl (countRemoved pairingDims filter (rowsB.map fun row => fromRow row pairingDims)) report

end

end Ktstr.Source.Stats
