import Mathlib.Data.Finset.Sort
import Ktstr.Source.Results

/-! Checks on the reports of one cgroup's workers: `AssertPlan::assert_cgroup` of `assert/mod.rs`
and the checks it runs. Ratios and percentages are exact; totals do not overflow. -/
namespace Ktstr.Source.WorkerChecks
open Std Results

structure WorkerReport where
  tid : Int := 0
  workUnits : Nat := 0
  cpuTimeNs : Nat := 0
  wallTimeNs : Nat := 0
  offCpuNs : Nat := 0
  migrationCount : Nat := 0
  cpusUsed : Finset Nat := ∅
  maxGapMs : Nat := 0
  maxGapCpu : Nat := 0
  maxGapAtMs : Nat := 0
  resumeLatenciesNs : List Nat := []
  iterations : Nat := 0
  schedstatRunDelayNs : Nat := 0
  numaPages : ExtTreeMap Nat Nat := ∅
  vmstatNumaPagesMigrated : Nat := 0

/-- What the compiled code brings: its profile, the square root, and decimal rendering. -/
structure Build where
  debugAssertions : Bool
  sqrt : ℚ → ℚ≥0
  fixedPoint : Nat → ℚ → String

/-- `passed` is cleared and the reason pushed. -/
def flag (r : AssertResult) (detail : AssertDetail) : AssertResult :=
  {r with passed := false,details := r.details ++ [detail]}

def flagEach {α : Type} (bad : α → Bool) (detail : α → AssertDetail) (items : List α) (r : AssertResult) :
    AssertResult :=
  items.foldl (fun acc item => if bad item then flag acc (detail item) else acc) r

def whenSet {α : Type} (threshold : Option α) (check : α → AssertResult → AssertResult) (r : AssertResult) :
    AssertResult :=
  match threshold with
  | some limit => check limit r
  | none => r

variable (build : Build)

def gapThresholdMs : Nat := if build.debugAssertions then 3000 else 2000

def spreadThresholdPct : ℚ := if build.debugAssertions then 35 else 15

def percentile (sorted : List Nat) (p : ℚ≥0) : Nat :=
  if sorted.isEmpty then 0
  else
    let n := sorted.length
    let idx := min (⌈(n : ℚ≥0) * p⌉₊ - 1) (n - 1)
    sorted.getD idx 0

def variation (values : List ℚ≥0) : ℚ≥0 :=
  let n : ℚ≥0 := values.length
  let mean := values.sum / n
  if mean > 0 then
    let variance : ℚ := (values.map fun v => ((v : ℚ) - mean) * ((v : ℚ) - mean)).sum / n
    build.sqrt variance / mean
  else 0

def wakeLatencyTailRatio (cg : CgroupStats) : ℚ :=
  if cg.medianWakeLatencyUs > 0 then cg.p99WakeLatencyUs / cg.medianWakeLatencyUs else 0

def iterationsPerWorker (cg : CgroupStats) : ℚ :=
  if cg.numWorkers > 0 then cg.totalIterations / cg.numWorkers else 0

variable (reports : List WorkerReport)

def cpusOf : Finset Nat :=
  reports.foldl (fun cpus w => cpus ∪ w.cpusUsed) ∅

def offCpuPcts : List ℚ≥0 :=
  reports.filterMap fun w => if w.wallTimeNs > 0 then some (w.offCpuNs / w.wallTimeNs * 100) else none

/-- `max_by_key` keeps the last of several largest. -/
def worstGap : Nat × Nat :=
  reports.foldl (fun worst w => if worst.1 ≤ w.maxGapMs then (w.maxGapMs,w.maxGapCpu) else worst) (0,0)

def reduced (join : ℚ≥0 → ℚ≥0 → ℚ≥0) : List ℚ≥0 → ℚ≥0
  | [] => 0
  | value :: values => values.foldl join value

def nsPerUs : Nat := 1000

def latencies : List Nat := reports.flatMap WorkerReport.resumeLatenciesNs

def cgroupStats : CgroupStats :=
  let pcts := offCpuPcts reports
  let sorted := (latencies reports).insertionSort (· ≤ ·)
  let runDelays : List ℚ≥0 := reports.map fun w => w.schedstatRunDelayNs / nsPerUs
  let totalIters := (reports.map WorkerReport.iterations).sum
  let totalMig := (reports.map WorkerReport.migrationCount).sum
  { numWorkers := reports.length
    numCpus := (cpusOf reports).card
    avgOffCpuPct := if pcts.isEmpty then 0 else pcts.sum / pcts.length
    minOffCpuPct := reduced min pcts
    maxOffCpuPct := reduced max pcts
    spread := reduced max pcts - reduced min pcts
    maxGapMs := (worstGap reports).1
    maxGapCpu := (worstGap reports).2
    totalMigrations := totalMig
    migrationRatio := if totalIters > 0 then totalMig / totalIters else 0
    p99WakeLatencyUs := percentile sorted ((99 : Nat) / (100 : Nat)) / nsPerUs
    medianWakeLatencyUs := percentile sorted ((1 : Nat) / (2 : Nat)) / nsPerUs
    wakeLatencyCv := variation build ((latencies reports).map (↑))
    totalIterations := totalIters
    meanRunDelayUs := if runDelays.isEmpty then 0 else runDelays.sum / runDelays.length
    worstRunDelayUs := reduced max runDelays
    pageLocality := 0
    crossNodeMigrationRatio := 0
    extMetrics := ∅ }

def rollUp (cg : CgroupStats) : ScenarioStats where
  totalWorkers := cg.numWorkers
  totalCpus := cg.numCpus
  totalMigrations := cg.totalMigrations
  worstSpread := cg.spread.toNNRat
  worstGapMs := cg.maxGapMs
  worstGapCpu := cg.maxGapCpu
  worstMigrationRatio := cg.migrationRatio.toNNRat
  worstP99WakeLatencyUs := cg.p99WakeLatencyUs.toNNRat
  worstMedianWakeLatencyUs := cg.medianWakeLatencyUs.toNNRat
  worstWakeLatencyCv := cg.wakeLatencyCv.toNNRat
  totalIterations := cg.totalIterations
  worstMeanRunDelayUs := cg.meanRunDelayUs.toNNRat
  worstRunDelayUs := cg.worstRunDelayUs.toNNRat
  worstPageLocality := 0
  worstCrossNodeMigrationRatio := 0
  worstWakeLatencyTailRatio := (wakeLatencyTailRatio cg).toNNRat
  worstIterationsPerWorker := (iterationsPerWorker cg).toNNRat
  extMetrics := cg.extMetrics
  cgroups := [cg]

variable (w : WorkerReport)

def starvedDetail : AssertDetail :=
  ⟨.starved,String.join ["tid ",toString w.tid," starved (0 work units)"]⟩

variable (limit : ℚ) (r : AssertResult)

def unfairDetail (cg : CgroupStats) (limit : ℚ) : AssertDetail :=
  ⟨.unfair,String.join ["unfair cgroup: spread=",build.fixedPoint 0 cg.spread,"% (",
    build.fixedPoint 0 cg.minOffCpuPct,"-",build.fixedPoint 0 cg.maxOffCpuPct,"%) ",toString cg.numWorkers,
    " workers on ",toString cg.numCpus," cpus (threshold ",build.fixedPoint 0 limit,"%)"]⟩

def stuckDetail (limit : Nat) (w : WorkerReport) : AssertDetail :=
  ⟨.stuck,String.join ["tid ",toString w.tid," stuck ",toString w.maxGapMs,"ms on cpu",toString w.maxGapCpu,
    " at +",toString w.maxGapAtMs,"ms (threshold ",toString limit,"ms)"]⟩

def isStarved : Bool := w.workUnits == 0

def isStuck (limit : Nat) (w : WorkerReport) : Bool := w.maxGapMs > limit

def assertNotStarved : AssertResult :=
  if reports.isEmpty then .pass
  else
    let cg := cgroupStats build reports
    let r := flagEach isStarved starvedDetail reports .pass
    let r :=
      if cg.spread > spreadThresholdPct build ∧ (offCpuPcts reports).length ≥ 2 then
        flag r (unfairDetail build cg (spreadThresholdPct build))
      else r
    let r := flagEach (isStuck (gapThresholdMs build)) (stuckDetail (gapThresholdMs build)) reports r
    {r with stats := rollUp cg}

/-- `passed` derived again from the details of two kinds. -/
def rederived (first second : DetailKind) (r : AssertResult) : AssertResult :=
  {r with passed := !r.details.any fun d => d.kind == first || d.kind == second}

def dropped (kind : DetailKind) (r : AssertResult) : AssertResult :=
  {r with details := r.details.filter fun d => d.kind != kind}

def recheckSpread : AssertResult :=
  let r := dropped .unfair r
  match r.stats.cgroups.head? with
  | some cg =>
    if cg.spread > limit ∧ cg.numWorkers ≥ 2 then flag r (unfairDetail build cg limit)
    else rederived .starved .stuck r
  | none => r

def recheckGap (threshold : Nat) (r : AssertResult) : AssertResult :=
  let r := dropped .stuck r
  if reports.any (isStuck threshold) then flagEach (isStuck threshold) (stuckDetail threshold) reports r
  else rederived .starved .unfair r

structure AssertPlan where
  notStarved : Bool := false
  isolation : Bool := false
  maxGapMs : Option Nat := none
  maxSpreadPct : Option ℚ := none
  maxThroughputCv : Option ℚ := none
  minWorkRate : Option ℚ := none
  maxP99WakeLatencyNs : Option Nat := none
  maxWakeLatencyCv : Option ℚ := none
  minIterationRate : Option ℚ := none
  maxMigrationRatio : Option ℚ := none
  minPageLocality : Option ℚ := none
  maxCrossNodeMigrationRatio : Option ℚ := none
  maxSlowTierRatio : Option ℚ := none

variable (plan : AssertPlan)

def AssertPlan.fairness (reports : List WorkerReport) : AssertResult :=
  whenSet plan.maxSpreadPct (recheckSpread build) (assertNotStarved build reports)

/-- The part of `assert_cgroup` behind `not_starved`, up to its merge. -/
def AssertPlan.starvation (reports : List WorkerReport) : AssertResult :=
  whenSet plan.maxGapMs (recheckGap reports) (plan.fairness build reports)

/-- `Debug` rendering of a set. -/
def shownSet (cpus : Finset Nat) : String :=
  String.join ["\x7b",", ".intercalate ((cpus.sort (· ≤ ·)).map toString),"\x7d"]

def assertIsolation (expected : Finset Nat) : AssertResult :=
  flagEach (fun w => decide (w.cpusUsed \ expected ≠ ∅))
    (fun w => ⟨.isolation,
      String.join ["tid ",toString w.tid," ran on unexpected CPUs ",shownSet (w.cpusUsed \ expected)]⟩) reports .pass

def workRate : ℚ≥0 :=
  if w.cpuTimeNs = 0 then 0 else w.workUnits / (w.cpuTimeNs / 1000000000)

def throughputCvCheck : AssertResult :=
  let rates := reports.map workRate
  let mean := rates.sum / rates.length
  if reports.all fun w => w.cpuTimeNs == 0 then
    flag r ⟨.benchmark,String.join ["throughput CV undefined: all ",toString reports.length,
      " workers recorded zero cpu_time_ns (limit ",build.fixedPoint 3 limit,")"]⟩
  else if mean > 0 ∧ rates.length ≥ 2 ∧ (variation build rates : ℚ) > limit then
    flag r ⟨.benchmark,String.join ["throughput CV ",build.fixedPoint 3 (variation build rates)," exceeds limit ",
      build.fixedPoint 3 limit," (mean=",build.fixedPoint 0 mean," work/cpu_s)"]⟩
  else r

def workFloorCheck (floor : ℚ) (r : AssertResult) : AssertResult :=
  flagEach (fun w => decide ((workRate w : ℚ) < floor))
    (fun w => ⟨.benchmark,String.join ["worker ",toString w.tid," throughput ",build.fixedPoint 0 (workRate w),
      " work/cpu_s below floor ",build.fixedPoint 0 floor]⟩) reports r

def assertThroughputParity (maxCv minRate : Option ℚ) : AssertResult :=
  if reports.isEmpty then .pass
  else whenSet minRate (workFloorCheck build reports) (whenSet maxCv (throughputCvCheck build reports) .pass)

def iterationRate : ℚ≥0 := w.iterations / (w.wallTimeNs / 1000000000)

def p99Check (limit : Nat) (r : AssertResult) : AssertResult :=
  let sorted := (latencies reports).insertionSort (· ≤ ·)
  let p99 := percentile sorted ((99 : Nat) / (100 : Nat))
  if sorted ≠ [] ∧ p99 > limit then
    flag r ⟨.benchmark,String.join ["p99 wake latency ",toString p99,"ns exceeds limit ",toString limit,"ns (",
      toString sorted.length," samples)"]⟩
  else r

def latencyCvCheck : AssertResult :=
  let all : List ℚ≥0 := (latencies reports).map (↑)
  let mean := all.sum / all.length
  if all.length ≥ 2 ∧ mean > 0 ∧ (variation build all : ℚ) > limit then
    flag r ⟨.benchmark,String.join ["wake latency CV ",build.fixedPoint 3 (variation build all)," exceeds limit ",
      build.fixedPoint 3 limit," (mean=",build.fixedPoint 0 mean,"ns)"]⟩
  else r

def iterationFloorCheck (floor : ℚ) (r : AssertResult) : AssertResult :=
  flagEach (fun w => decide (w.wallTimeNs ≠ 0 ∧ (iterationRate w : ℚ) < floor))
    (fun w => ⟨.benchmark,String.join ["worker ",toString w.tid," iteration rate ",
      build.fixedPoint 1 (iterationRate w),"/s below floor ",build.fixedPoint 1 floor,"/s"]⟩) reports r

def assertBenchmarks (maxP99Ns : Option Nat) (maxCv minIterRate : Option ℚ) : AssertResult :=
  if reports.isEmpty then .skip "no worker reports — benchmark skipped"
  else
    let r := whenSet maxP99Ns (p99Check reports) .pass
    let r := whenSet maxCv (latencyCvCheck build reports) r
    whenSet minIterRate (iterationFloorCheck build reports) r

def migrationCheck : AssertResult :=
  let totalMig := (reports.map WorkerReport.migrationCount).sum
  let totalIters := (reports.map WorkerReport.iterations).sum
  let ratio : ℚ := if totalIters > 0 then totalMig / totalIters else 0
  if ratio > limit then
    flag r ⟨.migration,String.join ["migration ratio ",build.fixedPoint 4 ratio," exceeds threshold ",
      build.fixedPoint 4 limit," (",toString totalMig," migrations / ",toString totalIters," iterations)"]⟩
  else r

def ratioText (ratio : ℚ) : String :=
  String.join [build.fixedPoint 4 ratio," (",build.fixedPoint 2 (ratio * 100),"%)"]

def assertPageLocality (observed : ℚ) (minLocality : Option ℚ) (totalPages localPages : Nat) : AssertResult :=
  match minLocality with
  | some threshold =>
    if observed < threshold then
      flag .pass ⟨.pageLocality,String.join ["page locality ",ratioText build observed," below threshold ",
        ratioText build threshold," (",toString localPages,"/",toString totalPages," pages local)"]⟩
    else .pass
  | none => .pass

def assertCrossNodeMigration (migratedPages totalPages : Nat) (maxRatio : Option ℚ) : AssertResult :=
  match maxRatio with
  | none => .pass
  | some threshold =>
    if totalPages = 0 then
      if migratedPages > 0 then
        flag .pass ⟨.crossNodeMigration,String.join ["cross-node migration inconsistent: ",toString migratedPages,
          " pages migrated but 0 pages observed in numa_maps (threshold ",build.fixedPoint 4 threshold,")"]⟩
      else .pass
    else
      let ratio : ℚ := migratedPages / totalPages
      if ratio > threshold then
        flag .pass ⟨.crossNodeMigration,String.join ["cross-node migration ratio ",ratioText build ratio,
          " exceeds threshold ",ratioText build threshold," (",toString migratedPages,"/",toString totalPages,
          " pages migrated)"]⟩
      else .pass

def pageTotal (pages : ExtTreeMap Nat Nat) : Nat := (pages.toList.map Prod.snd).sum

def pagesWhere (nodes : Nat → Bool) (pages : ExtTreeMap Nat Nat) : Nat :=
  ((pages.toList.filter fun entry => nodes entry.1).map Prod.snd).sum

def assertSlowTierRatio (numaPages : ExtTreeMap Nat Nat) (maxRatio : ℚ) (totalPages : Nat)
    (numaNodes : Option (Finset Nat)) : AssertResult :=
  match numaNodes with
  | none => .pass
  | some cpuNodes =>
    let slowPages := pagesWhere (fun node => decide (node ∉ cpuNodes)) numaPages
    let ratio : ℚ := slowPages / totalPages
    if ratio > maxRatio then
      flag .pass ⟨.slowTier,String.join ["slow-tier page ratio ",ratioText build ratio," exceeds threshold ",
        ratioText build maxRatio," (",toString slowPages,"/",toString totalPages," pages on non-CPU nodes)"]⟩
    else .pass

def localityResult (minLocality : ℚ) (nodes : Finset Nat) : AssertResult :=
  let total := (reports.map fun w => pageTotal w.numaPages).sum
  let near := (reports.map fun w => pagesWhere (fun node => decide (node ∈ nodes)) w.numaPages).sum
  let locality : ℚ := if total > 0 then near / total else 0
  assertPageLocality build locality (some minLocality) total near

def crossNodeResult (maxRatio : ℚ) : AssertResult :=
  let totalPages := (reports.map fun w => pageTotal w.numaPages).sum
  -- Every worker sees about the same system-wide counter: the largest stands for all of them.
  let migratedPages := (reports.map WorkerReport.vmstatNumaPagesMigrated).foldl max 0
  assertCrossNodeMigration build migratedPages totalPages (some maxRatio)

def slowTierResults (maxRatio : ℚ) (numaNodes : Option (Finset Nat)) : List AssertResult :=
  reports.filterMap fun w =>
    let total := pageTotal w.numaPages
    if !w.numaPages.isEmpty && decide (total > 0) then
      some (assertSlowTierRatio build w.numaPages maxRatio total numaNodes)
    else none

/-- The page checks of `assert_cgroup`. -/
def AssertPlan.numaChecks (reports : List WorkerReport) (numaNodes : Option (Finset Nat)) (r : AssertResult) :
    AssertResult :=
  let r := whenSet plan.minPageLocality (fun minLocality r =>
    whenSet numaNodes (fun nodes r => r.merge (localityResult build reports minLocality nodes)) r) r
  let r := whenSet plan.maxCrossNodeMigrationRatio (fun maxRatio r =>
    r.merge (crossNodeResult build reports maxRatio)) r
  whenSet plan.maxSlowTierRatio (fun maxRatio r =>
    whenSet numaNodes (fun _ r => (slowTierResults build reports maxRatio numaNodes).foldl .merge r) r) r

def AssertPlan.assertCgroup (reports : List WorkerReport) (cpuset numaNodes : Option (Finset Nat)) : AssertResult :=
  let r := if plan.notStarved then AssertResult.pass.merge (plan.starvation build reports) else .pass
  let r := if plan.isolation then whenSet cpuset (fun cs r => r.merge (assertIsolation reports cs)) r else r
  let r :=
    if plan.maxThroughputCv.isSome || plan.minWorkRate.isSome then
      r.merge (assertThroughputParity build reports plan.maxThroughputCv plan.minWorkRate)
    else r
  let r :=
    if plan.maxP99WakeLatencyNs.isSome || plan.maxWakeLatencyCv.isSome || plan.minIterationRate.isSome then
      r.merge (assertBenchmarks build reports plan.maxP99WakeLatencyNs plan.maxWakeLatencyCv plan.minIterationRate)
    else r
  let r := whenSet plan.maxMigrationRatio (migrationCheck build reports) r
  plan.numaChecks build reports numaNodes r

end Ktstr.Source.WorkerChecks
