import Ktstr.Library.Grouping
import Ktstr.Library.Machine
import Ktstr.Source.Patterns
import Mathlib.Algebra.Order.Ring.Rat
import Mathlib.Data.List.Sort

/-! Thread groups of a profile snapshot and their metrics, from `ctprof_compare/groups.rs`
and `aggregate.rs`. The readings of a thread are of an arbitrary type; rules that differ
only in their unit are one. -/
namespace Ktstr.Source.ThreadGroups
open Std (ExtTreeMap ExtTreeSet)
open Library.Grouping Library.Machine Patterns

structure ThreadState (σ : Type) where
  pcomm : String
  comm : String
  cgroup : String
  startTimeClockTicks : Nat
  readings : σ

/-- `cgroupStats` has the paths that the per-cgroup statistics were taken for. -/
structure CtprofSnapshot (σ : Type) where
  threads : List (ThreadState σ)
  cgroupStats : List String := []

inductive GroupBy
  | all
  | pcomm
  | cgroup
  | comm
  | commExact
deriving DecidableEq

structure AffinitySummary where
  minCpus : Nat
  maxCpus : Nat
  uniform : Option (List Nat)

inductive Aggregated
  | sum (value : Nat)
  | max (value : Nat)
  | ordinalRange (min max : Int)
  | mode (tallies : ExtTreeMap String Nat) (total : Nat)
  | affinity (summary : AffinitySummary)

def numeric : Aggregated → Option ℚ
  | .sum value => some value
  | .max value => some value
  | .ordinalRange min max => some ((min + max) / 2)
  | .mode _ _ => none
  | .affinity summary => some ((summary.minCpus + summary.maxCpus) / 2)

def mergeAggregatedInto : Aggregated → Aggregated → Aggregated
  | .sum existing,.sum value => .sum ((existing + value) % 2 ^ 64)
  | .max existing,.max value => .max (Max.max existing value)
  | .ordinalRange low high,.ordinalRange min max => .ordinalRange (Min.min low min) (Max.max high max)
  | .mode existing total,.mode tallies more =>
    .mode (tallies.foldl (fun into name count => into.insert name (into[name]?.getD 0 + count)) existing) (total + more)
  | .affinity existing,.affinity summary =>
    .affinity ⟨Min.min existing.minCpus summary.minCpus,Max.max existing.maxCpus summary.maxCpus,
      if existing.uniform = summary.uniform then existing.uniform else none⟩
  | existing,_ => existing

inductive AggRule (σ : Type)
  | sum (read : σ → Nat)
  | max (read : σ → Nat)
  | range (read : σ → Int)
  | mode (read : σ → String)
  | affinity (read : σ → List Nat)

section
variable {σ : Type}

def aggregate (rule : AggRule σ) (threads : List (ThreadState σ)) : Aggregated :=
  match rule with
  | .sum read => .sum (threads.foldl (fun total t => min (total + read t.readings) u64Max) 0)
  | .max read => .max (threads.foldl (fun out t => Max.max out (read t.readings)) 0)
  | .range read =>
    match threads with
    | [] => .ordinalRange 0 0
    | first::rest =>
      .ordinalRange (rest.foldl (fun low t => Min.min low (read t.readings)) (read first.readings))
        (rest.foldl (fun high t => Max.max high (read t.readings)) (read first.readings))
  | .mode read =>
    .mode (threads.foldl (fun tallies t =>
      tallies.insert (read t.readings) (tallies[read t.readings]?.getD 0 + 1)) ∅) threads.length
  | .affinity read =>
    let cpus := threads.map fun t => read t.readings
    let sizes := cpus.map List.length
    .affinity ⟨sizes.min?.getD 0,sizes.max?.getD 0,
      match cpus with
      | [] => none
      | first::rest => if rest.all (· = first) then some first else none⟩

abbrev Flatten := List (String × (String → Bool))

def compileFlattenPatterns (glob : String → Option (String → Bool)) (raw : List String) : Flatten :=
  raw.filterMap fun pattern => (glob pattern).map fun matches_ => (pattern,matches_)

def flattenCgroupPath (path : String) (patterns : Flatten) : String :=
  match patterns.find? fun pattern => pattern.2 path with
  | some pattern => pattern.1
  | none => path

def patternCounts (field : ThreadState σ → String) (threads : List (ThreadState σ)) : ExtTreeMap String Nat :=
  threads.foldl (fun counts t =>
    let key := patternKey (field t)
    counts.insert key (counts[key]?.getD 0 + 1)) ∅

def patternCountsUnion (baseline candidate : CtprofSnapshot σ) (field : ThreadState σ → String) :
    ExtTreeMap String Nat :=
  patternCounts field (baseline.threads ++ candidate.threads)

def flattenedPaths (snap : CtprofSnapshot σ) (flatten : Flatten) : List String :=
  (snap.threads.map fun t => flattenCgroupPath t.cgroup flatten) ++
    snap.cgroupStats.map fun path => flattenCgroupPath path flatten

def buildCgroupKeyMap (baseline candidate : CtprofSnapshot σ) (flatten : Flatten) : ExtTreeMap String String :=
  let paths : ExtTreeSet String := .ofList (flattenedPaths baseline flatten ++ flattenedPaths candidate flatten)
  let entries := paths.toList.map cgroupNormalizeSkeleton
  let groups : Grouped (List Char) (List Skeleton) compare :=
    collect Skeleton.skeleton (fun _ => []) (fun members entry => members ++ [entry]) entries
  let tightened (entry : Skeleton) : String :=
    let members := groups.groups[entry.skeleton]?.getD []
    if members.length < 2 then String.ofList entry.skeleton
    else String.ofList (tightenGroup (members.map Skeleton.postL1) (members.map Skeleton.tokens))
  .ofList (entries.map fun entry => (entry.path,tightened entry))

structure ThreadGroup where
  key : String
  threadCount : Nat
  metrics : ExtTreeMap String Aggregated
  members : List String
  avgStartTicks : Nat

def ctprofMetrics : List String :=
  ["thread_count","policy","nice","priority","rt_priority","cpu_affinity","processor","state","ext_enabled",
   "nr_threads","run_time_ns","wait_time_ns","timeslices","voluntary_csw","nonvoluntary_csw","nr_wakeups",
   "nr_wakeups_local","nr_wakeups_remote","nr_wakeups_sync","nr_wakeups_migrate","nr_wakeups_affine",
   "nr_wakeups_affine_attempts","nr_migrations","nr_forced_migrations","nr_failed_migrations_affine",
   "nr_failed_migrations_running","nr_failed_migrations_hot","wait_sum","wait_count","wait_max","voluntary_sleep_ns",
   "sleep_max","block_sum","block_max","iowait_sum","iowait_count","exec_max","slice_max","core_forceidle_sum",
   "fair_slice_ns","allocated_bytes","deallocated_bytes","minflt","majflt","utime_clock_ticks","stime_clock_ticks",
   "rchar","wchar","syscr","syscw","read_bytes","write_bytes","cancelled_write_bytes","cpu_delay_count",
   "cpu_delay_total_ns","cpu_delay_max_ns","cpu_delay_min_ns","blkio_delay_count","blkio_delay_total_ns",
   "blkio_delay_max_ns","blkio_delay_min_ns","swapin_delay_count","swapin_delay_total_ns","swapin_delay_max_ns",
   "swapin_delay_min_ns","freepages_delay_count","freepages_delay_total_ns","freepages_delay_max_ns",
   "freepages_delay_min_ns","thrashing_delay_count","thrashing_delay_total_ns","thrashing_delay_max_ns",
   "thrashing_delay_min_ns","compact_delay_count","compact_delay_total_ns","compact_delay_max_ns",
   "compact_delay_min_ns","wpcopy_delay_count","wpcopy_delay_total_ns","wpcopy_delay_max_ns","wpcopy_delay_min_ns",
   "irq_delay_count","irq_delay_total_ns","irq_delay_max_ns","irq_delay_min_ns","hiwater_rss_bytes",
   "hiwater_vm_bytes"]

def nul : String := String.singleton (Char.ofNat 0)

def patternField (groupBy : GroupBy) (noThreadNormalize : Bool) : Option (ThreadState σ → String) :=
  match groupBy,noThreadNormalize with
  | .comm,false => some ThreadState.comm
  | .pcomm,false => some ThreadState.pcomm
  | _,_ => none

def cgroupKey (flatten : Flatten) (cgroupKeyMap : Option (ExtTreeMap String String)) (t : ThreadState σ) : String :=
  let path := flattenCgroupPath t.cgroup flatten
  (cgroupKeyMap.bind (·[path]?)).getD path

section
variable (groupBy : GroupBy) (flatten : Flatten) (counts : ExtTreeMap String Nat)
  (cgroupKeyMap : Option (ExtTreeMap String String)) (noThreadNormalize : Bool)

def groupKey (t : ThreadState σ) : String :=
  match groupBy with
  | .all =>
    let pcommKey := if noThreadNormalize then t.pcomm else patternKey t.pcomm
    let commKey := if noThreadNormalize then t.comm else patternKey t.comm
    cgroupKey flatten cgroupKeyMap t ++ nul ++ pcommKey ++ nul ++ commKey
  | .pcomm | .comm =>
    match patternField groupBy noThreadNormalize with
    | some field =>
      let pk := patternKey (field t)
      if counts[pk]?.getD 0 ≥ 2 then pk else field t
    | none => if groupBy = .pcomm then t.pcomm else t.comm
  | .commExact => t.comm
  | .cgroup => cgroupKey flatten cgroupKeyMap t

variable (rule : String → AggRule σ)

def threadGroup (key : String) (threads : List (ThreadState σ)) : ThreadGroup :=
  let validStarts := (threads.map ThreadState.startTimeClockTicks).filter (· > 0)
  {key := key
   threadCount := threads.length
   metrics := .ofList (ctprofMetrics.map fun name => (name,aggregate (rule name) threads))
   members :=
     match patternField groupBy noThreadNormalize with
     | some field => ((threads.map field).mergeSort (· ≤ ·)).dedup
     | none => []
   avgStartTicks := if validStarts.isEmpty then 0 else validStarts.sum % 2 ^ 64 / validStarts.length}

def countsFor (snap : CtprofSnapshot σ) (given : Option (ExtTreeMap String Nat)) : ExtTreeMap String Nat :=
  given.getD <|
    match patternField groupBy noThreadNormalize with
    | some field => patternCounts field snap.threads
    | none => ∅

def buildGroups (snap : CtprofSnapshot σ) (given : Option (ExtTreeMap String Nat)) : ExtTreeMap String ThreadGroup :=
  let counts := countsFor groupBy noThreadNormalize snap given
  let buckets : Grouped String (List (ThreadState σ)) compare :=
    collect (groupKey groupBy flatten counts cgroupKeyMap noThreadNormalize) (fun _ => [])
      (fun threads t => threads ++ [t]) snap.threads
  buckets.groups.map (threadGroup groupBy noThreadNormalize rule)

end
end

end Ktstr.Source.ThreadGroups
