import Ktstr.Library.Merging
import Ktstr.Source.ThreadGroups

/-! Statistics of cgroups that flatten to one key, from `ctprof_compare/cgroup_merge.rs` and
`ctprof_compare/compare.rs`. -/
namespace Ktstr.Source.CgroupMerge
open Std Library.Machine Library.Merging ThreadGroups

structure CgroupCpuStats where
  usageUsec : Nat
  nrThrottled : Nat
  throttledUsec : Nat
  maxQuotaUs : Option Nat
  maxPeriodUs : Nat
  weight : Option Nat
  weightNice : Option Int

structure CgroupMemoryStats where
  current : Nat
  max : Option Nat
  high : Option Nat
  low : Option Nat
  min : Option Nat
  stat : ExtTreeMap String Nat
  events : ExtTreeMap String Nat

structure CgroupPidsStats where
  current : Option Nat
  max : Option Nat

structure PsiHalf where
  avg10 : Nat
  avg60 : Nat
  avg300 : Nat
  totalUsec : Nat

structure PsiResource where
  some : PsiHalf
  full : PsiHalf

structure Psi where
  cpu : PsiResource
  memory : PsiResource
  io : PsiResource
  irq : PsiResource

structure CgroupStats where
  cpu : CgroupCpuStats
  memory : CgroupMemoryStats
  pids : CgroupPidsStats
  psi : Psi

def saturatingAdd (a b : Nat) : Nat := min (a + b) u64Max

/-- `merge_max_option` and `merge_min_option`, with what they take of two values. -/
def mergeOption {α : Type} (pick : α → α → α) : Option α → Option α → Option α
  | some a,some b => some (pick a b)
  | _,_ => none

def mergeMaxOption : Option Nat → Option Nat → Option Nat := mergeOption max

def mergeMinOption : Option Nat → Option Nat → Option Nat := mergeOption min

def mergeCgroupCpu (agg src : CgroupCpuStats) : CgroupCpuStats :=
  { usageUsec := saturatingAdd agg.usageUsec src.usageUsec
    nrThrottled := saturatingAdd agg.nrThrottled src.nrThrottled
    throttledUsec := saturatingAdd agg.throttledUsec src.throttledUsec
    maxQuotaUs := mergeMaxOption agg.maxQuotaUs src.maxQuotaUs
    maxPeriodUs := max agg.maxPeriodUs src.maxPeriodUs
    weight := mergeMaxOption agg.weight src.weight
    weightNice := mergeOption max agg.weightNice src.weightNice }

def memoryStatGaugeKeys : List String :=
  ["anon","file","kernel","kernel_stack","pagetables","sec_pagetables","percpu","sock","vmalloc","shmem","zswap",
    "zswapped","file_mapped","file_dirty","file_writeback","swapcached","anon_thp","file_thp","shmem_thp",
    "inactive_anon","active_anon","inactive_file","active_file","unevictable","slab_reclaimable","slab_unreclaimable",
    "slab","hugetlb"]

def mergeMemoryStat : ExtTreeMap String Nat → ExtTreeMap String Nat → ExtTreeMap String Nat :=
  mergeMaps fun key => if key ∈ memoryStatGaugeKeys then max else saturatingAdd

def mergeKvCounters : ExtTreeMap String Nat → ExtTreeMap String Nat → ExtTreeMap String Nat :=
  mergeMaps fun _ => saturatingAdd

def mergeCgroupMemory (agg src : CgroupMemoryStats) : CgroupMemoryStats :=
  { current := max agg.current src.current
    max := mergeMaxOption agg.max src.max
    high := mergeMaxOption agg.high src.high
    low := mergeMinOption agg.low src.low
    min := mergeMinOption agg.min src.min
    stat := mergeMemoryStat agg.stat src.stat
    events := mergeKvCounters agg.events src.events }

def mergeCgroupPids (agg src : CgroupPidsStats) : CgroupPidsStats :=
  { current := Option.merge saturatingAdd agg.current src.current
    max := mergeMaxOption agg.max src.max }

def mergePsiHalf (a b : PsiHalf) : PsiHalf :=
  ⟨max a.avg10 b.avg10,max a.avg60 b.avg60,max a.avg300 b.avg300,saturatingAdd a.totalUsec b.totalUsec⟩

def mergePsiResource (a b : PsiResource) : PsiResource := ⟨mergePsiHalf a.some b.some,mergePsiHalf a.full b.full⟩

def mergePsi (a b : Psi) : Psi :=
  ⟨mergePsiResource a.cpu b.cpu,mergePsiResource a.memory b.memory,mergePsiResource a.io b.io,
    mergePsiResource a.irq b.irq⟩

def mergeCgroup (agg cs : CgroupStats) : CgroupStats :=
  ⟨mergeCgroupCpu agg.cpu cs.cpu,mergeCgroupMemory agg.memory cs.memory,mergeCgroupPids agg.pids cs.pids,
    mergePsi agg.psi cs.psi⟩

variable (patterns : Flatten) (cgroupKeyMap : Option (ExtTreeMap String String))

def statsKey (path : String) : String :=
  let postFlatten := flattenCgroupPath path patterns
  (cgroupKeyMap.bind (·[postFlatten]?)).getD postFlatten

/-- The loop, with the paths in any order. -/
def flattenEntries (stats : List (String × CgroupStats)) : ExtTreeMap String CgroupStats :=
  stats.foldl (fun out entry => mergeAt mergeCgroup out (statsKey patterns cgroupKeyMap entry.1) entry.2) ∅

def flattenCgroupStats (stats : ExtTreeMap String CgroupStats) : ExtTreeMap String CgroupStats :=
  flattenEntries patterns cgroupKeyMap stats.toList

end Ktstr.Source.CgroupMerge
