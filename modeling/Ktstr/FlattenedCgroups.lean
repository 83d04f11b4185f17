import Ktstr.Source.CgroupMerge

/-! Flattened cgroup statistics: every merge is commutative and associative, so the flattened whole is the flattened
parts merged key by key, in whatever order the paths come. -/
namespace Ktstr.FlattenedCgroups
open Std Library.Merging Source.ThreadGroups Source.CgroupMerge

instance : Commutative saturatingAdd where
  comm a b := by rw [saturatingAdd,Nat.add_comm,saturatingAdd]

instance : Associative saturatingAdd where
  assoc a b c := by
    unfold saturatingAdd
    omega

section
variable {α : Type} {pick : α → α → α}

instance [Commutative pick] : Commutative (mergeOption pick) where
  comm a b := by
    cases a <;> cases b <;> simp only [mergeOption]
    exact congrArg some (Commutative.comm _ _)

instance [Associative pick] : Associative (mergeOption pick) where
  assoc a b c := by
    cases a <;> cases b <;> cases c <;> simp only [mergeOption]
    exact congrArg some (Associative.assoc _ _ _)

theorem mergeOption_isNone {a b : Option α} : (mergeOption pick a b).isNone = (a.isNone || b.isNone) := by
  cases a <;> cases b <;> rfl

end

section
variable {key : String}

instance : Commutative (if key ∈ memoryStatGaugeKeys then max else saturatingAdd) := by
  split <;> infer_instance

instance : Associative (if key ∈ memoryStatGaugeKeys then max else saturatingAdd) := by
  split <;> infer_instance

end

instance : Commutative mergeCgroup where
  comm a b := by
    simp only [mergeCgroup,mergeCgroupCpu,mergeCgroupMemory,mergeCgroupPids,mergePsi,mergePsiResource,mergePsiHalf,
      mergeMaxOption,mergeMinOption,mergeMemoryStat,mergeKvCounters,CgroupStats.mk.injEq,CgroupCpuStats.mk.injEq,
      CgroupMemoryStats.mk.injEq,CgroupPidsStats.mk.injEq,Psi.mk.injEq,PsiResource.mk.injEq,PsiHalf.mk.injEq]
    repeat' apply And.intro
    all_goals apply Commutative.comm

instance : Associative mergeCgroup where
  assoc a b c := by
    simp only [mergeCgroup,mergeCgroupCpu,mergeCgroupMemory,mergeCgroupPids,mergePsi,mergePsiResource,mergePsiHalf,
      mergeMaxOption,mergeMinOption,mergeMemoryStat,mergeKvCounters,CgroupStats.mk.injEq,CgroupCpuStats.mk.injEq,
      CgroupMemoryStats.mk.injEq,CgroupPidsStats.mk.injEq,Psi.mk.injEq,PsiResource.mk.injEq,PsiHalf.mk.injEq]
    repeat' apply And.intro
    all_goals apply Associative.assoc

/-- The limits and the floors, and whether there is none. -/
def unbounded : List (CgroupStats → Bool) :=
  [fun cs => cs.cpu.maxQuotaUs.isNone,fun cs => cs.cpu.weight.isNone,fun cs => cs.cpu.weightNice.isNone,
    fun cs => cs.memory.max.isNone,fun cs => cs.memory.high.isNone,fun cs => cs.pids.max.isNone,
    fun cs => cs.memory.low.isNone,fun cs => cs.memory.min.isNone]

theorem unbounded_merge {none : CgroupStats → Bool} (listed : none ∈ unbounded) (a b : CgroupStats) :
    none (mergeCgroup a b) = (none a || none b) := by
  simp only [unbounded,List.mem_cons,List.not_mem_nil,or_false] at listed
  rcases listed with rfl | rfl | rfl | rfl | rfl | rfl | rfl | rfl <;> exact mergeOption_isNone

section
variable (patterns : Flatten) (cgroupKeyMap : Option (ExtTreeMap String String)) (stats : ExtTreeMap String CgroupStats)

/-- The statistics fold to what their parts do, merged key by key; the order of the paths does not matter; a bucket
lacks a limit or a floor exactly if one of its cgroups does. -/
structure FoldsByKey : Prop where
  parts : ∀ (side : String → Bool) (key : String), (flattenCgroupStats patterns cgroupKeyMap stats)[key]? =
    Option.merge mergeCgroup (flattenCgroupStats patterns cgroupKeyMap (stats.filter fun path _ => side path))[key]?
      (flattenCgroupStats patterns cgroupKeyMap (stats.filter fun path _ => !side path))[key]?
  order : ∀ entries, entries.Perm stats.toList →
    flattenEntries patterns cgroupKeyMap entries = flattenCgroupStats patterns cgroupKeyMap stats
  bounds : ∀ key bucket, (flattenCgroupStats patterns cgroupKeyMap stats)[key]? = some bucket → ∀ none ∈ unbounded,
    (none bucket = true ↔ ∃ path cs, stats[path]? = some cs ∧ statsKey patterns cgroupKeyMap path = key ∧ none cs = true)

theorem cgroups_fold_by_key : FoldsByKey patterns cgroupKeyMap stats := by
  refine ⟨?_,?_,?_⟩
  · intro side key
    simp only [flattenCgroupStats,flattenEntries,getElem?_mergeAll,ExtTreeMap.toList_filter]
    exact share_split _ _ _ _ side
  · intro entries same
    apply ExtTreeMap.ext_getElem?
    intro key
    rw [flattenCgroupStats,flattenEntries,flattenEntries,getElem?_mergeAll,getElem?_mergeAll]
    exact same.foldl_eq none
  · intro key bucket found none listed
    rw [flattenCgroupStats,flattenEntries,getElem?_mergeAll] at found
    have every := share_any mergeCgroup (statsKey patterns cgroupKeyMap) key (unbounded_merge listed) stats.toList
    rw [found,Option.any_some] at every
    rw [every]
    simp only [List.any_eq_true,Prod.exists,ExtTreeMap.mem_toList_iff_getElem?_eq_some,Bool.and_eq_true,
      decide_eq_true_iff]

end
end Ktstr.FlattenedCgroups
