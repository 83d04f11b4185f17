import Ktstr.Library.Maps
import Ktstr.Source.ProfileDiff
import Mathlib.Data.List.Dedup

/-! Every thread group of two compared profiles is accounted for once: it has rows, is
merged into a group that has rows, or is listed as one-sided. -/
namespace Ktstr.ProfileAccounting
open Std (ExtTreeMap LawfulEqCmp)
open List Library.Grouping Library.Maps Library.Text Source.Patterns Source.ThreadGroups Source.ProfileDiff

variable (groups : ExtTreeMap String ThreadGroup)

def threadsOf (key : String) : Nat :=
  (groups[key]?.map ThreadGroup.threadCount).getD 0

def rowThreads (groupsB : ExtTreeMap String ThreadGroup) (pairs : List (String × String)) (key : String) : Nat :=
  if key ∈ groupsB then threadsOf groupsB key
  else ((pairs.filter fun pair => pair.1 = key).map fun pair => threadsOf groupsB pair.2).sum

def ExactlyOne (first second third : Prop) : Prop :=
  (first ∧ ¬ second ∧ ¬ third) ∨ (¬ first ∧ second ∧ ¬ third) ∨ (¬ first ∧ ¬ second ∧ third)

structure Accounted (groupsA groupsB : ExtTreeMap String ThreadGroup) (threads : Nat) (diff : CtprofDiff) : Prop where
  baseline : ∀ key ∈ groupsA, Xor (∃ row ∈ diff.rows, row.groupKey = key) (key ∈ diff.onlyBaseline)
  rows : ∀ row ∈ diff.rows, row.groupKey ∈ groupsA
  onlyBaseline : diff.onlyBaseline.Nodup ∧ ∀ key ∈ diff.onlyBaseline, key ∈ groupsA
  candidate : ∀ key ∈ groupsB, ExactlyOne (key ∈ groupsA) (∃! bkey, (bkey,key) ∈ diff.fudgedKeyPairs)
    (key ∈ diff.onlyCandidate)
  merged : ∀ pair ∈ diff.fudgedKeyPairs, pair.2 ∈ groupsB ∧ ∃ row ∈ diff.rows, row.groupKey = pair.1
  onlyCandidate : diff.onlyCandidate.Nodup ∧ ∀ key ∈ diff.onlyCandidate, key ∈ groupsB
  unique : (diff.rows.map fun row => (row.groupKey,row.metricName)).Nodup
  uniqueDerived : (diff.derivedRows.map fun row => (row.groupKey,row.metricName)).Nodup
  shown : ∀ row ∈ diff.rows, row.threadCountB = rowThreads groupsB diff.fudgedKeyPairs row.groupKey
  counted : ((diff.rows.map DiffRow.groupKey).dedup.map (rowThreads groupsB diff.fudgedKeyPairs)).sum +
    (diff.onlyCandidate.map (threadsOf groupsB)).sum = threads

def Complete (metrics : ExtTreeMap String Aggregated) : Prop := ∀ name ∈ ctprofMetrics, name ∈ metrics

section
variable {σ : Type} (groupBy : GroupBy) (flatten : Flatten) (cgroupKeyMap : Option (ExtTreeMap String String))
  (noThreadNormalize : Bool) (rule : String → AggRule σ) (snap : CtprofSnapshot σ)
  (given : Option (ExtTreeMap String Nat))

/-- The threads of a snapshot that are put under one key. -/
def groupThreads (key : String) : List (ThreadState σ) := snap.threads.filter fun t =>
  groupKey groupBy flatten (countsFor groupBy noThreadNormalize snap given) cgroupKeyMap noThreadNormalize t = key

theorem buildGroups_get (key : String) :
    (buildGroups groupBy flatten cgroupKeyMap noThreadNormalize rule snap given)[key]? =
      if groupThreads groupBy flatten cgroupKeyMap noThreadNormalize snap given key = [] then none
      else some (threadGroup groupBy noThreadNormalize rule key
        (groupThreads groupBy flatten cgroupKeyMap noThreadNormalize snap given key)) := by
  unfold buildGroups groupThreads
  rw [ExtTreeMap.getElem?_map,collect_groups]
  generalize groupKey groupBy flatten _ cgroupKeyMap noThreadNormalize = keyOf
  have kept := gather_rows (id : ThreadState σ → ThreadState σ) (snap.threads.filter fun t => keyOf t = key)
  simp only [id,map_id] at kept
  rw [kept]
  split
  · rfl
  · rfl

theorem mem_buildGroups (key : String) :
    key ∈ buildGroups groupBy flatten cgroupKeyMap noThreadNormalize rule snap given ↔
      groupThreads groupBy flatten cgroupKeyMap noThreadNormalize snap given key ≠ [] := by
  rw [ExtTreeMap.mem_iff_isSome_getElem?,buildGroups_get]
  split
  next empty => simp [empty]
  next some => simp [some]

theorem threadGroup_metric {key name : String} {threads : List (ThreadState σ)} (inside : name ∈ ctprofMetrics) :
    (threadGroup groupBy noThreadNormalize rule key threads).metrics[name]? = some (aggregate (rule name) threads) := by
  have held : name ∈ (threadGroup groupBy noThreadNormalize rule key threads).metrics := by
    rw [threadGroup,ExtTreeMap.mem_ofList]
    simpa using inside
  obtain ⟨value,there⟩ := Option.isSome_iff_exists.mp (ExtTreeMap.mem_iff_isSome_getElem?.mp held)
  obtain ⟨_,_,same⟩ := mem_map.mp (mem_of_getElem?_ofList there)
  obtain ⟨rfl,rfl⟩ := Prod.mk.inj same
  exact there

def AllComplete (groups : ExtTreeMap String ThreadGroup) : Prop :=
  ∀ (key : String) (group : ThreadGroup), groups[key]? = some group → Complete group.metrics

structure Grouping (groups : ExtTreeMap String ThreadGroup) (threads : Nat) : Prop where
  complete : AllComplete groups
  total : (groups.keys.map (threadsOf groups)).sum = threads

theorem buildGroups_grouping :
    Grouping (buildGroups groupBy flatten cgroupKeyMap noThreadNormalize rule snap given) snap.threads.length := by
  have get := buildGroups_get groupBy flatten cgroupKeyMap noThreadNormalize rule snap given
  unfold groupThreads at get
  generalize groupKey groupBy flatten _ cgroupKeyMap noThreadNormalize = keyOf at get
  generalize buildGroups groupBy flatten cgroupKeyMap noThreadNormalize rule snap given = groups at get
  refine ⟨?_,?_⟩
  · intro key group found
    rw [get] at found
    split at found
    · exact absurd found (by simp)
    · rw [← Option.some.inj found]
      intro name inside
      exact ExtTreeMap.mem_iff_isSome_getElem?.mpr (by rw [threadGroup_metric _ _ _ inside]; rfl)
  · have sizes : groups.keys.map (threadsOf groups) =
        groups.keys.map fun key => ((snap.threads.filter fun t => keyOf t = key).map fun _ => 1).sum := by
      refine map_congr_left fun key _ => ?_
      rw [threadsOf,get]
      split
      next empty => simp [empty]
      next => simp [threadGroup]
    have cover : ∀ t ∈ snap.threads, keyOf t ∈ groups.keys := by
      intro t inside
      rw [ExtTreeMap.mem_keys,ExtTreeMap.mem_iff_isSome_getElem?,get,if_neg]
      · rfl
      · exact ne_nil_of_mem (mem_filter.mpr ⟨inside,decide_eq_true rfl⟩)
    rw [sizes,sum_by_key keys_nodup cover]
    simp

theorem buildGroups_marked (all : groupBy = .all) {key : String}
    (inside : key ∈ buildGroups groupBy flatten cgroupKeyMap noThreadNormalize rule snap given) :
    nulMark ∈ key.toList := by
  obtain ⟨t,member⟩ := exists_mem_of_ne_nil _ ((mem_buildGroups ..).mp inside)
  rw [← of_decide_eq_true (mem_filter.mp member).2,all]
  simp only [groupKey,nul,String.toList_append,String.toList_singleton,mem_append,mem_singleton]
  exact Or.inl (Or.inl (Or.inl (Or.inr rfl)))

end

def shared (others : ExtTreeMap String ThreadGroup) : List String := groups.keys.filter fun key => key ∈ others

def lone (others : ExtTreeMap String ThreadGroup) : List String := groups.keys.filter fun key => key ∉ others

def mergedThreads (groupsB : ExtTreeMap String ThreadGroup) (pairs : List (String × String)) (key : String) : Nat :=
  ((pairs.filter fun pair => pair.1 = key).map fun pair => threadsOf groupsB pair.2).sum

def block (names : List String) (entry : String × Nat) : List (String × Nat × String) :=
  names.map fun name => (entry.1,entry.2,name)

def derivedNames : List String := ctprofDerivedMetrics.map DerivedMetricDef.name

variable (diff : CtprofDiff)

def rowTags : List (String × Nat × String) :=
  diff.rows.map fun row => (row.groupKey,row.threadCountB,row.metricName)

def derivedTags : List (String × Nat × String) :=
  diff.derivedRows.map fun row => (row.groupKey,row.threadCountB,row.metricName)

/-- The rows of the listed groups are added, and nothing else changes. -/
private structure Emits (before after : CtprofDiff) (entries : List (String × Nat)) : Prop where
  rows : rowTags after = rowTags before ++ entries.flatMap (block ctprofMetrics)
  derived : derivedTags after = derivedTags before ++ entries.flatMap (block derivedNames)
  onlyBaseline : after.onlyBaseline = before.onlyBaseline
  onlyCandidate : after.onlyCandidate = before.onlyCandidate
  keyPairs : after.fudgedKeyPairs = before.fudgedKeyPairs

theorem Emits.refl : Emits diff diff [] :=
  ⟨(append_nil _).symm,(append_nil _).symm,rfl,rfl,rfl⟩

theorem Emits.trans (first second third : CtprofDiff) (entries more : List (String × Nat))
    (start : Emits first second entries) (next : Emits second third more) : Emits first third (entries ++ more) := by
  refine ⟨?_,?_,next.onlyBaseline.trans start.onlyBaseline,next.onlyCandidate.trans start.onlyCandidate,
    next.keyPairs.trans start.keyPairs⟩
  · rw [next.rows,start.rows,flatMap_append,append_assoc]
  · rw [next.derived,start.derived,flatMap_append,append_assoc]

section
variable {σ : Type} (parts : Parts σ)

theorem emitRows_emits (diff : CtprofDiff) (key label : String) (nA nB : Nat)
    {metricsA metricsB : ExtTreeMap String Aggregated} (completeA : Complete metricsA) (completeB : Complete metricsB) :
    Emits diff (emitRows parts diff key label nA nB metricsA metricsB) [(key,nB)] := by
  refine ⟨?_,?_,rfl,rfl,rfl⟩
  · unfold rowTags emitRows
    rw [map_append,flatMap_singleton,map_filterMap]
    refine congrArg (_ ++ ·) ((filterMap_congr fun name inside => ?_).trans (congrFun filterMap_eq_map _))
    obtain ⟨a,foundA⟩ := Option.isSome_iff_exists.mp (ExtTreeMap.mem_iff_isSome_getElem?.mp (completeA name inside))
    obtain ⟨b,foundB⟩ := Option.isSome_iff_exists.mp (ExtTreeMap.mem_iff_isSome_getElem?.mp (completeB name inside))
    rw [foundA,foundB]
    rfl
  · unfold derivedTags emitRows
    rw [map_append,flatMap_singleton,block,derivedNames]
    rfl

variable (groupsA groupsB : ExtTreeMap String ThreadGroup)

variable {groupsB}

theorem matched_emits {opts : CompareOptions} {entries : List (String × ThreadGroup)} (diff : CtprofDiff)
    (completeA : ∀ entry ∈ entries, Complete entry.2.metrics)
    (completeB : AllComplete groupsB) :
    let after := entries.foldl (matchGroup parts opts groupsB) diff
    Emits diff {after with onlyBaseline := diff.onlyBaseline}
        (((entries.map Prod.fst).filter fun key => key ∈ groupsB).map fun key => (key,threadsOf groupsB key)) ∧
      after.onlyBaseline = diff.onlyBaseline ++ (entries.map Prod.fst).filter fun key => key ∉ groupsB := by
  induction entries generalizing diff with
  | nil => exact ⟨Emits.refl diff,(append_nil _).symm⟩
  | cons entry entries ih =>
    obtain ⟨emits,only⟩ := ih (matchGroup parts opts groupsB diff entry) fun other inside =>
      completeA other (mem_cons_of_mem _ inside)
    have here : Complete entry.2.metrics := completeA entry mem_cons_self
    rw [foldl_cons,map_cons]
    dsimp only
    cases found : groupsB[entry.1]? with
    | none =>
      have absent : entry.1 ∉ groupsB := by
        rw [ExtTreeMap.mem_iff_isSome_getElem?,found]
        exact Bool.false_ne_true
      have step : matchGroup parts opts groupsB diff entry = {diff with onlyBaseline := diff.onlyBaseline ++ [entry.1]} := by
        rw [matchGroup,found]
      rw [step] at emits only
      rw [filter_cons_of_neg (by simpa using absent),filter_cons_of_pos (by simpa using absent),step,only,
        append_assoc]
      exact ⟨⟨emits.rows,emits.derived,rfl,emits.onlyCandidate,emits.keyPairs⟩,rfl⟩
    | some groupB =>
      have present : entry.1 ∈ groupsB := by
        rw [ExtTreeMap.mem_iff_isSome_getElem?,found]
        rfl
      have count : threadsOf groupsB entry.1 = groupB.threadCount := by
        rw [threadsOf,found]
        rfl
      have step := emitRows_emits parts diff entry.1 (displayKey parts opts entry.1 entry.2 groupB) entry.2.threadCount
        groupB.threadCount here (completeB entry.1 groupB found)
      have added : matchGroup parts opts groupsB diff entry = emitRows parts diff entry.1
          (displayKey parts opts entry.1 entry.2 groupB) entry.2.threadCount groupB.threadCount entry.2.metrics
          groupB.metrics := by
        rw [matchGroup,found]
      rw [← added] at step
      rw [filter_cons_of_pos (by simpa using present),filter_cons_of_neg (by simpa using present),only,
        step.onlyBaseline,map_cons,count]
      rw [step.onlyBaseline] at emits
      exact ⟨step.trans _ _ _ _ _ emits,rfl⟩

theorem mergeGroups_concat (ckeys : List String) {ckey : String} {gb : ThreadGroup}
    (found : groupsB[ckey]? = some gb) : ∃ metrics : ExtTreeMap String Aggregated,
    mergeGroups groupsB (ckeys ++ [ckey]) = ((mergeGroups groupsB ckeys).1 + gb.threadCount,metrics) ∧
      ∀ (name : String) (value : Aggregated), gb.metrics[name]? = some value → metrics[name]? =
        some ((mergeGroups groupsB ckeys).2[name]?.elim value (mergeAggregatedInto · value)) := by
  rw [mergeGroups,foldl_concat,found]
  refine ⟨_,rfl,fun name value there => ?_⟩
  refine (getElem?_foldl_insert (fun old value => old.elim value (mergeAggregatedInto · value))
    (fun metrics name value => ?_)).trans ?_
  · cases metrics[name]? <;> rfl
  rw [there]
  rfl

theorem mergeGroups_spec (complete : AllComplete groupsB) {ckeys : List String}
    (present : ∀ ckey ∈ ckeys, ckey ∈ groupsB) :
    (mergeGroups groupsB ckeys).1 = (ckeys.map (threadsOf groupsB)).sum ∧
      (ckeys ≠ [] → Complete (mergeGroups groupsB ckeys).2) := by
  induction ckeys using List.reverseRecOn with
  | nil => exact ⟨rfl,fun empty => absurd rfl empty⟩
  | append_singleton ckeys ckey ih =>
    obtain ⟨count,-⟩ := ih fun other inside => present other (mem_append_left _ inside)
    obtain ⟨gb,found⟩ := Option.isSome_iff_exists.mp
      (ExtTreeMap.mem_iff_isSome_getElem?.mp (present ckey (mem_append_right _ mem_cons_self)))
    obtain ⟨metrics,merged,grown⟩ := mergeGroups_concat ckeys found
    rw [merged]
    refine ⟨?_,fun _ name inside => ?_⟩
    · rw [count,map_append]
      simp [threadsOf,found]
    · obtain ⟨value,there⟩ := Option.isSome_iff_exists.mp
        (ExtTreeMap.mem_iff_isSome_getElem?.mp (complete ckey gb found name inside))
      exact ExtTreeMap.mem_iff_isSome_getElem?.mpr (by rw [grown name value there]; rfl)

theorem fudged_emits (entries : List (String × List String)) (diff : CtprofDiff)
    (completeA : AllComplete groupsA) (completeB : AllComplete groupsB)
    (presentA : ∀ entry ∈ entries, entry.1 ∈ groupsA) (inhabited : ∀ entry ∈ entries, entry.2 ≠ [])
    (presentB : ∀ entry ∈ entries, ∀ ckey ∈ entry.2, ckey ∈ groupsB) :
    Emits diff (entries.foldl (emitFudgedRow parts groupsA groupsB) diff)
      (entries.map fun entry => (entry.1,(entry.2.map (threadsOf groupsB)).sum)) := by
  induction entries generalizing diff with
  | nil => exact Emits.refl diff
  | cons entry entries ih =>
    obtain ⟨ga,found⟩ := Option.isSome_iff_exists.mp
      (ExtTreeMap.mem_iff_isSome_getElem?.mp (presentA entry mem_cons_self))
    obtain ⟨count,complete⟩ := mergeGroups_spec completeB (presentB entry mem_cons_self)
    have step := emitRows_emits parts diff entry.1 (fudgedLabel entry.1) ga.threadCount (mergeGroups groupsB entry.2).1
      (completeA entry.1 ga found)
      (complete (inhabited entry mem_cons_self))
    have added : emitFudgedRow parts groupsA groupsB diff entry = emitRows parts diff entry.1 (fudgedLabel entry.1)
        ga.threadCount (mergeGroups groupsB entry.2).1 ga.metrics (mergeGroups groupsB entry.2).2 := by
      rw [emitFudgedRow,found]
    rw [← added,count] at step
    exact step.trans _ _ _ _ _ (ih _ (fun other inside => presentA other (mem_cons_of_mem _ inside))
      (fun other inside => inhabited other (mem_cons_of_mem _ inside))
      fun other inside => presentB other (mem_cons_of_mem _ inside))

end

theorem key_ext {first second : String} (firstMark : nulMark ∈ first.toList) (secondMark : nulMark ∈ second.toList)
    (samePrefix : cgPrefix first = cgPrefix second) (sameSuffix : keySuffix first = keySuffix second) :
    first = second := by
  obtain ⟨cutFirst,foundFirst⟩ := Option.isSome_iff_exists.mp ((splitOnce_isSome _ _).mpr firstMark)
  obtain ⟨cutSecond,foundSecond⟩ := Option.isSome_iff_exists.mp ((splitOnce_isSome _ _).mpr secondMark)
  simp only [cgPrefix,keySuffix,foundFirst,foundSecond,Option.map_some,Option.getD_some] at samePrefix sameSuffix
  rw [splitOnce_eq foundFirst,splitOnce_eq foundSecond,samePrefix,sameSuffix]

theorem snd_nodup {pairs : List (String × String)} (distinct : (pairs.map Prod.fst).Nodup)
    (determined : ∀ first ∈ pairs, ∀ second ∈ pairs, first.2 = second.2 → first.1 = second.1) :
    (pairs.map Prod.snd).Nodup :=
  (distinct.of_map).map_on fun first firstIn second secondIn same =>
    Prod.ext (determined first firstIn second secondIn same) same

section
variable (onlyBaseline onlyCandidate : List String) (fudgedCg fudged : List (String × String))

/-- Matches between the one-sided keys, each candidate key in one of them. -/
structure Pairing (pairs : List (String × String)) : Prop where
  fst : ∀ pair ∈ pairs, pair.1 ∈ onlyBaseline
  snd : ∀ pair ∈ pairs, pair.2 ∈ onlyCandidate
  once : (pairs.map Prod.snd).Nodup

theorem matches_fst (keys : List String) (found : String → Option String) :
    (keys.filterMap fun bkey => (found bkey).map fun ckey => (bkey,ckey)).map Prod.fst =
      keys.filter fun bkey => (found bkey).isSome := by
  induction keys with
  | nil => rfl
  | cons key keys ih =>
    cases here : found key with
    | none => simp [here,ih]
    | some ckey => simp [here,ih]

variable {onlyBaseline onlyCandidate}

theorem suffixMatches_mem {cgroups pair : String × String}
    (member : pair ∈ suffixMatches onlyBaseline onlyCandidate cgroups) :
    (pair.1 ∈ onlyBaseline ∧ cgPrefix pair.1 = cgroups.1) ∧ (pair.2 ∈ onlyCandidate ∧ cgPrefix pair.2 = cgroups.2) ∧
      keySuffix pair.1 = keySuffix pair.2 := by
  obtain ⟨bkey,inside,mapped⟩ := mem_filterMap.mp member
  obtain ⟨ckey,found,rfl⟩ := Option.map_eq_some_iff.mp mapped
  obtain ⟨other,otherIn,same⟩ := mem_map.mp (mem_of_getElem?_ofList found)
  obtain ⟨suffix,rfl⟩ := Prod.mk.inj same
  have baseline := mem_filter.mp inside
  have candidate := mem_filter.mp otherIn
  exact ⟨⟨baseline.1,of_decide_eq_true baseline.2⟩,⟨candidate.1,of_decide_eq_true candidate.2⟩,suffix.symm⟩

theorem suffixMatches_once {cgroups : String × String} (distinct : onlyBaseline.Nodup)
    (marked : ∀ key ∈ onlyBaseline, nulMark ∈ key.toList) :
    ((suffixMatches onlyBaseline onlyCandidate cgroups).map Prod.snd).Nodup := by
  refine snd_nodup ?_ ?_
  · unfold suffixMatches
    rw [matches_fst]
    exact (distinct.filter _).filter _
  · intro first firstIn second secondIn same
    obtain ⟨baseline,-,suffix⟩ := suffixMatches_mem firstIn
    obtain ⟨baseline',-,suffix'⟩ := suffixMatches_mem secondIn
    exact key_ext (marked _ baseline.1) (marked _ baseline'.1) (baseline.2.trans baseline'.2.symm)
      (by rw [suffix,suffix',same])

variable (onlyCandidate)

theorem fudged_pairing (distinct : onlyBaseline.Nodup) (marked : ∀ key ∈ onlyBaseline, nulMark ∈ key.toList)
    (apart : (fudgedCg.map Prod.snd).Nodup) :
    Pairing onlyBaseline onlyCandidate (fudgedCg.flatMap (suffixMatches onlyBaseline onlyCandidate)) := by
  refine ⟨fun pair member => ?_,fun pair member => ?_,?_⟩
  · obtain ⟨cgroups,-,here⟩ := mem_flatMap.mp member
    exact (suffixMatches_mem here).1.1
  · obtain ⟨cgroups,-,here⟩ := mem_flatMap.mp member
    exact (suffixMatches_mem here).2.1.1
  · rw [map_flatMap,nodup_flatMap]
    refine ⟨fun cgroups _ => suffixMatches_once distinct marked,?_⟩
    refine (pairwise_map.mp apart).imp fun {first second} differ => ?_
    intro ckey firstIn secondIn
    obtain ⟨pair,pairIn,rfl⟩ := mem_map.mp firstIn
    obtain ⟨pair',pairIn',same⟩ := mem_map.mp secondIn
    have here := (suffixMatches_mem pairIn).2.1.2
    have there := (suffixMatches_mem pairIn').2.1.2
    rw [same] at there
    exact differ (here.symm.trans there)

variable (onlyBaseline)

theorem childMatches_mem (state : Cascade) (cgroups pair : String × String)
    (member : pair ∈ childMatches onlyBaseline onlyCandidate fudged state cgroups) :
    (pair.1 ∈ onlyBaseline ∧ pair.1 ∉ (fudged ++ state.cascaded).map Prod.fst) ∧
      (pair.2 ∈ onlyCandidate ∧ pair.2 ∉ (fudged ++ state.cascaded).map Prod.snd) ∧
      rewritten (cascadeRoots cgroups) pair.2 = some pair.1 := by
  obtain ⟨bkey,inside,mapped⟩ := mem_filterMap.mp member
  obtain ⟨ckey,found,rfl⟩ := Option.map_eq_some_iff.mp mapped
  obtain ⟨other,otherIn,placed⟩ := mem_filterMap.mp (mem_of_getElem?_ofList found)
  obtain ⟨target,moved,same⟩ := Option.map_eq_some_iff.mp placed
  obtain ⟨rfl,rfl⟩ := Prod.mk.inj same
  have baseline := mem_filter.mp inside
  have candidate := mem_filter.mp otherIn
  exact ⟨⟨baseline.1,(of_decide_eq_true baseline.2).1⟩,⟨candidate.1,(of_decide_eq_true candidate.2).1⟩,moved⟩

theorem cascadeStep_pairing {state : Cascade} (cgroups : String × String) (distinct : onlyBaseline.Nodup)
    (pairing : Pairing onlyBaseline onlyCandidate (fudged ++ state.cascaded))
    (fresh : ∀ pair ∈ state.cascaded, pair.1 ∉ fudged.map Prod.fst) :
    let after := cascadeStep onlyBaseline onlyCandidate fudged state cgroups
    Pairing onlyBaseline onlyCandidate (fudged ++ after.cascaded) ∧
      ∀ pair ∈ after.cascaded, pair.1 ∉ fudged.map Prod.fst := by
  intro after
  have cascaded : after.cascaded = state.cascaded ++ childMatches onlyBaseline onlyCandidate fudged state cgroups := rfl
  have spec (pair : String × String) := childMatches_mem onlyBaseline onlyCandidate fudged state cgroups pair
  have once : ((childMatches onlyBaseline onlyCandidate fudged state cgroups).map Prod.snd).Nodup := by
    refine snd_nodup ?_ ?_
    · unfold childMatches
      rw [matches_fst]
      exact (distinct.filter _).filter _
    · intro first firstIn second secondIn same
      have here := (spec first firstIn).2.2
      rw [same,(spec second secondIn).2.2] at here
      exact (Option.some.inj here).symm
  rw [cascaded,← append_assoc]
  refine ⟨⟨?_,?_,?_⟩,?_⟩
  · intro pair member
    rcases mem_append.mp member with old | new
    · exact pairing.fst pair old
    · exact (spec pair new).1.1
  · intro pair member
    rcases mem_append.mp member with old | new
    · exact pairing.snd pair old
    · exact (spec pair new).2.1.1
  · rw [map_append]
    refine nodup_append.mpr ⟨pairing.once,once,?_⟩
    intro old oldIn new newIn same
    obtain ⟨pair,pairIn,rfl⟩ := mem_map.mp newIn
    exact (spec pair pairIn).2.1.2 (same ▸ oldIn)
  · intro pair member
    rcases mem_append.mp member with old | new
    · exact fresh pair old
    · intro inside
      exact (spec pair new).1.2 (by rw [map_append]; exact mem_append_left _ inside)

theorem cascade_pairing (state : Cascade) (distinct : onlyBaseline.Nodup)
    (pairing : Pairing onlyBaseline onlyCandidate (fudged ++ state.cascaded))
    (fresh : ∀ pair ∈ state.cascaded, pair.1 ∉ fudged.map Prod.fst) :
    let after := fudgedCg.foldl (cascadeStep onlyBaseline onlyCandidate fudged) state
    Pairing onlyBaseline onlyCandidate (fudged ++ after.cascaded) ∧
      ∀ pair ∈ after.cascaded, pair.1 ∉ fudged.map Prod.fst := by
  induction fudgedCg generalizing state with
  | nil => exact ⟨pairing,fresh⟩
  | cons cgroups fudgedCg ih =>
    obtain ⟨pairing,fresh⟩ :=
      cascadeStep_pairing onlyBaseline onlyCandidate fudged cgroups distinct pairing fresh
    exact ih _ pairing fresh

end

theorem byBaseline_toList (pairs : List (String × String)) : ∃ keys : List String, keys.Nodup ∧
    (∀ key, key ∈ keys ↔ key ∈ pairs.map Prod.fst) ∧
    (byBaseline pairs).toList = keys.map fun key => (key,(pairs.filter fun pair => pair.1 = key).map Prod.snd) := by
  have get (key : String) : (byBaseline pairs)[key]? = if pairs.filter (fun pair => pair.1 = key) = [] then none
      else some ((pairs.filter fun pair => pair.1 = key).map Prod.snd) := by
    rw [byBaseline,collect_groups]
    exact gather_rows Prod.snd _
  refine ⟨(byBaseline pairs).keys,keys_nodup,fun key => ?_,toList_eq_map_keys fun key found here => ?_⟩
  · rw [ExtTreeMap.mem_keys,ExtTreeMap.mem_iff_isSome_getElem?,get]
    by_cases empty : pairs.filter (fun pair => pair.1 = key) = []
    · rw [if_pos empty]
      refine iff_of_false Bool.false_ne_true fun inside => ?_
      obtain ⟨pair,member,rfl⟩ := mem_map.mp inside
      exact filter_eq_nil_iff.mp empty pair member (decide_eq_true rfl)
    · rw [if_neg empty]
      obtain ⟨pair,inside⟩ := exists_mem_of_ne_nil _ empty
      obtain ⟨member,same⟩ := mem_filter.mp inside
      exact iff_of_true rfl (mem_map.mpr ⟨pair,member,of_decide_eq_true same⟩)
  · rw [get] at here
    split at here
    · exact absurd here (by simp)
    · exact (Option.some.inj here).symm

theorem fudgedCgroups_once (prefixesA prefixesB : Std.ExtTreeSet String) (typesA typesB : ExtTreeMap String TypeSet) :
    ((fudgedCgroups prefixesA prefixesB typesA typesB).map Prod.snd).Nodup := by
  have distinct : prefixesB.toList.Nodup :=
    Std.ExtTreeSet.distinct_toList.imp fun apart same => apart (by rw [same]; exact Std.ReflCmp.compare_self)
  refine distinct.sublist ?_
  unfold fudgedCgroups
  generalize prefixesB.toList = prefixes
  induction prefixes with
  | nil => exact List.Sublist.refl _
  | cons ccg prefixes ih =>
    rw [filterMap_cons]
    split
    next => exact ih.cons ccg
    next pair found =>
      have same : pair.2 = ccg := by
        split at found
        · exact absurd found (by simp)
        · split at found
          · exact absurd found (by simp)
          · obtain ⟨bcg,-,rfl⟩ := Option.map_eq_some_iff.mp found
            rfl
      rw [map_cons,same]
      exact ih.cons_cons ccg

def blocks (names keys : List String) (threads : String → Nat) : List (String × Nat × String) :=
  keys.flatMap fun key => block names (key,threads key)

section
variable {σ : Type} (parts : Parts σ) (groupsA groupsB : ExtTreeMap String ThreadGroup)

/-- A diff in terms of the groups: rows for the keys of both sides and for those that others
were merged into, the rest one-sided. -/
private structure Outcome (merged : List String) (diff : CtprofDiff) : Prop where
  rows : (rowTags diff).Perm
    (blocks ctprofMetrics (shared groupsA groupsB ++ merged) (rowThreads groupsB diff.fudgedKeyPairs))
  derived : (derivedTags diff).Perm
    (blocks derivedNames (shared groupsA groupsB ++ merged) (rowThreads groupsB diff.fudgedKeyPairs))
  pairing : Pairing (lone groupsA groupsB) (lone groupsB groupsA) diff.fudgedKeyPairs
  distinct : merged.Nodup
  merged : ∀ key, key ∈ merged ↔ key ∈ diff.fudgedKeyPairs.map Prod.fst
  onlyBaseline : diff.onlyBaseline.Perm ((lone groupsA groupsB).filter fun key => key ∉ diff.fudgedKeyPairs.map Prod.fst)
  onlyCandidate : diff.onlyCandidate.Perm ((lone groupsB groupsA).filter fun key => key ∉ diff.fudgedKeyPairs.map Prod.snd)

private structure Matched (diff : CtprofDiff) : Prop where
  rows : rowTags diff = blocks ctprofMetrics (shared groupsA groupsB) (threadsOf groupsB)
  derived : derivedTags diff = blocks derivedNames (shared groupsA groupsB) (threadsOf groupsB)
  onlyBaseline : diff.onlyBaseline = lone groupsA groupsB
  onlyCandidate : diff.onlyCandidate = lone groupsB groupsA
  keyPairs : diff.fudgedKeyPairs = []

theorem matchGroups_matched (opts : CompareOptions) (completeA : AllComplete groupsA)
    (completeB : AllComplete groupsB) : Matched groupsA groupsB (matchGroups parts opts groupsA groupsB) := by
  obtain ⟨emits,only⟩ := matched_emits parts {} (fun entry inside =>
    completeA entry.1 entry.2 (ExtTreeMap.mem_toList_iff_getElem?_eq_some.mp inside)) completeB
  rw [ExtTreeMap.map_fst_toList_eq_keys] at emits only
  refine ⟨?_,?_,only,?_,emits.keyPairs⟩
  · exact emits.rows.trans (by rw [flatMap_map]; rfl)
  · exact emits.derived.trans (by rw [flatMap_map]; rfl)
  · refine filter_congr fun key _ => ?_
    simp only [ExtTreeMap.mem_iff_contains]
    cases groupsA.contains key <;> rfl

theorem mem_shared (key : String) : key ∈ shared groupsA groupsB ↔ key ∈ groupsA ∧ key ∈ groupsB := by
  rw [shared,mem_filter,ExtTreeMap.mem_keys,decide_eq_true_iff]

theorem mem_lone (key : String) : key ∈ lone groupsA groupsB ↔ key ∈ groupsA ∧ key ∉ groupsB := by
  rw [lone,mem_filter,ExtTreeMap.mem_keys,decide_eq_true_iff]

theorem blocks_append (names merged : List String) (pairs : List (String × String))
    (apart : ∀ key ∈ merged, key ∉ groupsB) :
    blocks names (shared groupsA groupsB) (threadsOf groupsB) ++
        (merged.map fun key => (key,mergedThreads groupsB pairs key)).flatMap (block names) =
      blocks names (shared groupsA groupsB ++ merged) (rowThreads groupsB pairs) := by
  rw [blocks,blocks,flatMap_append,flatMap_map]
  congr 1
  · refine flatMap_congr fun key inside => ?_
    rw [rowThreads,if_pos ((mem_shared groupsA groupsB key).mp inside).2]
  · refine flatMap_congr fun key inside => ?_
    rw [rowThreads,if_neg (apart key inside)]
    rfl

/-- One row for each baseline key of the pairs, with the threads of its candidates. -/
structure Merges (before after : CtprofDiff) (pairs : List (String × String)) (keys : List String) : Prop where
  distinct : keys.Nodup
  members : ∀ key, key ∈ keys ↔ key ∈ pairs.map Prod.fst
  emits : Emits before after (keys.map fun key => (key,mergedThreads groupsB pairs key))

theorem filter_absent (pairs : List (String × String)) (key : String) (absent : key ∉ pairs.map Prod.fst) :
    (pairs.filter fun pair => pair.1 = key) = [] := by
  refine filter_eq_nil_iff.mpr fun pair inside same => absent ?_
  exact mem_map.mpr ⟨pair,inside,of_decide_eq_true same⟩

theorem Merges.trans {first second third : CtprofDiff} {pairs more : List (String × String)}
    {keys others : List String} (start : Merges groupsB first second pairs keys)
    (next : Merges groupsB second third more others) (fresh : ∀ pair ∈ more, pair.1 ∉ pairs.map Prod.fst) :
    Merges groupsB first third (pairs ++ more) (keys ++ others) := by
  have apart (key : String) (inside : key ∈ others) : key ∉ pairs.map Prod.fst := by
    obtain ⟨pair,pairIn,rfl⟩ := mem_map.mp ((next.members key).mp inside)
    exact fresh pair pairIn
  refine ⟨nodup_append.mpr ⟨start.distinct,next.distinct,?_⟩,fun key => ?_,?_⟩
  · rintro key inside other otherIn rfl
    exact apart key otherIn ((start.members key).mp inside)
  · rw [mem_append,start.members,next.members,map_append,mem_append]
  · refine Eq.mp (congrArg (Emits first third) ?_) (start.emits.trans _ _ _ _ _ next.emits)
    rw [map_append]
    congr 1
    · refine map_congr_left fun key inside => ?_
      rw [mergedThreads,mergedThreads,filter_append,filter_absent more key,append_nil]
      intro later
      exact apart key ((next.members key).mpr later) ((start.members key).mp inside)
    · refine map_congr_left fun key inside => ?_
      rw [mergedThreads,mergedThreads,filter_append,filter_absent pairs key (apart key inside),nil_append]

theorem merged_emits {pairs : List (String × String)} (diff : CtprofDiff) (completeA : AllComplete groupsA)
    (completeB : AllComplete groupsB) (presentA : ∀ pair ∈ pairs, pair.1 ∈ groupsA)
    (presentB : ∀ pair ∈ pairs, pair.2 ∈ groupsB) : ∃ keys : List String,
    Merges groupsB diff (emitFudgedRows parts groupsA groupsB diff (byBaseline pairs)) pairs keys := by
  obtain ⟨keys,distinct,members,entries⟩ := byBaseline_toList pairs
  refine ⟨keys,distinct,members,?_⟩
  unfold emitFudgedRows
  have emits := fudged_emits parts groupsA (byBaseline pairs).toList diff completeA completeB
  rw [entries] at emits ⊢
  have listed (key : String) (inside : key ∈ keys) : ∃ pair ∈ pairs, pair.1 = key :=
    mem_map.mp ((members key).mp inside)
  have result := emits ?_ ?_ ?_
  · rw [map_map] at result
    refine Eq.mp (congrArg (Emits diff _) (map_congr_left fun key _ => ?_)) result
    rw [Function.comp,map_map]
    rfl
  · refine forall_mem_map.mpr fun key inside => ?_
    obtain ⟨pair,member,rfl⟩ := listed key inside
    exact presentA pair member
  · refine forall_mem_map.mpr fun key inside => ?_
    obtain ⟨pair,member,rfl⟩ := listed key inside
    exact ne_nil_of_mem (mem_map_of_mem (mem_filter.mpr ⟨member,decide_eq_true rfl⟩))
  · refine forall_mem_map.mpr fun key _ => forall_mem_map.mpr fun pair member => ?_
    exact presentB pair (mem_filter.mp member).1

theorem fudge_outcome (cgKey : ThreadState σ → String) (baseline candidate : CtprofSnapshot σ) {diff : CtprofDiff}
    (completeA : AllComplete groupsA) (completeB : AllComplete groupsB)
    (marked : ∀ key ∈ groupsA, nulMark ∈ key.toList) (matched : Matched groupsA groupsB diff) :
    ∃ merged, Outcome groupsA groupsB merged (fudge parts cgKey baseline candidate groupsA groupsB diff) := by
  have distinct : (lone groupsA groupsB).Nodup := keys_nodup.filter _
  unfold fudge
  dsimp only
  generalize unmatchedPrefixes groupsA groupsB diff.onlyBaseline = prefixesA
  generalize unmatchedPrefixes groupsA groupsB diff.onlyCandidate = prefixesB
  generalize cgTypes cgKey prefixesA baseline.threads = typesA
  generalize cgTypes cgKey prefixesB candidate.threads = typesB
  have once := fudgedCgroups_once prefixesA prefixesB typesA typesB
  generalize fudgedCgroups prefixesA prefixesB typesA typesB = fudgedCg at once ⊢
  rw [matched.onlyBaseline,matched.onlyCandidate]
  have first := fudged_pairing (lone groupsB groupsA) fudgedCg distinct
    (fun key inside => marked key ((mem_lone groupsA groupsB key).mp inside).1) once
  generalize fudgedCg.flatMap (suffixMatches (lone groupsA groupsB) (lone groupsB groupsA)) = fudged at first ⊢
  obtain ⟨pairing,fresh⟩ := cascade_pairing (lone groupsA groupsB) (lone groupsB groupsA) fudgedCg fudged {} distinct
    (by simpa using first) (by simp)
  generalize fudgedCg.foldl (cascadeStep (lone groupsA groupsB) (lone groupsB groupsA) fudged) {} = cascade
    at pairing fresh ⊢
  have inA (pair : String × String) (inside : pair ∈ fudged ++ cascade.cascaded) :=
    (mem_lone groupsA groupsB _).mp (pairing.fst pair inside)
  have inB (pair : String × String) (inside : pair ∈ fudged ++ cascade.cascaded) :=
    ((mem_lone groupsB groupsA _).mp (pairing.snd pair inside)).1
  obtain ⟨keysF,mergesF⟩ := merged_emits parts groupsA groupsB diff completeA completeB
    (fun pair inside => (inA pair (mem_append_left _ inside)).1) fun pair inside => inB pair (mem_append_left _ inside)
  obtain ⟨keysC,mergesC⟩ := merged_emits parts groupsA groupsB
    (emitFudgedRows parts groupsA groupsB diff (byBaseline fudged)) completeA completeB
    (fun pair inside => (inA pair (mem_append_right _ inside)).1) fun pair inside => inB pair (mem_append_right _ inside)
  obtain ⟨distinct,members,emits⟩ := mergesF.trans groupsB mergesC fresh
  have apart (key : String) (inside : key ∈ keysF ++ keysC) : key ∉ groupsB := by
    obtain ⟨pair,pairIn,rfl⟩ := mem_map.mp ((members key).mp inside)
    exact (inA pair pairIn).2
  have tags (names : List String) :=
    blocks_append groupsA groupsB names (keysF ++ keysC) (fudged ++ cascade.cascaded) apart
  refine ⟨keysF ++ keysC,?_,?_,pairing,distinct,members,List.Perm.refl _,List.Perm.refl _⟩
  · refine List.Perm.of_eq (emits.rows.trans ?_)
    rw [matched.rows]
    exact tags ctprofMetrics
  · refine List.Perm.of_eq (emits.derived.trans ?_)
    rw [matched.derived]
    exact tags derivedNames

end

section
variable (groupsA groupsB : ExtTreeMap String ThreadGroup) (merged : List String) (diff : CtprofDiff)

theorem matched_outcome (matched : Matched groupsA groupsB diff) : Outcome groupsA groupsB [] diff := by
  have tags (names : List String) := blocks_append groupsA groupsB names [] diff.fudgedKeyPairs (by simp)
  refine ⟨?_,?_,?_,nodup_nil,?_,?_,?_⟩
  · rw [matched.rows,← tags]
    simp
  · rw [matched.derived,← tags]
    simp
  · rw [matched.keyPairs]
    exact ⟨by simp,by simp,nodup_nil⟩
  · rw [matched.keyPairs]
    simp
  · rw [matched.keyPairs,matched.onlyBaseline]
    simp
  · rw [matched.keyPairs,matched.onlyCandidate]
    simp

theorem outcome_reorder (after : CtprofDiff) (outcome : Outcome groupsA groupsB merged diff)
    (rows : (rowTags after).Perm (rowTags diff)) (derived : (derivedTags after).Perm (derivedTags diff))
    (onlyBaseline : after.onlyBaseline.Perm diff.onlyBaseline)
    (onlyCandidate : after.onlyCandidate.Perm diff.onlyCandidate) (pairs : after.fudgedKeyPairs = diff.fudgedKeyPairs) :
    Outcome groupsA groupsB merged after := by
  obtain ⟨rows',derived',pairing,distinct,members,onlyBaseline',onlyCandidate'⟩ := outcome
  rw [← pairs] at rows' derived' pairing members onlyBaseline' onlyCandidate'
  exact ⟨rows.trans rows',derived.trans derived',pairing,distinct,members,onlyBaseline.trans onlyBaseline',
    onlyCandidate.trans onlyCandidate'⟩

theorem tags_unique (names keys : List String) (threads : String → Nat) (tags : List (String × Nat × String))
    (distinct : names.Nodup) (once : keys.Nodup) (rows : tags.Perm (blocks names keys threads)) :
    (tags.map fun tag => (tag.1,tag.2.2)).Nodup := by
  rw [(rows.map _).nodup_iff,blocks,map_flatMap,nodup_flatMap]
  refine ⟨fun key _ => ?_,once.imp fun {first second} differ => ?_⟩
  · rw [block,map_map]
    exact distinct.map fun first second same => (Prod.mk.inj same).2
  · rw [Function.onFun_apply]
    intro tag firstIn secondIn
    simp only [block,map_map,mem_map] at firstIn secondIn
    obtain ⟨name,_,rfl⟩ := firstIn
    obtain ⟨other,_,same⟩ := secondIn
    exact differ (Prod.mk.inj same).1.symm

variable {groupsA groupsB merged diff} (outcome : Outcome groupsA groupsB merged diff)
include outcome

theorem outcome_keys : (shared groupsA groupsB ++ merged).Nodup := by
  refine nodup_append.mpr ⟨keys_nodup.filter _,outcome.distinct,?_⟩
  rintro key both _ inside rfl
  obtain ⟨pair,member,rfl⟩ := mem_map.mp ((outcome.merged key).mp inside)
  exact ((mem_lone _ _ _).mp (outcome.pairing.fst pair member)).2 ((mem_shared _ _ _).mp both).2

theorem row_mem (row : DiffRow) (inside : row ∈ diff.rows) :
    row.groupKey ∈ shared groupsA groupsB ++ merged ∧
      row.threadCountB = rowThreads groupsB diff.fudgedKeyPairs row.groupKey := by
  have tagged : (row.groupKey,row.threadCountB,row.metricName) ∈ rowTags diff := mem_map_of_mem inside
  obtain ⟨key,keyIn,here⟩ := mem_flatMap.mp (outcome.rows.subset tagged)
  obtain ⟨name,-,same⟩ := mem_map.mp here
  obtain ⟨rfl,same⟩ := Prod.mk.inj same
  exact ⟨keyIn,(Prod.mk.inj same).1.symm⟩

theorem row_exists (key : String) :
    (∃ row ∈ diff.rows, row.groupKey = key) ↔ key ∈ shared groupsA groupsB ++ merged := by
  constructor
  · rintro ⟨row,inside,rfl⟩
    exact (row_mem outcome row inside).1
  · intro inside
    have tagged := outcome.rows.symm.subset (mem_flatMap.mpr ⟨key,inside,mem_map.mpr ⟨"thread_count",by simp [ctprofMetrics],rfl⟩⟩)
    obtain ⟨row,rowIn,same⟩ := mem_map.mp tagged
    exact ⟨row,rowIn,(Prod.mk.inj same).1⟩

theorem mem_onlyBaseline (key : String) : key ∈ diff.onlyBaseline ↔
    (key ∈ groupsA ∧ key ∉ groupsB) ∧ key ∉ diff.fudgedKeyPairs.map Prod.fst := by
  rw [outcome.onlyBaseline.mem_iff,mem_filter,mem_lone,decide_eq_true_iff]

theorem mem_onlyCandidate (key : String) : key ∈ diff.onlyCandidate ↔
    (key ∈ groupsB ∧ key ∉ groupsA) ∧ key ∉ diff.fudgedKeyPairs.map Prod.snd := by
  rw [outcome.onlyCandidate.mem_iff,mem_filter,mem_lone,decide_eq_true_iff]

theorem mem_fst (key : String) (inside : key ∈ diff.fudgedKeyPairs.map Prod.fst) : key ∈ groupsA ∧ key ∉ groupsB := by
  obtain ⟨pair,pairIn,rfl⟩ := mem_map.mp inside
  exact (mem_lone _ _ _).mp (outcome.pairing.fst pair pairIn)

theorem mem_snd (key : String) (inside : key ∈ diff.fudgedKeyPairs.map Prod.snd) : key ∈ groupsB ∧ key ∉ groupsA := by
  obtain ⟨pair,pairIn,rfl⟩ := mem_map.mp inside
  exact (mem_lone _ _ _).mp (outcome.pairing.snd pair pairIn)

theorem onlyBaseline_nodup : diff.onlyBaseline.Nodup :=
  outcome.onlyBaseline.nodup_iff.mpr ((keys_nodup.filter _).filter _)

theorem onlyCandidate_nodup : diff.onlyCandidate.Nodup :=
  outcome.onlyCandidate.nodup_iff.mpr ((keys_nodup.filter _).filter _)

theorem keys_split : groupsB.keys.Perm
    (shared groupsA groupsB ++ (diff.fudgedKeyPairs.map Prod.snd ++ diff.onlyCandidate)) := by
  rw [perm_ext_iff_of_nodup keys_nodup]
  · intro key
    rw [ExtTreeMap.mem_keys,mem_append,mem_append,mem_shared,mem_onlyCandidate outcome]
    constructor
    · intro inside
      by_cases both : key ∈ groupsA
      · exact Or.inl ⟨both,inside⟩
      · by_cases merged : key ∈ diff.fudgedKeyPairs.map Prod.snd
        · exact Or.inr (Or.inl merged)
        · exact Or.inr (Or.inr ⟨⟨inside,both⟩,merged⟩)
    · rintro (both | merged | only)
      · exact both.2
      · exact (mem_snd outcome key merged).1
      · exact only.1.1
  · refine nodup_append.mpr ⟨keys_nodup.filter _,
      nodup_append.mpr ⟨outcome.pairing.once,onlyCandidate_nodup outcome,?_⟩,?_⟩
    · rintro key merged _ only rfl
      exact ((mem_onlyCandidate outcome key).mp only).2 merged
    · rintro key both _ rest rfl
      have inA := ((mem_shared _ _ key).mp both).1
      rcases mem_append.mp rest with merged | only
      · exact (mem_snd outcome key merged).2 inA
      · exact ((mem_onlyCandidate outcome key).mp only).1.2 inA

theorem merged_sum : (merged.map (rowThreads groupsB diff.fudgedKeyPairs)).sum =
    ((diff.fudgedKeyPairs.map Prod.snd).map (threadsOf groupsB)).sum := by
  have apart : merged.map (rowThreads groupsB diff.fudgedKeyPairs) =
      merged.map (mergedThreads groupsB diff.fudgedKeyPairs) := by
    refine map_congr_left fun key inside => ?_
    rw [rowThreads,if_neg (mem_fst outcome key ((outcome.merged key).mp inside)).2]
    rfl
  rw [apart,map_map]
  exact sum_by_key outcome.distinct
    fun pair inside => (outcome.merged pair.1).mpr (mem_map_of_mem inside)

theorem threads_split : (groupsB.keys.map (threadsOf groupsB)).sum =
    ((shared groupsA groupsB ++ merged).map (rowThreads groupsB diff.fudgedKeyPairs)).sum +
      (diff.onlyCandidate.map (threadsOf groupsB)).sum := by
  have sharedRows : (shared groupsA groupsB).map (rowThreads groupsB diff.fudgedKeyPairs) =
      (shared groupsA groupsB).map (threadsOf groupsB) := by
    refine map_congr_left fun key inside => ?_
    rw [rowThreads,if_pos ((mem_shared _ _ key).mp inside).2]
  rw [((keys_split outcome).map _).sum_eq,map_append,sum_append,map_append,sum_append,
    map_append,sum_append,sharedRows,merged_sum outcome]
  omega

theorem outcome_accounted (threads : Nat) (total : (groupsB.keys.map (threadsOf groupsB)).sum = threads) :
    Accounted groupsA groupsB threads diff := by
  have keys := outcome_keys outcome
  have rowKey (key : String) : (∃ row ∈ diff.rows, row.groupKey = key) ↔
      (key ∈ groupsA ∧ key ∈ groupsB) ∨ key ∈ diff.fudgedKeyPairs.map Prod.fst := by
    rw [row_exists outcome,mem_append,mem_shared,outcome.merged]
  refine ⟨?_,?_,⟨onlyBaseline_nodup outcome,?_⟩,?_,?_,⟨onlyCandidate_nodup outcome,?_⟩,?_,?_,?_,?_⟩
  · intro key inside
    rw [rowKey,mem_onlyBaseline outcome]
    by_cases both : key ∈ groupsB
    · exact Or.inl ⟨Or.inl ⟨inside,both⟩,fun only => only.1.2 both⟩
    · by_cases merged : key ∈ diff.fudgedKeyPairs.map Prod.fst
      · exact Or.inl ⟨Or.inr merged,fun only => only.2 merged⟩
      · exact Or.inr ⟨⟨⟨inside,both⟩,merged⟩,fun rows => rows.elim (fun matched => both matched.2) merged⟩
  · intro row inside
    rcases (rowKey row.groupKey).mp ⟨row,inside,rfl⟩ with both | merged
    · exact both.1
    · exact (mem_fst outcome _ merged).1
  · exact fun key inside => ((mem_onlyBaseline outcome key).mp inside).1.1
  · intro key inside
    rw [mem_onlyCandidate outcome]
    by_cases merged : key ∈ diff.fudgedKeyPairs.map Prod.snd
    · have alone := (mem_snd outcome key merged).2
      obtain ⟨pair,pairIn,rfl⟩ := mem_map.mp merged
      refine Or.inr (Or.inl ⟨alone,⟨pair.1,pairIn,fun bkey other => ?_⟩,fun only => only.2 merged⟩)
      exact congrArg Prod.fst (inj_on_of_nodup_map outcome.pairing.once other pairIn rfl)
    · have unpaired : ¬ ∃! bkey, (bkey,key) ∈ diff.fudgedKeyPairs := by
        rintro ⟨bkey,pairIn,-⟩
        exact merged (mem_map.mpr ⟨_,pairIn,rfl⟩)
      by_cases both : key ∈ groupsA
      · exact Or.inl ⟨both,unpaired,fun only => only.1.2 both⟩
      · exact Or.inr (Or.inr ⟨both,unpaired,⟨inside,both⟩,merged⟩)
  · intro pair inside
    exact ⟨(mem_snd outcome _ (mem_map_of_mem inside)).1,(rowKey pair.1).mpr (Or.inr (mem_map_of_mem inside))⟩
  · exact fun key inside => ((mem_onlyCandidate outcome key).mp inside).1.1
  · have unique := tags_unique ctprofMetrics _ _ _ (by decide +kernel) keys outcome.rows
    rwa [rowTags,map_map] at unique
  · have unique := tags_unique derivedNames _ _ _ (by decide +kernel) keys outcome.derived
    rwa [derivedTags,map_map] at unique
  · intro row inside
    exact (row_mem outcome row inside).2
  · have same : (diff.rows.map DiffRow.groupKey).dedup.Perm (shared groupsA groupsB ++ merged) := by
      rw [perm_ext_iff_of_nodup (nodup_dedup _) keys]
      intro key
      rw [mem_dedup,mem_map,row_exists outcome]
    rw [(same.map _).sum_eq,← total,threads_split outcome]

end

theorem fillUptime_tags {nowB : Nat} {groupsA groupsB : ExtTreeMap String ThreadGroup} {diff : CtprofDiff} :
    rowTags (fillUptime nowB groupsA groupsB diff) = rowTags diff := by
  unfold rowTags fillUptime
  rw [map_map]
  refine map_congr_left fun row _ => ?_
  dsimp only [Function.comp]
  split
  · rfl
  · rfl

/-- Every group of either side is accounted for once, and so is every candidate thread. -/
theorem groups_accounted_once {σ : Type} (parts : Parts σ) (opts : CompareOptions) (baseline candidate : CtprofSnapshot σ) :
    Accounted (groupsOf parts opts baseline candidate baseline) (groupsOf parts opts baseline candidate candidate)
      candidate.threads.length (Source.ProfileDiff.compare parts opts baseline candidate) := by
  have sideA : Grouping (groupsOf parts opts baseline candidate baseline) baseline.threads.length :=
    buildGroups_grouping _ _ _ _ _ _ _
  have sideB : Grouping (groupsOf parts opts baseline candidate candidate) candidate.threads.length :=
    buildGroups_grouping _ _ _ _ _ _ _
  have marked (all : opts.groupBy = .all) (key : String) (inside : key ∈ groupsOf parts opts baseline candidate baseline) :
      nulMark ∈ key.toList := buildGroups_marked _ _ _ _ _ _ _ all inside
  unfold Source.ProfileDiff.compare
  dsimp only
  generalize groupsOf parts opts baseline candidate baseline = groupsA at sideA marked ⊢
  generalize groupsOf parts opts baseline candidate candidate = groupsB at sideB ⊢
  have matched := matchGroups_matched parts groupsA groupsB opts sideA.complete sideB.complete
  generalize matchGroups parts opts groupsA groupsB = diff at matched ⊢
  generalize cgroupKey (flattenOf parts opts) (keyMapOf parts opts baseline candidate) = cgKey
  have outcome : ∃ merged, Outcome groupsA groupsB merged
      (if opts.groupBy = .all ∧ diff.onlyBaseline ≠ [] ∧ diff.onlyCandidate ≠ [] then
        fudge parts cgKey baseline candidate groupsA groupsB diff else diff) := by
    split
    next fudging =>
      exact fudge_outcome parts groupsA groupsB cgKey baseline candidate sideA.complete sideB.complete
        (marked fudging.1) matched
    next => exact ⟨[],matched_outcome groupsA groupsB diff matched⟩
  obtain ⟨merged,outcome⟩ := outcome
  generalize (if opts.groupBy = .all ∧ diff.onlyBaseline ≠ [] ∧ diff.onlyCandidate ≠ [] then
    fudge parts cgKey baseline candidate groupsA groupsB diff else diff) = after at outcome ⊢
  refine @outcome_accounted groupsA groupsB merged _ ?_ _ sideB.total
  have filled := outcome_reorder groupsA groupsB merged after
    (fillUptime ((candidate.threads.map ThreadState.startTimeClockTicks).max?.getD 0) groupsA groupsB {after with
        onlyBaseline := after.onlyBaseline.mergeSort (· ≤ ·),onlyCandidate := after.onlyCandidate.mergeSort (· ≤ ·)})
    outcome (List.Perm.of_eq fillUptime_tags) (List.Perm.refl _) (mergeSort_perm _ _)
    (mergeSort_perm _ _) rfl
  split
  · exact outcome_reorder groupsA groupsB merged _ _ filled ((mergeSort_perm _ _).map _)
      ((mergeSort_perm _ _).map _) (List.Perm.refl _) (List.Perm.refl _) rfl
  · exact outcome_reorder groupsA groupsB merged _ _ filled ((mergeSort_perm _ _).map _)
      ((mergeSort_perm _ _).map _) (List.Perm.refl _) (List.Perm.refl _) rfl

end Ktstr.ProfileAccounting
