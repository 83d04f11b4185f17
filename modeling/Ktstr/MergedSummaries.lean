import Ktstr.ProfileAccounting

/-! Summaries of thread groups, merged one into another, against the summary of all their
threads: they agree but for sums that pass the largest `u64`. -/
namespace Ktstr.MergedSummaries
open Std (ExtTreeMap LawfulEqCmp)
open List Library.Machine Library.Maps Source.ThreadGroups Source.ProfileDiff ProfileAccounting

section
variable {σ : Type}

def total (read : σ → Nat) (threads : List (ThreadState σ)) : Nat := (threads.map fun t => read t.readings).sum

/-- The sums of the groups, each cut at the largest `u64`, do not pass it together. -/
def Fits (rule : AggRule σ) (groups : List (List (ThreadState σ))) : Prop :=
  match rule with
  | .sum read => (groups.map fun threads => min (total read threads) u64Max).sum ≤ u64Max
  | _ => True

end

def overflows : Aggregated → Aggregated → Bool
  | .sum existing,.sum value => decide (u64Max < existing + value)
  | _,_ => false

def mergeAll (existing : Aggregated) (values : List Aggregated) : Aggregated :=
  values.foldl mergeAggregatedInto existing

/-- No merge on the way adds past the largest `u64`. -/
def Unwrapped : Aggregated → List Aggregated → Prop
  | _,[] => True
  | existing,value::values => overflows existing value = false ∧ Unwrapped (mergeAggregatedInto existing value) values

theorem sums_unwrapped (values : List Nat) (start : Nat) (bound : start ≤ u64Max) :
    (Unwrapped (.sum start) (values.map Aggregated.sum) ↔ start + values.sum ≤ u64Max) ∧
      (start + values.sum ≤ u64Max → mergeAll (.sum start) (values.map .sum) = .sum (start + values.sum)) := by
  induction values generalizing start with
  | nil => exact ⟨iff_of_true trivial bound,fun _ => rfl⟩
  | cons value values ih =>
    rw [map_cons,Unwrapped,sum_cons,← Nat.add_assoc]
    by_cases fits : start + value ≤ u64Max
    · have merged : mergeAggregatedInto (.sum start) (.sum value) = .sum (start + value) :=
        congrArg Aggregated.sum (Nat.mod_eq_of_lt (show start + value < 2 ^ 64 from Nat.lt_succ_of_le fits))
      obtain ⟨unwrapped,result⟩ := ih (start + value) fits
      rw [mergeAll,foldl_cons,merged,← unwrapped]
      exact ⟨and_iff_right (decide_eq_false (Nat.not_lt.mpr fits)),fun all => result (unwrapped.mp all)⟩
    · have past : ¬ start + value + values.sum ≤ u64Max := by omega
      refine ⟨iff_of_false (fun both => ?_) past,fun all => absurd all past⟩
      exact fits (Nat.not_lt.mp (of_decide_eq_false both.1))

section
variable {σ : Type}

theorem aggregate_sum {read : σ → Nat} {threads : List (ThreadState σ)} :
    aggregate (.sum read) threads = .sum (min (total read threads) u64Max) := by
  have saturates (start : Nat) (bound : start ≤ u64Max) :
      threads.foldl (fun sum t => min (sum + read t.readings) u64Max) start = min (start + total read threads) u64Max := by
    induction threads generalizing start with
    | nil => exact (Nat.min_eq_left bound).symm
    | cons t threads ih =>
      rw [foldl_cons,ih _ (Nat.min_le_right _ _),total,total,map_cons,sum_cons]
      omega
  rw [aggregate,saturates 0 (Nat.zero_le _),Nat.zero_add]

theorem cut_sum (values : List Nat) (fits : (values.map (min · u64Max)).sum ≤ u64Max) :
    (values.map (min · u64Max)).sum = min values.sum u64Max := by
  induction values with
  | nil => rfl
  | cons value values ih =>
    simp only [map_cons,sum_cons] at fits ⊢
    omega

theorem tallies_get (read : σ → String) (threads : List (ThreadState σ)) (name : String) :
    (threads.foldl (fun tallies t => tallies.insert (read t.readings) (tallies[read t.readings]?.getD 0 + 1))
        (∅ : ExtTreeMap String Nat))[name]? =
      if (threads.map fun t => read t.readings).count name = 0 then none
      else some ((threads.map fun t => read t.readings).count name) := by
  induction threads using List.reverseRecOn with
  | nil => exact ExtTreeMap.getElem?_empty
  | append_singleton threads t ih =>
    rw [foldl_concat,ExtTreeMap.getElem?_insert,map_append]
    by_cases here : read t.readings = name
    · subst here
      rw [ih]
      by_cases fresh : (threads.map fun t => read t.readings).count (read t.readings) = 0 <;> simp [fresh]
    · simp [here,ih]

theorem foldl_join {α β : Type} (op : β → β → β) [Std.Associative op] (f : α → β) (start : β)
    (xs : List α) (y : α) (ys : List α) : (xs ++ y::ys).foldl (fun acc x => op acc (f x)) start =
      op (xs.foldl (fun acc x => op acc (f x)) start) (ys.foldl (fun acc x => op acc (f x)) (f y)) := by
  have mapped (first : β) : ys.foldl (fun acc x => op acc (f x)) first = (ys.map f).foldl op first := foldl_map.symm
  rw [foldl_append,foldl_cons,mapped,mapped]
  exact @foldl_assoc _ op _ _ _ _

theorem uniform_join {α : Type} [DecidableEq α] (x y : α) (xs ys : List α) :
    (if (xs ++ y::ys).all (· = x) then some x else none) =
      if (if xs.all (· = x) then some x else none) = (if ys.all (· = y) then some y else none) then
        (if xs.all (· = x) then some x else none) else none := by
  rw [all_append,all_cons]
  by_cases same : y = x
  · subst same
    cases xs.all (· = y) <;> cases ys.all (· = y) <;> simp
  · cases xs.all (· = x) <;> cases ys.all (· = y) <;> simp [same,Ne.symm same]

/-- Outside sums, the summary of two groups is the merge of theirs. -/
theorem merge_aggregate (rule : AggRule σ) (xs ys : List (ThreadState σ)) (someX : xs ≠ []) (someY : ys ≠ [])
    (other : ∀ read, rule ≠ .sum read) :
    mergeAggregatedInto (aggregate rule xs) (aggregate rule ys) = aggregate rule (xs ++ ys) := by
  cases rule with
  | sum read => exact absurd rfl (other read)
  | mode read =>
    refine congrArg₂ Aggregated.mode (ExtTreeMap.ext_getElem? fun name => ?_) length_append.symm
    refine (getElem?_foldl_insert (fun old count => old.getD 0 + count) fun _ _ _ => rfl).trans ?_
    rw [tallies_get,tallies_get,tallies_get,map_append]
    by_cases inX : (xs.map fun t => read t.readings).count name = 0 <;>
      by_cases inY : (ys.map fun t => read t.readings).count name = 0 <;> simp [inX,inY]
  | _ read =>
    obtain ⟨x,xs,rfl⟩ := exists_cons_of_ne_nil someX
    obtain ⟨y,ys,rfl⟩ := exists_cons_of_ne_nil someY
    rw [cons_append]
    simp only [aggregate,mergeAggregatedInto,map_cons,map_append,min?_cons',max?_cons',Option.getD_some,
      foldl_join Min.min,foldl_join Max.max,uniform_join,foldl_cons,foldl_map,Nat.zero_max]

/-- Merging the summaries of groups gives the summary of all their threads, with no addition
that wraps, for exactly those whose sums fit. -/
theorem mergeAll_aggregate (rule : AggRule σ) (first : List (ThreadState σ)) (rest : List (List (ThreadState σ)))
    (some : ∀ threads ∈ first::rest, threads ≠ []) :
    Unwrapped (aggregate rule first) (rest.map (aggregate rule)) ∧
      mergeAll (aggregate rule first) (rest.map (aggregate rule)) = aggregate rule (first::rest).flatten ↔
        Fits rule (first::rest) := by
  by_cases sum : ∃ read, rule = .sum read
  · obtain ⟨read,rfl⟩ := sum
    obtain ⟨unwrapped,merged⟩ := sums_unwrapped (rest.map fun threads => min (total read threads) u64Max)
      (min (total read first) u64Max) (Nat.min_le_right _ _)
    have summaries : rest.map (aggregate (.sum read)) =
        (rest.map fun threads => min (total read threads) u64Max).map Aggregated.sum := by
      rw [map_map]
      exact map_congr_left fun threads _ => aggregate_sum
    have whole : (((first::rest).map (total read)).map (min · u64Max)).sum =
        min (total read first) u64Max + (rest.map fun threads => min (total read threads) u64Max).sum := by
      rw [map_map]
      rfl
    have split : ((first::rest).map (total read)).sum = total read (first::rest).flatten := by
      rw [total,map_flatten,sum_flatten,map_map]
      rfl
    have cut := cut_sum ((first::rest).map (total read))
    rw [whole,split] at cut
    rw [summaries,aggregate_sum,unwrapped]
    refine and_iff_left_of_imp fun fits => (merged fits).trans ?_
    rw [aggregate_sum,cut fits]
  · refine iff_of_true ?_ (by cases rule <;> first | trivial | exact absurd ⟨_,rfl⟩ sum)
    induction rest generalizing first with
    | nil => exact ⟨trivial,by rw [flatten_singleton]; rfl⟩
    | cons next rest ih =>
      have merged := merge_aggregate rule first next (some _ mem_cons_self) (some _ (mem_cons_of_mem _ mem_cons_self))
        fun read same => sum ⟨read,same⟩
      have joined : ∀ threads ∈ (first ++ next)::rest, threads ≠ [] := by
        intro threads inside
        rcases mem_cons.mp inside with rfl | later
        · exact append_ne_nil_of_left_ne_nil (some _ mem_cons_self) _
        · exact some _ (mem_cons_of_mem _ (mem_cons_of_mem _ later))
      obtain ⟨unwrapped,result⟩ := ih (first ++ next) joined
      rw [map_cons,Unwrapped,mergeAll,foldl_cons,merged]
      refine ⟨⟨?_,unwrapped⟩,result.trans ?_⟩
      · cases rule <;> cases first <;> first | rfl | exact absurd ⟨_,rfl⟩ sum
      · rw [flatten_cons,flatten_cons,flatten_cons,append_assoc]

end

theorem mergeGroups_value {groupsB : ExtTreeMap String ThreadGroup} {value : String → Aggregated} {name : String}
    {ckey : String} {ckeys : List String}
    (given : ∀ key ∈ ckey::ckeys, ∃ gb : ThreadGroup, groupsB[key]? = some gb ∧ gb.metrics[name]? = some (value key)) :
    (mergeGroups groupsB (ckey::ckeys)).2[name]? = some (mergeAll (value ckey) (ckeys.map value)) := by
  induction ckeys using List.reverseRecOn with
  | nil =>
    obtain ⟨gb,found,there⟩ := given ckey mem_cons_self
    obtain ⟨metrics,merged,grown⟩ := mergeGroups_concat [] found
    rw [nil_append] at merged
    rw [merged,grown name _ there]
    rfl
  | append_singleton ckeys key ih =>
    obtain ⟨gb,found,there⟩ := given key (mem_cons_of_mem _ (mem_append_right _ mem_cons_self))
    obtain ⟨metrics,merged,grown⟩ := mergeGroups_concat (ckey::ckeys) found
    have before := ih fun other inside => given other (mem_append_left [key] inside)
    rw [cons_append] at merged
    rw [merged,grown name _ there,before,map_append,mergeAll,mergeAll,foldl_append]
    rfl

section
variable {σ : Type} (parts : Parts σ) (groupBy : GroupBy) (flatten : Flatten)
  (cgroupKeyMap : Option (ExtTreeMap String String)) (noThreadNormalize : Bool) (rule : String → AggRule σ)
  (snap : CtprofSnapshot σ) (given : Option (ExtTreeMap String Nat)) (groupsA : ExtTreeMap String ThreadGroup)
  (bkey ckey : String) (ckeys : List String)

theorem fudged_candidate {row : DiffRow}
    (present : ∀ key ∈ ckey::ckeys, key ∈ buildGroups groupBy flatten cgroupKeyMap noThreadNormalize rule snap given)
    (shown : row ∈ (emitFudgedRow parts groupsA (buildGroups groupBy flatten cgroupKeyMap noThreadNormalize rule snap given)
      {} (bkey,ckey::ckeys)).rows) :
    let summary key := aggregate (rule row.metricName)
      (groupThreads groupBy flatten cgroupKeyMap noThreadNormalize snap given key)
    row.candidate = mergeAll (summary ckey) (ckeys.map summary) := by
  intro summary
  unfold emitFudgedRow at shown
  split at shown
  next => exact absurd shown not_mem_nil
  next ga _ =>
    obtain ⟨name,inside,emitted⟩ := mem_filterMap.mp shown
    split at emitted
    next a b _ found =>
      obtain rfl := Option.some.inj emitted
      refine Option.some.inj (found.symm.trans (mergeGroups_value fun key member => ?_))
      rw [buildGroups_get,if_neg ((mem_buildGroups ..).mp (present key member))]
      exact ⟨_,rfl,threadGroup_metric _ _ _ inside⟩
    next => exact absurd emitted (by simp)

/-- Two summaries merge into the summary of all the threads, and so do those of the
candidate groups of a merged row, exactly where their sums fit into a `u64`. -/
theorem merged_summary_iff (single : AggRule σ) (xs ys : List (ThreadState σ)) (someX : xs ≠ []) (someY : ys ≠ [])
    (present : ∀ key ∈ ckey::ckeys, key ∈ buildGroups groupBy flatten cgroupKeyMap noThreadNormalize rule snap given) :
    (overflows (aggregate single xs) (aggregate single ys) = false ∧
        mergeAggregatedInto (aggregate single xs) (aggregate single ys) = aggregate single (xs ++ ys) ↔
      Fits single [xs,ys]) ∧
    ∀ row ∈ (emitFudgedRow parts groupsA (buildGroups groupBy flatten cgroupKeyMap noThreadNormalize rule snap given)
        {} (bkey,ckey::ckeys)).rows,
      let threads := groupThreads groupBy flatten cgroupKeyMap noThreadNormalize snap given
      let summary key := aggregate (rule row.metricName) (threads key)
      Unwrapped (summary ckey) (ckeys.map summary) ∧
          row.candidate = aggregate (rule row.metricName) ((ckey::ckeys).flatMap threads) ↔
        Fits (rule row.metricName) ((ckey::ckeys).map threads) := by
  constructor
  · have law := mergeAll_aggregate single xs [ys] (by simp [someX,someY])
    rw [flatten_cons,flatten_singleton] at law
    rw [← law]
    exact and_congr_left' (and_iff_left trivial).symm
  · intro row shown threads summary
    rw [fudged_candidate parts groupBy flatten cgroupKeyMap noThreadNormalize rule snap given groupsA bkey ckey ckeys
      present shown]
    have law := mergeAll_aggregate (rule row.metricName) (threads ckey) (ckeys.map threads)
    rw [map_map] at law
    refine law fun group inside => ?_
    obtain ⟨key,member,rfl⟩ := mem_map.mp (show group ∈ (ckey::ckeys).map threads from inside)
    exact (mem_buildGroups ..).mp (present key member)

end

def worker (comm : String) (value : Nat) : ThreadState Nat := ⟨"app",comm,"/",0,value⟩

/-- The largest `u64` and one: the threads' sum stays at the largest, the merged one wraps to zero. -/
theorem largest_sum_wraps : ∃ xs ys : List (ThreadState Nat), xs ≠ [] ∧ ys ≠ [] ∧
    overflows (aggregate (.sum id) xs) (aggregate (.sum id) ys) = true ∧
    mergeAggregatedInto (aggregate (.sum id) xs) (aggregate (.sum id) ys) ≠ aggregate (.sum id) (xs ++ ys) := by
  refine ⟨[worker "a" u64Max],[worker "b" 1],cons_ne_nil _ _,cons_ne_nil _ _,by decide,fun same => ?_⟩
  exact absurd (Aggregated.sum.inj same) (by decide)

def pair : CtprofSnapshot Nat := {threads := [worker "a" 1,worker "b" 2]}

def summed : Parts Nat := ⟨fun _ => .sum id,fun _ _ => none,fun _ => none,fun _ => ""⟩

theorem small_sums_merge :
    mergeAggregatedInto (aggregate (.sum id) [worker "a" 1]) (aggregate (.sum id) [worker "b" 2]) = .sum 3 ∧
    ∀ row ∈ (emitFudgedRow summed (buildGroups .commExact [] none true summed.rule pair none)
      (buildGroups .commExact [] none true summed.rule pair none) {} ("a",["a","b"])).rows, row.candidate = .sum 3 := by
  have law := merged_summary_iff summed .commExact [] none true summed.rule pair none
    (buildGroups .commExact [] none true summed.rule pair none) "a" "a" ["b"] (.sum id) [worker "a" 1] [worker "b" 2]
    (cons_ne_nil _ _) (cons_ne_nil _ _) (fun key inside => (mem_buildGroups ..).mpr ?_)
  · refine ⟨(law.1.mpr ?_).2,fun row shown => ((law.2 row shown).mpr ?_).2⟩
    · show _ ≤ _
      decide
    · show _ ≤ _
      decide +kernel
  · rcases mem_pair.mp inside with rfl | rfl
    · exact cons_ne_nil _ _
    · exact cons_ne_nil _ _

end Ktstr.MergedSummaries
