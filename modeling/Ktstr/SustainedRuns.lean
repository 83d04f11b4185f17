import Ktstr.Library.Streaks
import Ktstr.Source.Monitor

/-! What the five sustained-violation trackers of the monitor detect. Four of them find
exactly the runs of consecutive violations; the stall tracker of a CPU also joins runs
across intervals in which the CPU is missing. -/
namespace Ktstr.SustainedRuns
open List Source.Monitor Library.Streaks Library.Machine

/-- Both samples of interval `j` have the CPU, and it is stuck between them. -/
def StuckAt (hz : Nat) (report : MonitorReport) (cpu j : Nat) : Prop :=
  ∃ prev curr, (report.samples[j - 1]?.bind fun sample => sample.cpus[cpu]?) = some prev ∧
    (report.samples[j]?.bind fun sample => sample.cpus[cpu]?) = some curr ∧
    isCpuStuck prev curr (stallThreshold hz report) = true

def ImbalancedAt (thresholds : MonitorThresholds) (report : MonitorReport) (j : Nat) : Prop :=
  ∃ sample, report.samples[j]? = some sample ∧ sample.cpus ≠ [] ∧
    imbalanceRatio sample > thresholds.maxImbalanceRatio

def DeepAt (thresholds : MonitorThresholds) (report : MonitorReport) (j : Nat) : Prop :=
  ∃ sample, report.samples[j]? = some sample ∧
    ∃ cpu ∈ sample.cpus, cpu.localDsqDepth > thresholds.maxLocalDsqDepth

def RateOverAt (field : ScxEventCounters → Int) (limit : ℚ) (report : MonitorReport) (j : Nat) : Prop :=
  ∃ prev curr rate, report.samples[j - 1]? = some prev ∧ report.samples[j]? = some curr ∧
    eventRate field prev curr = some rate ∧ rate > limit

/-- `k` consecutive indices from `start` on, all in violation. -/
def Window (start k : Nat) (violates : Nat → Prop) : Prop :=
  ∃ i, start ≤ i ∧ ∀ j, i ≤ j → j < i + k → violates j

/-- Details report runs of consecutive violations, and only those. -/
structure SustainedMeansConsecutive (hz : Nat) (thresholds : MonitorThresholds) (report : MonitorReport) : Prop where
  stall : ∀ cpu, (∃ run index clock, Detail.stall cpu run index clock ∈ (evaluate hz thresholds report).details) ↔
    Window 1 thresholds.sustainedSamples (StuckAt hz report cpu)
  imbalance : (∃ value limit run index,
      Detail.imbalance value limit run index ∈ (evaluate hz thresholds report).details) ↔
    Window 0 thresholds.sustainedSamples (ImbalancedAt thresholds report)
  dsq : (∃ depth cpu limit run index,
      Detail.localDsq depth cpu limit run index ∈ (evaluate hz thresholds report).details) ↔
    Window 0 thresholds.sustainedSamples (DeepAt thresholds report)
  fallback : (∃ value limit run index,
      Detail.fallbackRate value limit run index ∈ (evaluate hz thresholds report).details) ↔
    Window 1 thresholds.sustainedSamples
      (RateOverAt ScxEventCounters.selectCpuFallback thresholds.maxFallbackRate report)
  keepLast : (∃ value limit run index,
      Detail.keepLastRate value limit run index ∈ (evaluate hz thresholds report).details) ↔
    Window 1 thresholds.sustainedSamples
      (RateOverAt ScxEventCounters.dispatchKeepLast thresholds.maxKeepLastRate report)
  passed : (evaluate hz thresholds report).passed = false ↔
    thresholds.enforce = true ∧ (evaluate hz thresholds report).details ≠ []

/-- A CPU over the intervals: missing from one of the two samples, or stuck or not. -/
def history (threshold cpu : Nat) (samples : List MonitorSample) : List (Option Bool) :=
  (samples.zip samples.tail).map fun pair =>
    match pair.1.cpus[cpu]?,pair.2.cpus[cpu]? with
    | some prev,some curr => some (isCpuStuck prev curr threshold)
    | _,_ => none

/-- Stuck intervals that follow each other once the intervals without the CPU are left
out make a run only if there is one of adjacent intervals. With stall failures switched
off there must be none at all. -/
def GapsHarmless (hz : Nat) (thresholds : MonitorThresholds) (report : MonitorReport) : Prop :=
  ∀ cpu,
    if thresholds.failOnStall then
      Streak thresholds.sustainedSamples ((history (stallThreshold hz report) cpu report.samples).filterMap id) →
        Streak thresholds.sustainedSamples
          ((history (stallThreshold hz report) cpu report.samples).map (· == some true))
    else
      ¬ Streak thresholds.sustainedSamples
        ((history (stallThreshold hz report) cpu report.samples).map (· == some true))

/-! Trackers count streaks. -/

def counter (tracker : SustainedViolationTracker) : Counter := ⟨tracker.consecutive,tracker.worstRun⟩

theorem record_counter (tracker : SustainedViolationTracker) (violated : Bool) (value : ℚ) (index : Nat) :
    counter (tracker.record violated value index) = (counter tracker).push violated := by
  unfold SustainedViolationTracker.record counter Counter.push
  cases violated with
  | false => rfl
  | true =>
    simp only [if_true]
    split
    · simp only [Counter.mk.injEq,true_and]
      omega
    · simp only [Counter.mk.injEq,true_and]
      omega

theorem foldl_counter {ε : Type} (flag : ε → Bool) (step : SustainedViolationTracker → ε →
    SustainedViolationTracker) (records : ∀ tracker event, ∃ value index,
      step tracker event = tracker.record (flag event) value index)
    (events : List ε) (tracker : SustainedViolationTracker) :
    counter (events.foldl step tracker) = (events.map flag).foldl Counter.push (counter tracker) := by
  induction events generalizing tracker with
  | nil => rfl
  | cons event events ih =>
    obtain ⟨value,index,same⟩ := records tracker event
    rw [foldl_cons,ih,same,record_counter]
    rfl

variable (k : Nat)

theorem sustained_iff (pos : 0 < k) {tracker : SustainedViolationTracker} {flags : List Bool}
    (counted : counter tracker = Library.Streaks.count flags) : tracker.sustained k ↔ Streak k flags := by
  rw [← count_longest pos,← counted]
  simp [SustainedViolationTracker.sustained,counter]

theorem window_iff {start : Nat} (pos : 0 < k) {flags : List Bool} (violates : Nat → Prop)
    (same : ∀ m, flags[m]? = some true ↔ violates (m + start)) : Streak k flags ↔ Window start k violates := by
  rw [streak_iff pos]
  constructor
  · rintro ⟨first,hits⟩
    refine ⟨first + start,by omega,fun j above below => ?_⟩
    have := (same (first + (j - (first + start)))).mp (hits _ (by omega))
    rwa [show first + (j - (first + start)) + start = j by omega] at this
  · rintro ⟨i,above,hits⟩
    refine ⟨i - start,fun offset inside => (same _).mpr ?_⟩
    rw [show i - start + offset + start = i + offset by omega]
    exact hits (i + offset) (by omega) (by omega)

/-! The two trackers of the sample loop. -/

def imbalanced (thresholds : MonitorThresholds) (sample : MonitorSample) : Bool :=
  !sample.cpus.isEmpty && decide (imbalanceRatio sample > thresholds.maxImbalanceRatio)

def deep (thresholds : MonitorThresholds) (sample : MonitorSample) : Bool :=
  sample.cpus.any fun cpu => decide (cpu.localDsqDepth > thresholds.maxLocalDsqDepth)

theorem worstDsq_found (maxDepth : Nat) (cpus : List CpuSnapshot) :
    (worstDsq maxDepth cpus).1 = cpus.any fun cpu => decide (cpu.localDsqDepth > maxDepth) := by
  -- Once flagged the scan stays flagged; before that its depth is zero, below any depth over the limit.
  have scan : ∀ (entries : List (CpuSnapshot × Nat)) (acc : Bool × Nat × Nat), (acc.1 = false → acc.2.1 = 0) →
      (entries.foldl (fun acc entry =>
        if entry.1.localDsqDepth > maxDepth ∧ entry.1.localDsqDepth > acc.2.1 then
          (true,entry.1.localDsqDepth,entry.2)
        else acc) acc).1 = (acc.1 || entries.any fun entry => decide (entry.1.localDsqDepth > maxDepth)) := by
    intro entries
    induction entries with
    | nil => simp
    | cons entry entries ih =>
      intro acc clean
      rw [foldl_cons]
      by_cases beyond : entry.1.localDsqDepth > maxDepth ∧ entry.1.localDsqDepth > acc.2.1
      · rw [if_pos beyond,ih _ (by simp)]
        simp [beyond.1]
      · rw [if_neg beyond,ih acc clean]
        cases found : acc.1 with
        | true => simp
        | false =>
          have zero := clean found
          have under : ¬ entry.1.localDsqDepth > maxDepth := fun above => beyond ⟨above,by omega⟩
          simp [under]
  rw [worstDsq,scan _ _ (by simp)]
  conv_rhs => rw [← zipIdx_map_fst 0 cpus,any_map]
  rfl

theorem map_zipIdx_fst {α β : Type} (f : α → β) (items : List α) (start : Nat) :
    (items.zipIdx start).map (fun entry => f entry.1) = items.map f := by
  rw [show (fun entry : α × Nat => f entry.1) = f ∘ Prod.fst from rfl,← map_map,zipIdx_map_fst]

variable {thresholds : MonitorThresholds} {report : MonitorReport}

/-- A tracker of the sample loop that records a flag of every sample. -/
theorem depth_sustained {tracker : DepthTrackers → SustainedViolationTracker} {violates : Nat → Prop}
    (flag : MonitorSample → Bool) (pos : 0 < thresholds.sustainedSamples) (fresh : counter (tracker {}) = ⟨0,0⟩)
    (records : ∀ trackers entry, counter (tracker (recordSample thresholds trackers entry)) =
      (counter (tracker trackers)).push (flag entry.1))
    (same : ∀ m, (report.samples.map flag)[m]? = some true ↔ violates m) :
    (tracker (report.samples.zipIdx.foldl (recordSample thresholds) {})).sustained thresholds.sustainedSamples ↔
      Window 0 thresholds.sustainedSamples violates := by
  have counted (entries : List (MonitorSample × Nat)) (trackers : DepthTrackers) :
      counter (tracker (entries.foldl (recordSample thresholds) trackers)) =
        (entries.map fun entry => flag entry.1).foldl Counter.push (counter (tracker trackers)) := by
    induction entries generalizing trackers with
    | nil => rfl
    | cons entry entries ih => rw [foldl_cons,ih,map_cons,foldl_cons,records]
  have whole := counted report.samples.zipIdx {}
  rw [map_zipIdx_fst,fresh] at whole
  rw [sustained_iff _ pos whole]
  exact window_iff _ pos _ same

theorem imbalance_sustained (pos : 0 < thresholds.sustainedSamples) :
    (report.samples.zipIdx.foldl (recordSample thresholds) {}).imbalance.sustained thresholds.sustainedSamples ↔
      Window 0 thresholds.sustainedSamples (ImbalancedAt thresholds report) := by
  apply depth_sustained (imbalanced thresholds) pos rfl
  · intro trackers entry
    unfold recordSample imbalanced
    dsimp only
    split
    · rename_i empty
      rw [empty]
      rfl
    · rename_i some
      rw [record_counter]
      simp [some]
  · intro m
    simp only [getElem?_map,Option.map_eq_some_iff,ImbalancedAt,imbalanced,Bool.and_eq_true,Bool.not_eq_true',
      decide_eq_true_eq,isEmpty_eq_false_iff]

theorem dsq_sustained (pos : 0 < thresholds.sustainedSamples) :
    (report.samples.zipIdx.foldl (recordSample thresholds) {}).dsq.sustained thresholds.sustainedSamples ↔
      Window 0 thresholds.sustainedSamples (DeepAt thresholds report) := by
  apply depth_sustained (deep thresholds) pos rfl
  · intro trackers entry
    unfold recordSample deep
    dsimp only
    split
    · rename_i empty
      rw [List.isEmpty_iff.mp empty]
      rfl
    · rw [record_counter,worstDsq_found]
  · intro m
    simp only [getElem?_map,Option.map_eq_some_iff,DeepAt,deep,any_eq_true,decide_eq_true_eq]

/-! The two rate trackers. -/

def rateOver (field : ScxEventCounters → Int) (limit : ℚ) (pair : MonitorSample × MonitorSample) : Bool :=
  match eventRate field pair.1 pair.2 with
  | some rate => decide (rate > limit)
  | none => false

theorem adjacent (samples : List MonitorSample) (m : Nat) (pair : MonitorSample × MonitorSample) :
    (samples.zip samples.tail)[m]? = some pair ↔ samples[m]? = some pair.1 ∧ samples[m + 1]? = some pair.2 := by
  rw [getElem?_zip_eq_some,getElem?_tail]

theorem rate_sustained (field : ScxEventCounters → Int) (limit : ℚ) (report : MonitorReport) {k : Nat} (pos : 0 < k) :
    (rateTracker field limit report.samples).sustained k ↔ Window 1 k (RateOverAt field limit report) := by
  have counted := foldl_counter (fun interval => rateOver field limit interval.1) (recordRate field limit) (by
    intro tracker interval
    unfold recordRate rateOver
    cases eventRate field interval.1.1 interval.1.2 with
    | none => exact ⟨_,_,rfl⟩
    | some rate => exact ⟨_,_,rfl⟩) (intervals report.samples) {}
  rw [intervals,map_zipIdx_fst] at counted
  rw [rateTracker,intervals,sustained_iff k pos counted]
  apply window_iff _ pos
  intro m
  rw [getElem?_map,Option.map_eq_some_iff]
  constructor
  · rintro ⟨⟨prev,curr⟩,found,beyond⟩
    obtain ⟨first,second⟩ := (adjacent _ _ _).mp found
    unfold rateOver at beyond
    split at beyond
    · rename_i rate known
      exact ⟨prev,curr,rate,first,second,known,of_decide_eq_true beyond⟩
    · contradiction
  · rintro ⟨prev,curr,rate,first,second,known,beyond⟩
    refine ⟨(prev,curr),(adjacent _ _ _).mpr ⟨first,second⟩,?_⟩
    simp only [rateOver,known]
    exact decide_eq_true beyond

/-! The stall trackers. -/

def cpuStep (threshold cpu : Nat) (tracker : SustainedViolationTracker)
    (interval : (MonitorSample × MonitorSample) × Nat) : SustainedViolationTracker :=
  if cpu < min interval.1.1.cpus.length interval.1.2.cpus.length then
    tracker.record (isCpuStuck (interval.1.1.cpus[cpu]?.getD {}) (interval.1.2.cpus[cpu]?.getD {}) threshold)
      (interval.1.2.cpus[cpu]?.getD {}).rqClock interval.2
  else tracker

theorem recordStalls_cpu (threshold cpu : Nat) (trackers : List SustainedViolationTracker)
    (interval : (MonitorSample × MonitorSample) × Nat) :
    (recordStalls threshold trackers interval)[cpu]? =
      trackers[cpu]?.map fun tracker => cpuStep threshold cpu tracker interval := by
  simp only [recordStalls,getElem?_map,getElem?_zipIdx,Option.map_map,Nat.zero_add]
  rfl

theorem stallLoop_cpu (threshold cpu : Nat) (events : List ((MonitorSample × MonitorSample) × Nat))
    (trackers : List SustainedViolationTracker) :
    (events.foldl (recordStalls threshold) trackers)[cpu]? =
      trackers[cpu]?.map fun tracker => events.foldl (cpuStep threshold cpu) tracker := by
  induction events generalizing trackers with
  | nil => simp
  | cons event events ih =>
    rw [foldl_cons,ih,recordStalls_cpu,Option.map_map]
    rfl

def presence (threshold cpu : Nat) (pair : MonitorSample × MonitorSample) : Option Bool :=
  match pair.1.cpus[cpu]?,pair.2.cpus[cpu]? with
  | some prev,some curr => some (isCpuStuck prev curr threshold)
  | _,_ => none

theorem presence_some {threshold cpu : Nat} {pair : MonitorSample × MonitorSample}
    (present : cpu < min pair.1.cpus.length pair.2.cpus.length) :
    presence threshold cpu pair =
      some (isCpuStuck (pair.1.cpus[cpu]?.getD {}) (pair.2.cpus[cpu]?.getD {}) threshold) := by
  have before : cpu < pair.1.cpus.length := by omega
  have after : cpu < pair.2.cpus.length := by omega
  simp only [presence,getElem?_eq_getElem before,getElem?_eq_getElem after,Option.getD_some]

theorem presence_none {threshold cpu : Nat} {pair : MonitorSample × MonitorSample}
    (absent : ¬ cpu < min pair.1.cpus.length pair.2.cpus.length) : presence threshold cpu pair = none := by
  unfold presence
  split
  · rename_i before after
    have := (List.getElem?_eq_some_iff.mp before).1
    have := (List.getElem?_eq_some_iff.mp after).1
    omega
  · rfl

theorem cpuStep_counter (threshold cpu : Nat) (events : List ((MonitorSample × MonitorSample) × Nat))
    (tracker : SustainedViolationTracker) :
    counter (events.foldl (cpuStep threshold cpu) tracker) =
      (events.filterMap fun event => presence threshold cpu event.1).foldl Counter.push (counter tracker) := by
  induction events generalizing tracker with
  | nil => rfl
  | cons event events ih =>
    rw [foldl_cons,ih,filterMap_cons]
    by_cases present : cpu < min event.1.1.cpus.length event.1.2.cpus.length
    · rw [presence_some present,cpuStep,if_pos present,record_counter]
      rfl
    · rw [presence_none present,cpuStep,if_neg present]

theorem history_presence (threshold cpu : Nat) (samples : List MonitorSample) :
    ((intervals samples).filterMap fun event => presence threshold cpu event.1) =
      (history threshold cpu samples).filterMap id := by
  have firsts : (intervals samples).map Prod.fst = samples.zip samples.tail := zipIdx_map_fst _ _
  rw [history,← firsts,map_map,filterMap_map]
  rfl

theorem le_foldl_max (values : List Nat) (start : Nat) :
    start ≤ values.foldl max start ∧ ∀ value ∈ values, value ≤ values.foldl max start := by
  induction values generalizing start with
  | nil => simp
  | cons value values ih =>
    obtain ⟨low,all⟩ := ih (max start value)
    rw [foldl_cons]
    refine ⟨by omega,fun other inside => ?_⟩
    rcases mem_cons.mp inside with rfl | inside
    · omega
    · exact all other inside

theorem history_beyond {threshold cpu : Nat} {samples : List MonitorSample} (beyond : numCpus samples ≤ cpu) :
    (history threshold cpu samples).filterMap id = [] := by
  rw [filterMap_eq_nil_iff]
  intro entry inside
  obtain ⟨pair,member,rfl⟩ := mem_map.mp inside
  have first : pair.1 ∈ samples := (of_mem_zip member).1
  have bounded : pair.1.cpus.length ≤ numCpus samples :=
    (le_foldl_max _ 0).2 _ (mem_map.mpr ⟨pair.1,first,rfl⟩)
  exact presence_none (by omega)

variable (hz : Nat) (thresholds)

theorem stall_sustained {cpu k : Nat} (pos : 0 < k) :
    (∃ run index clock, Detail.stall cpu run index clock ∈ stallDetails k (stallTrackers hz report)) ↔
      Streak k ((history (stallThreshold hz report) cpu report.samples).filterMap id) := by
  have reported : (∃ run index clock, Detail.stall cpu run index clock ∈ stallDetails k (stallTrackers hz report)) ↔
      ∃ tracker, (stallTrackers hz report)[cpu]? = some tracker ∧ tracker.sustained k := by
    constructor
    · rintro ⟨run,index,clock,inside⟩
      obtain ⟨⟨tracker,place⟩,member,kept⟩ := mem_filterMap.mp inside
      have found := mem_zipIdx_iff_getElem?.mp member
      split at kept
      · rename_i beyond
        cases kept
        exact ⟨tracker,found,beyond⟩
      · contradiction
    · rintro ⟨tracker,found,beyond⟩
      refine ⟨tracker.worstRun,tracker.worstAt,tracker.worstValue.floor.toNat,mem_filterMap.mpr
        ⟨(tracker,cpu),mem_zipIdx_iff_getElem?.mpr found,?_⟩⟩
      simp only [beyond,if_true]
  rw [reported,stallTrackers,stallLoop_cpu,getElem?_replicate]
  by_cases inside : cpu < numCpus report.samples
  · have counted := cpuStep_counter (stallThreshold hz report) cpu (intervals report.samples) {}
    rw [history_presence] at counted
    rw [if_pos inside,← sustained_iff k pos counted]
    simp
  · rw [if_neg inside,history_beyond (by omega)]
    simp only [Option.map_none,reduceCtorEq,false_and,exists_false,Streak,false_iff]
    intro none
    simp at none
    omega

theorem stuck_window {cpu k : Nat} (pos : 0 < k) :
    Streak k ((history (stallThreshold hz report) cpu report.samples).map (· == some true)) ↔
      Window 1 k (StuckAt hz report cpu) := by
  apply window_iff _ pos
  intro m
  rw [getElem?_map,Option.map_eq_some_iff]
  constructor
  · rintro ⟨entry,found,stuck⟩
    rw [history,getElem?_map,Option.map_eq_some_iff] at found
    obtain ⟨⟨first,second⟩,place,same⟩ := found
    obtain ⟨before,after⟩ := (adjacent _ _ _).mp place
    rw [beq_iff_eq.mp stuck] at same
    split at same
    · rename_i prev curr hasPrev hasCurr
      exact ⟨prev,curr,by simp [before,hasPrev],by simp [after,hasCurr],Option.some.inj same⟩
    · contradiction
  · rintro ⟨prev,curr,hasPrev,hasCurr,stuck⟩
    obtain ⟨first,before,hasPrev⟩ := Option.bind_eq_some_iff.mp hasPrev
    obtain ⟨second,after,hasCurr⟩ := Option.bind_eq_some_iff.mp hasCurr
    refine ⟨some true,?_,rfl⟩
    rw [Nat.add_sub_cancel] at before
    rw [history,getElem?_map,(adjacent _ _ (first,second)).mpr ⟨before,after⟩]
    simp only [Option.map_some,hasPrev,hasCurr,stuck]

theorem streak_reduced {entries : List (Option Bool)} (adjacent : Streak k (entries.map (· == some true))) :
    Streak k (entries.filterMap id) := by
  obtain ⟨before,after,whole⟩ := adjacent
  obtain ⟨rest,last,split,restMap,lastMap⟩ := map_eq_append_iff.mp whole.symm
  obtain ⟨first,middle,split',firstMap,middleMap⟩ := map_eq_append_iff.mp restMap
  have hits : middle = replicate k (some true) := by
    rw [eq_replicate_iff]
    refine ⟨by simpa using congrArg length middleMap,fun entry inside => ?_⟩
    have set : (entry == some true) ∈ middle.map (· == some true) := mem_map.mpr ⟨entry,inside,rfl⟩
    rw [middleMap,mem_replicate] at set
    exact beq_iff_eq.mp set.2
  have kept : (replicate k (some true)).filterMap id = replicate k true := by
    simp
  exact ⟨first.filterMap id,last.filterMap id,by simp only [split,split',hits,filterMap_append,kept]⟩

variable (report)

theorem mem_evaluateDetails (detail : Detail) : detail ∈ evaluateDetails hz thresholds report ↔
      let k := thresholds.sustainedSamples
      let depth := report.samples.zipIdx.foldl (recordSample thresholds) {}
      let fallback := rateTracker ScxEventCounters.selectCpuFallback thresholds.maxFallbackRate report.samples
      let keepLast := rateTracker ScxEventCounters.dispatchKeepLast thresholds.maxKeepLastRate report.samples
      depth.imbalance.sustained k ∧ detail = .imbalance depth.imbalance.worstValue
          thresholds.maxImbalanceRatio depth.imbalance.worstRun depth.imbalance.worstAt ∨
      depth.dsq.sustained k ∧ detail = .localDsq depth.dsq.worstValue.floor.toNat depth.worstDsqCpu
          thresholds.maxLocalDsqDepth depth.dsq.worstRun depth.dsq.worstAt ∨
      thresholds.failOnStall ∧ detail ∈ stallDetails k (stallTrackers hz report) ∨
      fallback.sustained k ∧ detail = .fallbackRate fallback.worstValue thresholds.maxFallbackRate
          fallback.worstRun fallback.worstAt ∨
      keepLast.sustained k ∧ detail = .keepLastRate keepLast.worstValue thresholds.maxKeepLastRate
          keepLast.worstRun keepLast.worstAt := by
  have guarded : ∀ (flag : Bool) (details : List Detail),
      detail ∈ (if flag then details else []) ↔ flag ∧ detail ∈ details := by
    intro flag details
    cases flag <;> simp
  simp only [evaluateDetails,mem_append,guarded,mem_singleton,or_assoc]

theorem mem_stallDetails {stall : List SustainedViolationTracker} {detail : Detail}
    (inside : detail ∈ stallDetails k stall) : ∃ cpu run index clock, detail = .stall cpu run index clock := by
  obtain ⟨entry,_,kept⟩ := mem_filterMap.mp inside
  split at kept
  · cases kept
    exact ⟨_,_,_,_,rfl⟩
  · contradiction

theorem details_of_valid (valid : dataLooksValid report.samples) (pos : 0 < thresholds.sustainedSamples) :
    (evaluate hz thresholds report).details = evaluateDetails hz thresholds report := by
  unfold evaluate
  split
  · rename_i empty
    -- Without samples no tracker is ever fed.
    have none : report.samples = [] := isEmpty_iff.mp empty
    have short : ¬ (({} : SustainedViolationTracker).sustained thresholds.sustainedSamples) := by
      simp [SustainedViolationTracker.sustained]
      omega
    simp [evaluateDetails,none,rateTracker,intervals,stallTrackers,numCpus,stallDetails,short]
  · simp only [valid,Bool.not_true,Bool.false_eq_true,if_false]

/-- Some limit is exceeded for long enough, stalls being counted across the intervals without the CPU. -/
def Exceeds (hz : Nat) (thresholds : MonitorThresholds) (report : MonitorReport) : Prop :=
  Window 0 thresholds.sustainedSamples (ImbalancedAt thresholds report) ∨
    Window 0 thresholds.sustainedSamples (DeepAt thresholds report) ∨
    (thresholds.failOnStall = true ∧ ∃ cpu, Streak thresholds.sustainedSamples
      ((history (stallThreshold hz report) cpu report.samples).filterMap id)) ∨
    Window 1 thresholds.sustainedSamples
      (RateOverAt ScxEventCounters.selectCpuFallback thresholds.maxFallbackRate report) ∨
    Window 1 thresholds.sustainedSamples
      (RateOverAt ScxEventCounters.dispatchKeepLast thresholds.maxKeepLastRate report)

theorem details_iff_exceeds : evaluateDetails hz thresholds report ≠ [] ↔ Exceeds hz thresholds report := by
  rcases Nat.eq_zero_or_pos thresholds.sustainedSamples with zero | pos
  · -- No sample at all is sustained enough.
    have always : (report.samples.zipIdx.foldl (recordSample thresholds) {}).imbalance.sustained
        thresholds.sustainedSamples := by
      simp [SustainedViolationTracker.sustained,zero]
    have found := (mem_evaluateDetails thresholds report hz _).mpr (Or.inl ⟨always,rfl⟩)
    exact ⟨fun _ => Or.inl ⟨0,le_rfl,fun j low high => by omega⟩,fun _ => ne_nil_of_mem found⟩
  · rw [Exceeds,← imbalance_sustained pos,← dsq_sustained pos,
      ← rate_sustained _ _ report pos,← rate_sustained _ _ report pos]
    simp only [← stall_sustained hz pos]
    have listed : evaluateDetails hz thresholds report ≠ [] ↔ ∃ detail, detail ∈ evaluateDetails hz thresholds report :=
      ⟨exists_mem_of_ne_nil _,fun ⟨_,inside⟩ => ne_nil_of_mem inside⟩
    simp only [listed,mem_evaluateDetails]
    constructor
    · rintro ⟨detail,⟨on,-⟩ | ⟨on,-⟩ | ⟨on,inside⟩ | ⟨on,-⟩ | ⟨on,-⟩⟩
      · exact Or.inl on
      · exact Or.inr (Or.inl on)
      · obtain ⟨cpu,run,index,clock,rfl⟩ := mem_stallDetails _ inside
        exact Or.inr (Or.inr (Or.inl ⟨on,cpu,run,index,clock,inside⟩))
      · exact Or.inr (Or.inr (Or.inr (Or.inl on)))
      · exact Or.inr (Or.inr (Or.inr (Or.inr on)))
    · rintro (on | on | ⟨on,cpu,run,index,clock,inside⟩ | on | on)
      · exact ⟨_,Or.inl ⟨on,rfl⟩⟩
      · exact ⟨_,Or.inr (Or.inl ⟨on,rfl⟩)⟩
      · exact ⟨_,Or.inr (Or.inr (Or.inl ⟨on,inside⟩))⟩
      · exact ⟨_,Or.inr (Or.inr (Or.inr (Or.inl ⟨on,rfl⟩)))⟩
      · exact ⟨_,Or.inr (Or.inr (Or.inr (Or.inr ⟨on,rfl⟩)))⟩

theorem monitor_fails_iff : (evaluate hz thresholds report).passed = false ↔
      report.samples ≠ [] ∧ dataLooksValid report.samples ∧ thresholds.enforce ∧
        Exceeds hz thresholds report := by
  rw [← details_iff_exceeds]
  unfold evaluate
  split
  · next empty => simp [isEmpty_iff.mp empty]
  · next some =>
    have held : report.samples ≠ [] := fun empty => some (by simp [empty])
    split
    · next invalid =>
      rw [Bool.not_eq_true'] at invalid
      simp [invalid]
    · next valid =>
      rw [Bool.not_eq_true'] at valid
      simp [held,valid,and_comm]

/-- Every valid report and every threshold set: details mean consecutive violations
exactly if no CPU's stuck intervals are joined across intervals it is missing from. -/
theorem sustained_means_consecutive_iff (hz : Nat) (thresholds : MonitorThresholds) (report : MonitorReport)
    (valid : dataLooksValid report.samples = true) (pos : 1 ≤ thresholds.sustainedSamples) :
    SustainedMeansConsecutive hz thresholds report ↔ GapsHarmless hz thresholds report := by
  have details := details_of_valid thresholds report hz valid pos
  have unstalled (detail : Detail) (other : ∀ cpu run index clock, detail ≠ .stall cpu run index clock) :
      detail ∉ stallDetails thresholds.sustainedSamples (stallTrackers hz report) := by
    intro inside
    obtain ⟨cpu,run,index,clock,same⟩ := mem_stallDetails _ inside
    exact other cpu run index clock same
  have stalls : ∀ cpu, (∃ run index clock,
      Detail.stall cpu run index clock ∈ (evaluate hz thresholds report).details) ↔
      thresholds.failOnStall ∧
        Streak thresholds.sustainedSamples ((history (stallThreshold hz report) cpu report.samples).filterMap id) := by
    intro cpu
    rw [← stall_sustained hz pos,details]
    simp [mem_evaluateDetails]
  constructor
  · intro meant cpu
    have same := (stalls cpu).symm.trans (meant.stall cpu)
    rw [← stuck_window hz pos] at same
    split
    · rename_i on
      exact fun joined => same.mp ⟨on,joined⟩
    · rename_i off
      exact fun window => off (same.mpr window).1
  · intro harmless
    refine ⟨fun cpu => ?_,?_,?_,?_,?_,?_⟩
    · rw [stalls cpu,← stuck_window hz pos]
      have gaps := harmless cpu
      split at gaps
      · rename_i on
        exact ⟨fun found => gaps found.2,fun window => ⟨on,streak_reduced _ window⟩⟩
      · rename_i off
        exact ⟨fun found => absurd found.1 off,fun window => absurd window gaps⟩
    · rw [← imbalance_sustained pos,details]
      simp [mem_evaluateDetails,unstalled]
    · rw [← dsq_sustained pos,details]
      simp [mem_evaluateDetails,unstalled]
    · rw [← rate_sustained _ _ report pos,details]
      simp [mem_evaluateDetails,unstalled]
    · rw [← rate_sustained _ _ report pos,details]
      simp [mem_evaluateDetails,unstalled]
    · unfold evaluate
      split
      · simp
      · simp only [valid,Bool.not_true]
        cases thresholds.enforce <;> simp

/-! A CPU that drops out of the samples between two stuck intervals. -/

def busy (clock : Nat) : CpuSnapshot := {nrRunning := 1,rqClock := clock}

def stallThresholds : MonitorThresholds := ⟨4,50,true,2,200,100,true⟩

/-- Stuck over the first interval and over the last, with an empty sample in between. -/
def gapReport : MonitorReport :=
  ⟨[⟨0,[busy 5]⟩,⟨100,[busy 5]⟩,⟨200,[]⟩,⟨300,[busy 7]⟩,⟨400,[busy 7]⟩],40000000⟩

def steadyReport : MonitorReport := ⟨[⟨0,[busy 5]⟩,⟨100,[busy 7]⟩,⟨200,[busy 7]⟩,⟨300,[busy 7]⟩],40000000⟩

theorem gap_joins_stuck_intervals :
    dataLooksValid gapReport.samples = true ∧
      Detail.stall 0 2 4 7 ∈ (evaluate 250 stallThresholds gapReport).details ∧
      ¬ Window 1 2 (StuckAt 250 gapReport 0) := by
  refine ⟨by decide,by decide +kernel,?_⟩
  rw [← stuck_window 250 (by decide)]
  decide

theorem steady_stall_is_consecutive : SustainedMeansConsecutive 250 stallThresholds steadyReport := by
  refine (sustained_means_consecutive_iff 250 stallThresholds steadyReport (by decide) (by decide)).mpr ?_
  intro cpu _
  cases cpu with
  | zero => decide
  | succ cpu =>
    rename_i joined
    rw [history_beyond (show 1 ≤ cpu + 1 by omega)] at joined
    exact absurd joined (by decide)

end Ktstr.SustainedRuns
