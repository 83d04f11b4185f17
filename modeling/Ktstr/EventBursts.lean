import Ktstr.Library.Gaps
import Ktstr.Source.Monitor

/-! The fallback burst of a monitor summary against the steps of the counter it is read from. -/
namespace Ktstr.EventBursts
open List Library.Gaps Library.Machine Source.Monitor ScxEventCounters Option

def fallbackSum (sample : MonitorSample) : Int :=
  ((sample.cpus.filterMap CpuSnapshot.eventCounters).map ScxEventCounters.selectCpuFallback).sum

def reading (sample : MonitorSample) : Option Int := if hasEvents sample then some (fallbackSum sample) else none

/-- The step of the counter over one interval, where both samples carry it. -/
def step (w : MonitorSample × MonitorSample) : Option Int :=
  match reading w.1,reading w.2 with
  | some prev,some curr => some (curr - prev)
  | some _,none => none
  | none,_ => none

def largestStep (samples : List MonitorSample) : Int := ((samples.zip samples.tail).filterMap step).foldl max 0

structure Counting (samples : List MonitorSample) : Prop where
  ascending : (samples.filterMap reading).IsChain (· ≤ ·)
  bounded : ∀ sum ∈ samples.filterMap reading, i64Min ≤ sum ∧ sum ≤ i64Max

theorem wrapI64_add_wrapI64 (first second : Int) : wrapI64 (wrapI64 first + second) = wrapI64 (first + second) := by
  simp only [wrapI64]
  omega

def addCounter (acc : Int × Bool) (cpu : CpuSnapshot) : Int × Bool :=
  match cpu.eventCounters with
  | some counters => (wrapI64 (acc.1 + counters.selectCpuFallback),true)
  | none => acc

theorem foldl_addCounter (cpus : List CpuSnapshot) (total : Int) (any : Bool) :
    cpus.foldl addCounter (wrapI64 total,any) =
    (wrapI64 (total + ((cpus.filterMap CpuSnapshot.eventCounters).map selectCpuFallback).sum),
      any || cpus.any fun cpu => cpu.eventCounters.isSome) := by
  induction cpus generalizing total any with
  | nil => simp
  | cons cpu cpus ih =>
    rw [foldl_cons,addCounter]
    cases here : cpu.eventCounters with
    | none => simp [ih,here]
    | some counters => simp [wrapI64_add_wrapI64,ih,here,Int.add_assoc]

theorem sumEventField_eq {sample : MonitorSample}
    (bounded : ∀ sum, reading sample = some sum → i64Min ≤ sum ∧ sum ≤ i64Max) :
    sumEventField sample selectCpuFallback = reading sample := by
  have folded : sample.cpus.foldl addCounter (0,false) = (wrapI64 (fallbackSum sample),hasEvents sample) := by
    have started := foldl_addCounter sample.cpus 0 false
    rwa [Int.zero_add] at started
  have summed : sumEventField sample selectCpuFallback =
      if hasEvents sample then some (wrapI64 (fallbackSum sample)) else none :=
    congrArg (fun acc : Int × Bool => if acc.2 then some acc.1 else none) folded
  rw [summed]
  unfold reading at bounded ⊢
  cases events : hasEvents sample with
  | false => rfl
  | true =>
    rw [events] at bounded
    obtain ⟨low,high⟩ := bounded _ rfl
    exact congrArg some (wrapI64_of_range low high)

def windowDelta (w : MonitorSample × MonitorSample) : Int :=
  counterDelta ((reading w.2).getD 0) ((reading w.1).getD 0)

theorem foldl_larger {α : Type} (items : List α) (measure : α → Int) (start : Int) :
    items.foldl (fun most item => if measure item > most then measure item else most) start =
      (items.map measure).foldl max start := by
  induction items generalizing start with
  | nil => rfl
  | cons item items ih =>
    rw [foldl_cons,ih,map_cons,foldl_cons]
    congr 1
    omega

variable {samples : List MonitorSample}

theorem Counting.mem (counting : Counting samples) {sample : MonitorSample} (inside : sample ∈ samples) :
    sumEventField sample selectCpuFallback = reading sample :=
  sumEventField_eq fun sum found => counting.bounded sum (mem_filterMap.mpr ⟨sample,inside,found⟩)

theorem Counting.burst_eq (counting : Counting samples) :
    fallbackBurst samples = ((samples.zip samples.tail).map windowDelta).foldl max 0 := by
  rw [← foldl_larger]
  refine foldl_ext _ _ _ fun burst w inside => ?_
  have mems := of_mem_zip inside
  simp only [counting.mem mems.1,counting.mem (mem_of_mem_tail mems.2)]
  rfl

variable {last first : Int}

theorem counterDelta_of_fits (up : first ≤ last) (fits : last - first ≤ i64Max) :
    counterDelta last first = last - first := by
  rw [counterDelta,wrapI64_of_range (by simp only [i64Min]; omega) fits,max_eq_left (by omega)]

theorem counterDelta_of_beyond (low : i64Min ≤ first) (high : last ≤ i64Max) (beyond : i64Max < last - first) :
    counterDelta last first = 0 := by
  simp only [counterDelta,wrapI64,i64Min,i64Max] at *
  omega

theorem counterDelta_nonneg : 0 ≤ counterDelta last first := le_max_right _ _

theorem counterDelta_le (low : i64Min ≤ first) (high : last ≤ i64Max) (up : first ≤ last) :
    counterDelta last first ≤ last - first := by
  by_cases fits : last - first ≤ i64Max
  · rw [counterDelta_of_fits up fits]
  · rw [counterDelta_of_beyond low high (by omega)]
    omega

theorem Counting.pairwise (counting : Counting samples) : (samples.filterMap reading).Pairwise (· ≤ ·) :=
  counting.ascending.pairwise

theorem reading_of_hasEvents {sample : MonitorSample} (events : hasEvents sample) :
    reading sample = some (fallbackSum sample) :=
  if_pos events

theorem filterMap_reading_nil (none : ∀ sample ∈ samples, (!hasEvents sample)) : samples.filterMap reading = [] :=
  filterMap_eq_nil_iff.mpr fun sample inside => if_neg (by simpa using none sample inside)

theorem Counting.first_le (counting : Counting samples) {first : MonitorSample}
    (found : samples.find? hasEvents = some first) :
    fallbackSum first ∈ samples.filterMap reading ∧ ∀ sum ∈ samples.filterMap reading, fallbackSum first ≤ sum := by
  obtain ⟨events,before,after,split,none⟩ := find?_eq_some_iff_append.mp found
  have readings : samples.filterMap reading = fallbackSum first :: after.filterMap reading := by
    rw [split,filterMap_append,filterMap_reading_nil none,nil_append,
      filterMap_cons_some (reading_of_hasEvents events)]
  have ordered := counting.pairwise
  rw [readings] at ordered ⊢
  refine ⟨mem_cons_self,fun sum inside => ?_⟩
  rcases mem_cons.mp inside with rfl | later
  · exact le_refl _
  · exact (pairwise_cons.mp ordered).1 sum later

theorem Counting.le_last (counting : Counting samples) {last : MonitorSample}
    (found : samples.reverse.find? hasEvents = some last) :
    fallbackSum last ∈ samples.filterMap reading ∧ ∀ sum ∈ samples.filterMap reading, sum ≤ fallbackSum last := by
  obtain ⟨events,after,before,split,none⟩ := find?_eq_some_iff_append.mp found
  have forward : samples = before.reverse ++ last :: after.reverse := by
    simpa using congrArg List.reverse split
  have readings : samples.filterMap reading = before.reverse.filterMap reading ++ [fallbackSum last] := by
    have missing := filterMap_reading_nil fun sample inside => none sample (mem_reverse.mp inside)
    rw [forward,filterMap_append,filterMap_cons_some (reading_of_hasEvents events),missing]
  have ordered := counting.pairwise
  rw [readings] at ordered ⊢
  refine ⟨mem_append_right _ mem_cons_self,fun sum inside => ?_⟩
  rcases mem_append.mp inside with earlier | here
  · exact (pairwise_append.mp ordered).2.2 sum earlier _ mem_cons_self
  · rw [mem_singleton.mp here]

variable {w : MonitorSample × MonitorSample}

theorem Counting.neighbours (counting : Counting samples) {w : MonitorSample × MonitorSample}
    (inside : w ∈ samples.zip samples.tail) {prev curr : Int} (left : reading w.1 = some prev)
    (right : reading w.2 = some curr) :
    prev ∈ samples.filterMap reading ∧ curr ∈ samples.filterMap reading ∧ prev ≤ curr := by
  obtain ⟨before,after,split⟩ := mem_zip_tail.mp inside
  have mems := of_mem_zip inside
  refine ⟨mem_filterMap.mpr ⟨_,mems.1,left⟩,mem_filterMap.mpr ⟨_,mem_of_mem_tail mems.2,right⟩,?_⟩
  exact isChain_filterMap.mp counting.ascending before w.1 [] w.2 after prev curr split (by simp) left right

theorem mem_steps {size : Int} : size ∈ (samples.zip samples.tail).filterMap step ↔
      ∃ w ∈ samples.zip samples.tail, ∃ prev curr, reading w.1 = some prev ∧ reading w.2 = some curr ∧ size = curr - prev := by
  rw [mem_filterMap]
  refine exists_congr fun w => and_congr_right fun _ => ?_
  unfold step
  cases reading w.1 with
  | none => simp
  | some prev =>
    cases reading w.2 with
    | none => simp
    | some curr => simp [eq_comm]

theorem largestStep_nonneg (samples : List MonitorSample) : 0 ≤ largestStep samples :=
  (foldl_max_le_iff.mp (le_refl (largestStep samples))).1

/-- What a summary says of the fallback counter: its burst is the largest step, and no more than the total. -/
def Summarised (samples : List MonitorSample) : Prop :=
  ∀ deltas, computeEventDeltas samples = some deltas →
    deltas.maxFallbackBurst ≤ deltas.totalFallback ∧ deltas.maxFallbackBurst = largestStep samples

/-- Where the counter comes or goes, its whole value counts as a step. -/
structure GapsCovered (samples : List MonitorSample) : Prop where
  appears : ∀ w ∈ samples.zip samples.tail, ∀ sum, reading w.1 = none → reading w.2 = some sum → sum ≤ largestStep samples
  vanishes : ∀ w ∈ samples.zip samples.tail, ∀ sum, reading w.1 = some sum → reading w.2 = none →
    -sum ≤ largestStep samples ∨ sum = i64Min

variable {sum : Int}

theorem windowDelta_appears (left : reading w.1 = none) (right : reading w.2 = some sum) (low : i64Min ≤ sum)
    (high : sum ≤ i64Max) : windowDelta w = max sum 0 := by
  simp only [windowDelta,left,right,getD_none,getD_some,counterDelta,Int.sub_zero,wrapI64_of_range low high]

theorem windowDelta_vanishes (left : reading w.1 = some sum) (right : reading w.2 = none) (low : i64Min ≤ sum)
    (high : sum ≤ i64Max) : windowDelta w = if sum = i64Min then 0 else max (-sum) 0 := by
  rw [windowDelta,left,right,getD_none,getD_some,counterDelta,Int.zero_sub]
  by_cases least : sum = i64Min
  · rw [least]
    decide
  · have fits : -sum ≤ i64Max := by
      simp only [i64Min,i64Max] at *
      omega
    rw [if_neg least,wrapI64_of_range (by simp only [i64Min,i64Max] at *; omega) fits]

theorem windowDelta_both {prev curr : Int} (left : reading w.1 = some prev) (right : reading w.2 = some curr) :
    windowDelta w = counterDelta curr prev := by
  rw [windowDelta,left,right,getD_some,getD_some]

theorem windowDelta_neither (left : reading w.1 = none) (right : reading w.2 = none) : windowDelta w = 0 := by
  rw [windowDelta,left,right]
  decide

theorem Counting.windowDelta_le (counting : Counting samples) (covered : GapsCovered samples)
    {w : MonitorSample × MonitorSample} (inside : w ∈ samples.zip samples.tail) :
    windowDelta w ≤ largestStep samples := by
  have mems := of_mem_zip inside
  have nonneg := largestStep_nonneg samples
  cases left : reading w.1 with
  | none =>
    cases right : reading w.2 with
    | none => rwa [windowDelta_neither left right]
    | some sum =>
      have range := counting.bounded sum (mem_filterMap.mpr ⟨w.2,mem_of_mem_tail mems.2,right⟩)
      rw [windowDelta_appears left right range.1 range.2]
      exact max_le (covered.appears w inside sum left right) nonneg
  | some prev =>
    cases right : reading w.2 with
    | none =>
      have range := counting.bounded prev (mem_filterMap.mpr ⟨w.1,mems.1,left⟩)
      rw [windowDelta_vanishes left right range.1 range.2]
      rcases covered.vanishes w inside prev left right with small | least
      · split
        next => exact nonneg
        next => exact max_le small nonneg
      · rwa [if_pos least]
    | some curr =>
      obtain ⟨first,second,up⟩ := counting.neighbours inside left right
      rw [windowDelta_both left right]
      refine (counterDelta_le (counting.bounded prev first).1 (counting.bounded curr second).2 up).trans ?_
      exact (foldl_max_le_iff.mp (le_refl (largestStep samples))).2 _ (mem_steps.mpr ⟨w,inside,prev,curr,left,right,rfl⟩)

theorem Counting.le_burst (counting : Counting samples) {w : MonitorSample × MonitorSample}
    (inside : w ∈ samples.zip samples.tail) : windowDelta w ≤ fallbackBurst samples := by
  rw [counting.burst_eq]
  exact (foldl_max_le_iff.mp (le_refl _)).2 _ (mem_map_of_mem inside)

theorem Counting.burst_le (counting : Counting samples) (covered : GapsCovered samples) :
    fallbackBurst samples ≤ largestStep samples := by
  rw [counting.burst_eq]
  refine foldl_max_le_iff.mpr ⟨largestStep_nonneg samples,fun size inside => ?_⟩
  obtain ⟨w,here,rfl⟩ := mem_map.mp inside
  exact counting.windowDelta_le covered here

/-- Any two readings are within the range of the counter's type of each other. -/
def Near (samples : List MonitorSample) : Prop :=
  ∀ first ∈ samples.filterMap reading, ∀ last ∈ samples.filterMap reading, last - first ≤ i64Max

theorem Counting.le_burst_of_near (counting : Counting samples) (near : Near samples) :
    largestStep samples ≤ fallbackBurst samples := by
  refine foldl_max_le_iff.mpr ⟨?_,fun size inside => ?_⟩
  · rw [counting.burst_eq]
    exact (foldl_max_le_iff.mp (le_refl _)).1
  · obtain ⟨w,here,prev,curr,left,right,rfl⟩ := mem_steps.mp inside
    obtain ⟨first,second,up⟩ := counting.neighbours here left right
    rw [← counterDelta_of_fits up (near prev first curr second),← windowDelta_both left right]
    exact counting.le_burst here

theorem computeEventDeltas_some (counting : Counting samples) {deltas : ScxEventDeltas}
    (computed : computeEventDeltas samples = some deltas) : deltas.maxFallbackBurst = fallbackBurst samples ∧
    ∃ first ∈ samples.filterMap reading, ∃ last ∈ samples.filterMap reading,
      (∀ sum ∈ samples.filterMap reading, first ≤ sum ∧ sum ≤ last) ∧ deltas.totalFallback = counterDelta last first := by
  rw [computeEventDeltas] at computed
  cases start : samples.find? hasEvents with
  | none => simp [start] at computed
  | some first =>
    cases stop : samples.reverse.find? hasEvents with
    | none => simp [start,stop] at computed
    | some last =>
      simp only [start,stop,some.injEq] at computed
      obtain ⟨inFirst,least⟩ := counting.first_le start
      obtain ⟨inLast,greatest⟩ := counting.le_last stop
      rw [← computed]
      refine ⟨rfl,_,inFirst,_,inLast,fun sum inside => ⟨least sum inside,greatest sum inside⟩,?_⟩
      have firstSum := counting.mem (mem_of_find?_eq_some start)
      have lastSum := counting.mem (mem_reverse.mp (mem_of_find?_eq_some stop))
      simp only [firstSum,lastSum,reading_of_hasEvents (find?_some start),reading_of_hasEvents (find?_some stop),
        getD_some]

theorem computeEventDeltas_isSome (inside : sum ∈ samples.filterMap reading) :
    ∃ deltas, computeEventDeltas samples = some deltas := by
  obtain ⟨sample,here,found⟩ := mem_filterMap.mp inside
  have events : hasEvents sample := by
    by_contra none
    rw [reading,if_neg none] at found
    cases found
  rw [computeEventDeltas]
  cases start : samples.find? hasEvents with
  | none => exact absurd events (by simpa using find?_eq_none.mp start sample here)
  | some first =>
    cases stop : samples.reverse.find? hasEvents with
    | none => exact absurd events (by simpa using find?_eq_none.mp stop sample (mem_reverse.mpr here))
    | some last => exact ⟨_,rfl⟩

/-- A summary is right about the burst exactly where a counter that comes or goes has no value beyond the largest
step, and the readings stay within range of each other unless there is no step at all. -/
theorem summarised_iff (samples : List MonitorSample) (counting : Counting samples) :
    Summarised samples ↔ GapsCovered samples ∧ (Near samples ∨ largestStep samples = 0) := by
  constructor
  · intro summarised
    have burst : ∀ sum ∈ samples.filterMap reading, fallbackBurst samples = largestStep samples := by
      intro sum inside
      obtain ⟨deltas,computed⟩ := computeEventDeltas_isSome inside
      rw [← (summarised deltas computed).2,(computeEventDeltas_some counting computed).1]
    refine ⟨⟨?_,?_⟩,?_⟩
    · intro w inside sum left right
      have here := mem_filterMap.mpr ⟨w.2,mem_of_mem_tail (of_mem_zip inside).2,right⟩
      have range := counting.bounded sum here
      rw [← burst sum here]
      refine le_trans ?_ (counting.le_burst inside)
      rw [windowDelta_appears left right range.1 range.2]
      exact le_max_left _ _
    · intro w inside sum left right
      have here := mem_filterMap.mpr ⟨w.1,(of_mem_zip inside).1,left⟩
      have range := counting.bounded sum here
      have seen := counting.le_burst inside
      rw [windowDelta_vanishes left right range.1 range.2,burst sum here] at seen
      by_cases least : sum = i64Min
      · exact .inr least
      · rw [if_neg least] at seen
        exact .inl ((le_max_left _ _).trans seen)
    · by_cases near : Near samples
      · exact .inl near
      · right
        simp only [Near,not_forall] at near
        obtain ⟨low,inLow,high,inHigh,beyond⟩ := near
        obtain ⟨deltas,computed⟩ := computeEventDeltas_isSome inLow
        obtain ⟨_,first,inFirst,last,inLast,between,total⟩ := computeEventDeltas_some counting computed
        obtain ⟨small,same⟩ := summarised deltas computed
        have wide : i64Max < last - first := by
          have := (between low inLow).1
          have := (between high inHigh).2
          omega
        rw [same,total,counterDelta_of_beyond (counting.bounded first inFirst).1 (counting.bounded last inLast).2 wide]
          at small
        exact le_antisymm small (largestStep_nonneg samples)
  · rintro ⟨covered,range⟩ deltas computed
    obtain ⟨burst,first,inFirst,last,inLast,between,total⟩ := computeEventDeltas_some counting computed
    have upper := counting.burst_le covered
    rcases range with near | flat
    · have lower := counting.le_burst_of_near near
      have up := (between last inLast).1
      rw [burst,total,counterDelta_of_fits up (near first inFirst last inLast)]
      refine ⟨upper.trans (foldl_max_le_iff.mpr ⟨by omega,fun size inside => ?_⟩),le_antisymm upper lower⟩
      obtain ⟨w,here,prev,curr,left,right,rfl⟩ := mem_steps.mp inside
      obtain ⟨inPrev,inCurr,_⟩ := counting.neighbours here left right
      have := (between prev inPrev).1
      have := (between curr inCurr).2
      omega
    · have nonneg : 0 ≤ fallbackBurst samples := by
        rw [counting.burst_eq]
        exact (foldl_max_le_iff.mp (le_refl _)).1
      rw [burst,total]
      refine ⟨(upper.trans_eq flat).trans counterDelta_nonneg,le_antisymm upper ?_⟩
      rwa [flat]

def sampled (fallbacks : Option Int) : MonitorSample :=
  ⟨0,[{eventCounters := fallbacks.map fun count => {selectCpuFallback := count}}]⟩

theorem reading_sampled {fallbacks : Option Int} : reading (sampled fallbacks) = fallbacks := by
  cases fallbacks with
  | none => rfl
  | some count => exact congrArg some (Int.add_zero count)

theorem readings_sampled (counts : List (Option Int)) :
    (counts.map sampled).filterMap reading = counts.filterMap id := by
  rw [filterMap_map]
  exact filterMap_congr fun count _ => reading_sampled

theorem counting_sampled {counts : List (Option Int)} (ascending : (counts.filterMap id).IsChain (· ≤ ·))
    (bounded : ∀ sum ∈ counts.filterMap id, i64Min ≤ sum ∧ sum ≤ i64Max) : Counting (counts.map sampled) :=
  ⟨by rwa [readings_sampled],by rwa [readings_sampled]⟩

/-- The scheduler detaches before the last sample. -/
theorem detached_summarised : Summarised ([some 5,some 9,none].map sampled) := by
  refine (summarised_iff _ (counting_sampled (by decide) (by decide))).mpr ⟨⟨?_,?_⟩,.inl ?_⟩
  · intro w inside sum left right
    rcases mem_pair.mp inside with rfl | rfl
    · cases left
    · cases left
  · intro w inside sum left right
    rcases mem_pair.mp inside with rfl | rfl
    · cases right
    · cases left
      left
      decide
  · rw [Near]
    decide

/-- The scheduler attaches after the first sample, its counter already at 500. -/
theorem attached_burst_exceeds_total :
    Counting ([none,some 500,some 510].map sampled) ∧ ¬ Summarised ([none,some 500,some 510].map sampled) := by
  refine ⟨counting_sampled (by decide) (by decide),fun summarised => ?_⟩
  have beyond := (summarised _ rfl).1
  exact absurd beyond (by decide)

end Ktstr.EventBursts
