import Ktstr.SustainedRuns

/-! Whether the CPU, depth and sample named in a local-queue finding were observed together. -/
namespace Ktstr.DeepestQueues
open List Source.Monitor Library.Streaks SustainedRuns SustainedViolationTracker Nat Option

structure FirstDeepest (cpus : List CpuSnapshot) (cpu depth : Nat) : Prop where
  here : ∃ snapshot, cpus[cpu]? = some snapshot ∧ snapshot.localDsqDepth = depth
  deepest : ∀ snapshot ∈ cpus, snapshot.localDsqDepth ≤ depth
  first : ∀ earlier, earlier < cpu → ∀ snapshot, cpus[earlier]? = some snapshot → snapshot.localDsqDepth < depth

variable {cpus : List CpuSnapshot} {cpu depth : Nat}

theorem FirstDeepest.depth_unique {cpu' depth' : Nat} (one : FirstDeepest cpus cpu depth)
    (other : FirstDeepest cpus cpu' depth') : depth = depth' := by
  obtain ⟨snapshot,found,same⟩ := one.here
  obtain ⟨snapshot',found',same'⟩ := other.here
  have below := other.deepest snapshot (mem_of_getElem? found)
  have above := one.deepest snapshot' (mem_of_getElem? found')
  omega

theorem FirstDeepest.cpu_unique {cpu' : Nat} (one : FirstDeepest cpus cpu depth)
    (other : FirstDeepest cpus cpu' depth) : cpu = cpu' := by
  obtain ⟨snapshot,found,same⟩ := one.here
  obtain ⟨snapshot',found',same'⟩ := other.here
  rcases lt_trichotomy cpu cpu' with before | same | after
  · have := other.first cpu before snapshot found
    omega
  · exact same
  · have := one.first cpu' after snapshot' found'
    omega

/-- What the depth scan of one sample keeps, where it is over the limit. -/
def deepest (limit : Nat) (sample : MonitorSample) : Option (Nat × Nat) :=
  if (worstDsq limit sample.cpus).1 then some (worstDsq limit sample.cpus).2 else none

structure Scanned (limit : Nat) (cpus : List CpuSnapshot) (acc : Bool × Nat × Nat) : Prop where
  shallow : acc.1 = false → acc.2 = (0,0) ∧ ∀ snapshot ∈ cpus, snapshot.localDsqDepth ≤ limit
  deep : acc.1 = true → limit < acc.2.1 ∧ FirstDeepest cpus acc.2.2 acc.2.1

theorem FirstDeepest.snoc (was : FirstDeepest cpus cpu depth) {snapshot : CpuSnapshot}
    (below : snapshot.localDsqDepth ≤ depth) : FirstDeepest (cpus ++ [snapshot]) cpu depth := by
  obtain ⟨found,here,same⟩ := was.here
  have inside := (List.getElem?_eq_some_iff.mp here).1
  refine ⟨⟨found,by rw [getElem?_append_left inside,here],same⟩,?_,?_⟩
  · intro other member
    rcases mem_append.mp member with old | new
    · exact was.deepest other old
    · rwa [mem_singleton.mp new]
  · intro earlier before other there
    rw [getElem?_append_left (by omega)] at there
    exact was.first earlier before other there

theorem firstDeepest_snoc {snapshot : CpuSnapshot}
    (above : ∀ other ∈ cpus, other.localDsqDepth < snapshot.localDsqDepth) :
    FirstDeepest (cpus ++ [snapshot]) cpus.length snapshot.localDsqDepth := by
  refine ⟨⟨snapshot,by simp,rfl⟩,?_,?_⟩
  · intro other member
    rcases mem_append.mp member with old | new
    · exact (above other old).le
    · rw [mem_singleton.mp new]
  · intro earlier before other there
    rw [getElem?_append_left before] at there
    exact above other (mem_of_getElem? there)

theorem worstDsq_snoc (limit : Nat) (cpus : List CpuSnapshot) (snapshot : CpuSnapshot) :
    worstDsq limit (cpus ++ [snapshot]) =
      if snapshot.localDsqDepth > limit ∧ snapshot.localDsqDepth > (worstDsq limit cpus).2.1 then
        (true,snapshot.localDsqDepth,cpus.length)
      else worstDsq limit cpus := by
  rw [worstDsq,zipIdx_append,foldl_append]
  simp only [zipIdx_cons,zero_add]
  rfl

theorem scanned (limit : Nat) (cpus : List CpuSnapshot) : Scanned limit cpus (worstDsq limit cpus) := by
  induction cpus using List.reverseRecOn with
  | nil => exact ⟨fun _ => ⟨rfl,by simp⟩,fun found => (by cases found)⟩
  | append_singleton cpus snapshot ih =>
    rw [worstDsq_snoc]
    by_cases deeper : snapshot.localDsqDepth > limit ∧ snapshot.localDsqDepth > (worstDsq limit cpus).2.1
    · rw [if_pos deeper]
      refine ⟨fun none => (by cases none),fun _ => ⟨deeper.1,firstDeepest_snoc fun other member => ?_⟩⟩
      cases seen : (worstDsq limit cpus).1 with
      | false => exact ((ih.shallow seen).2 other member).trans_lt deeper.1
      | true => exact ((ih.deep seen).2.deepest other member).trans_lt deeper.2
    · rw [if_neg deeper]
      refine ⟨fun none => ?_,fun seen => ?_⟩
      · obtain ⟨start,shallow⟩ := ih.shallow none
        refine ⟨start,forall_mem_append.mpr ⟨shallow,forall_mem_singleton.mpr ?_⟩⟩
        rw [start] at deeper
        omega
      · obtain ⟨beyond,found⟩ := ih.deep seen
        exact ⟨beyond,found.snoc (by omega)⟩

theorem deepest_eq_some {limit : Nat} {sample : MonitorSample} :
    deepest limit sample = some (depth,cpu) ↔ limit < depth ∧ FirstDeepest sample.cpus cpu depth := by
  have scan := scanned limit sample.cpus
  rw [deepest]
  cases seen : (worstDsq limit sample.cpus).1 with
  | false =>
    refine ⟨fun found => by simp at found,fun ⟨beyond,found⟩ => ?_⟩
    obtain ⟨snapshot,there,same⟩ := found.here
    have shallow := (scan.shallow seen).2 snapshot (mem_of_getElem? there)
    omega
  | true =>
    obtain ⟨beyond,found⟩ := scan.deep seen
    rw [if_pos rfl,some.injEq]
    constructor
    · intro same
      rw [same] at beyond found
      exact ⟨beyond,found⟩
    · rintro ⟨_,other⟩
      have depths := found.depth_unique other
      rw [depths] at found
      exact Prod.ext depths (found.cpu_unique other)

theorem deepest_isSome {limit : Nat} {sample : MonitorSample} :
    (deepest limit sample).isSome ↔ ∃ snapshot ∈ sample.cpus, snapshot.localDsqDepth > limit := by
  have scan := scanned limit sample.cpus
  rw [deepest]
  cases seen : (worstDsq limit sample.cpus).1 with
  | false =>
    simp only [Bool.false_eq_true,if_false,isSome_none,false_iff,not_exists,not_and,not_lt]
    exact (scan.shallow seen).2
  | true =>
    obtain ⟨beyond,found⟩ := scan.deep seen
    obtain ⟨snapshot,there,same⟩ := found.here
    exact ⟨fun _ => ⟨snapshot,mem_of_getElem? there,by omega⟩,fun _ => rfl⟩

/-! The tracker of the sample loop. -/

section Tracking
variable (thresholds : MonitorThresholds) (report : MonitorReport)

def readingAt (j : Nat) : Option (Nat × Nat) := report.samples[j]?.bind (deepest thresholds.maxLocalDsqDepth)

theorem deepAt_iff (j : Nat) : DeepAt thresholds report j ↔ (readingAt thresholds report j).isSome := by
  rw [DeepAt,readingAt]
  cases report.samples[j]? with
  | none => simp
  | some sample => simp [deepest_isSome]

structure Tracked (n : Nat) (dsq : SustainedViolationTracker) (worstCpu : Nat) : Prop where
  current : RunsTo (DeepAt thresholds report) n dsq.consecutive
  trailing : ∀ run, RunsTo (DeepAt thresholds report) n run → run ≤ dsq.consecutive
  longest : ∀ stop, stop ≤ n → ∀ run, RunsTo (DeepAt thresholds report) stop run → run ≤ dsq.worstRun
  idle : dsq.worstRun = 0 → dsq.worstValue = 0 ∧ dsq.worstAt = 0 ∧ worstCpu = 0
  reached : 0 < dsq.worstRun → dsq.worstAt < n ∧
    RunsTo (DeepAt thresholds report) (dsq.worstAt + 1) dsq.worstRun ∧
    ∀ stop, stop ≤ dsq.worstAt → ¬ RunsTo (DeepAt thresholds report) stop dsq.worstRun
  named : 0 < dsq.worstRun → ∃ depth cpu : Nat, dsq.worstValue = depth ∧
    readingAt thresholds report dsq.worstAt = some (depth,cpu) ∧
    ∃ last, dsq.worstAt ≤ last ∧ last < n ∧ readingAt thresholds report last = some (depth,worstCpu) ∧
      ∀ later, last < later → later < n → ∀ other, readingAt thresholds report later ≠ some (depth,other)

theorem recordSample_none {sample : MonitorSample} (none : deepest thresholds.maxLocalDsqDepth sample = none)
    {state : DepthTrackers} {i : Nat} :
    (recordSample thresholds state (sample,i)).dsq = {state.dsq with consecutive := 0} ∧
    (recordSample thresholds state (sample,i)).worstDsqCpu = state.worstDsqCpu := by
  have quiet : (worstDsq thresholds.maxLocalDsqDepth sample.cpus).1 = false := by
    rw [deepest] at none
    cases seen : (worstDsq thresholds.maxLocalDsqDepth sample.cpus).1 with
    | false => rfl
    | true => simp [seen] at none
  unfold recordSample
  by_cases empty : sample.cpus.isEmpty
  · simp [empty,record]
  · simp [empty,quiet,record]

theorem recordSample_some {sample : MonitorSample} {depth cpu : Nat}
    (found : deepest thresholds.maxLocalDsqDepth sample = some (depth,cpu)) {state : DepthTrackers} {i : Nat} :
    (recordSample thresholds state (sample,i)).dsq = state.dsq.record true depth i ∧
    (recordSample thresholds state (sample,i)).worstDsqCpu =
      if (state.dsq.record true depth i).worstValue = depth then cpu else state.worstDsqCpu := by
  have scan : worstDsq thresholds.maxLocalDsqDepth sample.cpus = (true,depth,cpu) := by
    rw [deepest] at found
    cases seen : (worstDsq thresholds.maxLocalDsqDepth sample.cpus).1 with
    | false => simp [seen] at found
    | true => exact Prod.ext seen (some.inj (by simpa [seen] using found))
  have some_cpu : sample.cpus.isEmpty = false := by
    cases cpus : sample.cpus with
    | nil => rw [cpus] at scan; cases scan
    | cons first rest => rfl
  unfold recordSample
  simp [some_cpu,scan]

variable {thresholds report}

variable {n worstCpu : Nat} {dsq : SustainedViolationTracker}

theorem Tracked.miss (was : Tracked thresholds report n dsq worstCpu)
    (none : readingAt thresholds report n = none) :
    Tracked thresholds report (n + 1) {dsq with consecutive := 0} worstCpu := by
  have quiet : ¬ DeepAt thresholds report n := by
    rw [deepAt_iff,none]
    exact Bool.false_ne_true
  refine ⟨runsTo_zero,?_,?_,was.idle,?_,?_⟩
  · intro run runs
    exact (runsTo_of_miss quiet runs).le
  · intro stop within run runs
    by_cases last : stop = n + 1
    · rw [last] at runs
      rw [runsTo_of_miss quiet runs]
      exact zero_le _
    · exact was.longest stop (by omega) run runs
  · intro pos
    obtain ⟨within,runs,first⟩ := was.reached pos
    exact ⟨lt_succ_of_lt within,runs,first⟩
  · intro pos
    obtain ⟨depth,cpu,value,here,last,above,below,there,after⟩ := was.named pos
    refine ⟨depth,cpu,value,here,last,above,by omega,there,fun later beyond within other => ?_⟩
    by_cases new : later = n
    · rw [new,none]
      simp
    · exact after later beyond (by omega) other

theorem Tracked.trailing_succ (was : Tracked thresholds report n dsq worstCpu) (run : Nat)
    (runs : RunsTo (DeepAt thresholds report) (n + 1) run) : run ≤ dsq.consecutive + 1 := by
  cases run with
  | zero => exact zero_le _
  | succ run => exact succ_le_succ (was.trailing run (runsTo_succ.mp runs).2)

theorem deepAt_of_reading {j : Nat} {worst : Nat × Nat} (found : readingAt thresholds report j = some worst) :
    DeepAt thresholds report j := by
  rw [deepAt_iff,found]
  rfl

theorem Tracked.record (was : Tracked thresholds report n dsq worstCpu) {depth cpu : Nat}
    (found : readingAt thresholds report n = some (depth,cpu)) (more : dsq.consecutive + 1 > dsq.worstRun) :
    Tracked thresholds report (n + 1) ⟨dsq.consecutive + 1,dsq.consecutive + 1,depth,n⟩ cpu := by
  have hit := deepAt_of_reading found
  refine ⟨runsTo_succ.mpr ⟨hit,was.current⟩,was.trailing_succ,?_,?_,?_,?_⟩
  · intro stop within run runs
    by_cases last : stop = n + 1
    · rw [last] at runs
      exact was.trailing_succ run runs
    · exact (was.longest stop (by omega) run runs).trans (le_of_lt more)
  · intro zero
    cases zero
  · intro _
    refine ⟨lt_succ_self n,runsTo_succ.mpr ⟨hit,was.current⟩,fun stop within runs => ?_⟩
    have known := was.longest stop within _ runs
    dsimp only at known
    omega
  · intro _
    exact ⟨depth,cpu,rfl,found,n,le_refl n,lt_succ_self n,found,fun later beyond within => by omega⟩

theorem Tracked.extend (was : Tracked thresholds report n dsq worstCpu) {depth cpu : Nat}
    (found : readingAt thresholds report n = some (depth,cpu)) (less : ¬ dsq.consecutive + 1 > dsq.worstRun) :
    Tracked thresholds report (n + 1) {dsq with consecutive := dsq.consecutive + 1}
      (if dsq.worstValue = depth then cpu else worstCpu) := by
  have hit := deepAt_of_reading found
  have pos : 0 < dsq.worstRun := by omega
  refine ⟨runsTo_succ.mpr ⟨hit,was.current⟩,was.trailing_succ,?_,?_,?_,?_⟩
  · intro stop within run runs
    by_cases last : stop = n + 1
    · rw [last] at runs
      exact (was.trailing_succ run runs).trans (by dsimp only; omega)
    · exact was.longest stop (by omega) run runs
  · intro zero
    dsimp only at zero
    omega
  · intro _
    obtain ⟨within,runs,first⟩ := was.reached pos
    exact ⟨lt_succ_of_lt within,runs,first⟩
  · intro _
    obtain ⟨worst,first,value,here,last,above,below,there,after⟩ := was.named pos
    refine ⟨worst,first,value,here,?_⟩
    by_cases same : worst = depth
    · -- As deep as the record without being one: the CPU is taken from here.
      rw [if_pos (by rw [value,same])]
      exact ⟨n,(was.reached pos).1.le,lt_succ_self n,by rw [found,same],fun later beyond within => by omega⟩
    · rw [if_neg (by rw [value]; exact_mod_cast same)]
      refine ⟨last,above,by omega,there,fun later beyond within other => ?_⟩
      by_cases new : later = n
      · rw [new,found]
        intro equal
        exact same (congrArg Prod.fst (some.inj equal)).symm
      · exact after later beyond (by omega) other

theorem Tracked.step {state : DepthTrackers} {sample : MonitorSample}
    (here : report.samples[n]? = some sample) (was : Tracked thresholds report n state.dsq state.worstDsqCpu) :
    Tracked thresholds report (n + 1) (recordSample thresholds state (sample,n)).dsq
      (recordSample thresholds state (sample,n)).worstDsqCpu := by
  have reading : readingAt thresholds report n = deepest thresholds.maxLocalDsqDepth sample := by
    rw [readingAt,here]
    rfl
  cases found : deepest thresholds.maxLocalDsqDepth sample with
  | none =>
    obtain ⟨dsq,cpu⟩ := recordSample_none thresholds found
    rw [dsq,cpu]
    exact was.miss (reading.trans found)
  | some worst =>
    obtain ⟨depth,cpu⟩ := worst
    obtain ⟨dsq,named⟩ := recordSample_some thresholds found
    rw [dsq,named]
    by_cases more : state.dsq.consecutive + 1 > state.dsq.worstRun
    · have recorded : state.dsq.record true depth n = ⟨state.dsq.consecutive + 1,state.dsq.consecutive + 1,depth,n⟩ := by
        simp [SustainedViolationTracker.record,more]
      rw [recorded,if_pos rfl]
      exact was.record (reading.trans found) more
    · have counted : state.dsq.record true depth n = {state.dsq with consecutive := state.dsq.consecutive + 1} := by
        simp [SustainedViolationTracker.record,more]
      rw [counted]
      exact was.extend (reading.trans found) more

variable (thresholds report)

/-- The trackers after the first `n` samples. -/
def after (n : Nat) : DepthTrackers := (report.samples.zipIdx.take n).foldl (recordSample thresholds) {}

theorem tracked_after {n : Nat} (within : n ≤ report.samples.length) :
    Tracked thresholds report n (after thresholds report n).dsq (after thresholds report n).worstDsqCpu := by
  induction n with
  | zero =>
    refine ⟨runsTo_zero,fun run runs => runs.1,fun stop within run runs => runs.1.trans within,fun _ => ⟨rfl,rfl,rfl⟩,
      ?_,?_⟩ <;>
    · intro pos
      cases pos
  | succ n ih =>
    have here := getElem?_eq_getElem within
    have turn : after thresholds report (n + 1) = recordSample thresholds (after thresholds report n) (report.samples[n],n) := by
      have entry : report.samples.zipIdx[n]? = some (report.samples[n],n) := by simp [here]
      rw [after,take_add_one,entry,foldl_append]
      rfl
    rw [turn]
    exact (ih (by omega)).step here

theorem tracked :
    Tracked thresholds report report.samples.length (report.samples.zipIdx.foldl (recordSample thresholds) {}).dsq
      (report.samples.zipIdx.foldl (recordSample thresholds) {}).worstDsqCpu := by
  have all : after thresholds report report.samples.length = report.samples.zipIdx.foldl (recordSample thresholds) {} := by
    rw [after,take_of_length_le (by simp)]
  rw [← all]
  exact tracked_after thresholds report (le_refl _)

end Tracking

/-- The sample has the depth on this CPU, deeper on none, and ends a run of samples over the limit as long as any. -/
structure Observed (thresholds : MonitorThresholds) (report : MonitorReport) (depth cpu run index : Nat) : Prop where
  sample : ∃ sample snapshot, report.samples[index]? = some sample ∧ sample.cpus[cpu]? = some snapshot ∧
    snapshot.localDsqDepth = depth ∧ ∀ other ∈ sample.cpus, other.localDsqDepth ≤ depth
  runs : RunsTo (DeepAt thresholds report) (index + 1) run
  longest : ∀ stop, stop ≤ report.samples.length → ∀ other, RunsTo (DeepAt thresholds report) stop other → other ≤ run

def Faithful (hz : Nat) (thresholds : MonitorThresholds) (report : MonitorReport) : Prop :=
  ∀ depth cpu limit run index, Detail.localDsq depth cpu limit run index ∈ (evaluate hz thresholds report).details →
    Observed thresholds report depth cpu run index

def FirstDeepestAt (report : MonitorReport) (j cpu depth : Nat) : Prop :=
  ∃ sample, report.samples[j]? = some sample ∧ FirstDeepest sample.cpus cpu depth

/-- Where the first longest run of samples over the limit ends with some depth, the first deepest CPU of the last
sample from there on that is just as deep has that depth there as well. -/
structure RightlyNamed (thresholds : MonitorThresholds) (report : MonitorReport) : Prop where
  sustained : ∀ index run depth cpu last named, 0 < run → thresholds.sustainedSamples ≤ run →
    FirstLongest (DeepAt thresholds report) report.samples.length (index + 1) run →
    FirstDeepestAt report index cpu depth → index ≤ last → FirstDeepestAt report last named depth →
    (∀ later, last < later → ∀ other, ¬ FirstDeepestAt report later other depth) →
    ∃ snapshot, report.samples[index]?.bind (fun sample => sample.cpus[named]?) = some snapshot ∧ snapshot.localDsqDepth = depth
  idle : thresholds.sustainedSamples = 0 → (∀ j, ¬ DeepAt thresholds report j) →
    ∃ sample, report.samples[0]? = some sample ∧ sample.cpus ≠ [] ∧ ∀ cpu ∈ sample.cpus, cpu.localDsqDepth = 0

theorem mem_localDsq {hz : Nat} {thresholds : MonitorThresholds} {report : MonitorReport}
    {depth cpu limit run index : Nat} :
    Detail.localDsq depth cpu limit run index ∈ (evaluate hz thresholds report).details ↔
      let trackers := report.samples.zipIdx.foldl (recordSample thresholds) {}
      report.samples ≠ [] ∧ dataLooksValid report.samples ∧
        trackers.dsq.sustained thresholds.sustainedSamples ∧
        depth = trackers.dsq.worstValue.floor.toNat ∧ cpu = trackers.worstDsqCpu ∧
        limit = thresholds.maxLocalDsqDepth ∧ run = trackers.dsq.worstRun ∧ index = trackers.dsq.worstAt := by
  unfold evaluate
  by_cases none : report.samples = []
  · simp [none]
  by_cases valid : dataLooksValid report.samples
  · simp only [List.isEmpty_iff,none,if_false,valid,Bool.not_true,Bool.false_eq_true,mem_evaluateDetails]
    constructor
    · rintro (⟨_,wrong⟩ | ⟨sustained,same⟩ | ⟨_,inside⟩ | ⟨_,wrong⟩ | ⟨_,wrong⟩)
      · cases wrong
      · injection same with h₁ h₂ h₃ h₄ h₅
        exact ⟨none,trivial,sustained,h₁,h₂,h₃,h₄,h₅⟩
      · obtain ⟨_,_,_,_,wrong⟩ := mem_stallDetails _ inside
        cases wrong
      · cases wrong
      · cases wrong
    · rintro ⟨_,_,sustained,rfl,rfl,rfl,rfl,rfl⟩
      exact .inr (.inl ⟨sustained,rfl⟩)
  · simp [none,valid]



section Naming
variable {thresholds : MonitorThresholds} {report : MonitorReport}

variable {j cpu depth : Nat}

theorem readingAt_eq_some : readingAt thresholds report j = some (depth,cpu) ↔
      thresholds.maxLocalDsqDepth < depth ∧ FirstDeepestAt report j cpu depth := by
  rw [readingAt,bind_eq_some_iff]
  simp only [deepest_eq_some]
  constructor
  · rintro ⟨sample,here,beyond,found⟩
    exact ⟨beyond,sample,here,found⟩
  · rintro ⟨beyond,sample,here,found⟩
    exact ⟨sample,here,beyond,found⟩

theorem FirstDeepestAt.depth_unique {cpu' depth' : Nat} (one : FirstDeepestAt report j cpu depth)
    (other : FirstDeepestAt report j cpu' depth') : depth = depth' := by
  obtain ⟨sample,here,found⟩ := one
  obtain ⟨sample',here',found'⟩ := other
  rw [here] at here'
  cases here'
  exact found.depth_unique found'

theorem FirstDeepestAt.cpu_unique {cpu' : Nat} (one : FirstDeepestAt report j cpu depth)
    (other : FirstDeepestAt report j cpu' depth) : cpu = cpu' := by
  obtain ⟨sample,here,found⟩ := one
  obtain ⟨sample',here',found'⟩ := other
  rw [here] at here'
  cases here'
  exact found.cpu_unique found'

theorem FirstDeepestAt.lt_length (one : FirstDeepestAt report j cpu depth) : j < report.samples.length := by
  obtain ⟨sample,here,_⟩ := one
  exact (List.getElem?_eq_some_iff.mp here).1

theorem Tracked.firstLongest {worstCpu : Nat} {dsq : SustainedViolationTracker}
    (was : Tracked thresholds report report.samples.length dsq worstCpu) (pos : 0 < dsq.worstRun) :
    FirstLongest (DeepAt thresholds report) report.samples.length (dsq.worstAt + 1) dsq.worstRun := by
  obtain ⟨within,runs,first⟩ := was.reached pos
  exact ⟨within,runs,was.longest,fun earlier before => first earlier (le_of_lt_succ before)⟩

theorem Tracked.quiet {worstCpu : Nat} {dsq : SustainedViolationTracker}
    (was : Tracked thresholds report report.samples.length dsq worstCpu) :
    dsq.worstRun = 0 ↔ ∀ j, ¬ DeepAt thresholds report j := by
  constructor
  · intro zero j hit
    obtain ⟨sample,here,_⟩ := id hit
    have within := (List.getElem?_eq_some_iff.mp here).1
    have one := was.longest (j + 1) within 1 (runsTo_succ.mpr ⟨hit,runsTo_zero⟩)
    omega
  · intro none
    by_contra some_run
    obtain ⟨_,runs,_⟩ := was.reached (by omega)
    exact none dsq.worstAt (runs.2 _ (by omega) (lt_succ_self _))

theorem last_unique {last last' named named' : Nat} (found : FirstDeepestAt report last named depth)
    (later : ∀ j, last < j → ∀ other, ¬ FirstDeepestAt report j other depth)
    (found' : FirstDeepestAt report last' named' depth)
    (later' : ∀ j, last' < j → ∀ other, ¬ FirstDeepestAt report j other depth) : named = named' := by
  rcases lt_trichotomy last last' with before | same | after
  · exact absurd found' (later last' before named')
  · rw [← same] at found'
    exact found.cpu_unique found'
  · exact absurd found (later' last after named)

theorem floor_depth {depth : Nat} : (depth : ℚ).floor.toNat = depth := by
  have whole : (depth : ℚ).floor = depth := Rat.floor_intCast depth
  rw [whole,Int.toNat_natCast]

variable {dsq : SustainedViolationTracker} {worstCpu : Nat}

theorem Tracked.record_named (was : Tracked thresholds report report.samples.length dsq worstCpu) (pos : 0 < dsq.worstRun) :
    ∃ depth cpu last : Nat, dsq.worstValue.floor.toNat = depth ∧ FirstDeepestAt report dsq.worstAt cpu depth ∧
      dsq.worstAt ≤ last ∧ FirstDeepestAt report last worstCpu depth ∧
      ∀ later, last < later → ∀ other, ¬ FirstDeepestAt report later other depth := by
  obtain ⟨depth,cpu,value,reading,last,above,_,there,later⟩ := was.named pos
  obtain ⟨beyond,here⟩ := readingAt_eq_some.mp reading
  refine ⟨depth,cpu,last,by rw [value,floor_depth],here,above,(readingAt_eq_some.mp there).2,?_⟩
  intro j after other found
  exact later j after found.lt_length other (readingAt_eq_some.mpr ⟨beyond,found⟩)

theorem Tracked.rightlyNamed (was : Tracked thresholds report report.samples.length dsq worstCpu)
    (observed : thresholds.sustainedSamples ≤ dsq.worstRun →
      Observed thresholds report dsq.worstValue.floor.toNat worstCpu dsq.worstRun dsq.worstAt) :
    RightlyNamed thresholds report := by
  refine ⟨?_,?_⟩
  · intro index run depth cpu last named pos enough longest here _ there later
    have worst := was.longest (index + 1) longest.within run longest.runs
    have positive : 0 < dsq.worstRun := by omega
    obtain ⟨ends,runs⟩ := longest.unique (was.firstLongest positive)
    have place : dsq.worstAt = index := by omega
    obtain ⟨deep,_,_,value,at_record,_,there',later'⟩ := was.record_named positive
    rw [place] at at_record
    have depths : depth = deep := here.depth_unique at_record
    subst depths
    obtain ⟨sample,snapshot,sampled,inside,equal,_⟩ := (observed (by omega)).sample
    rw [place] at sampled
    rw [← last_unique there later there' later'] at inside
    exact ⟨snapshot,by rw [sampled]; exact inside,equal.trans value⟩
  · intro zero none
    obtain ⟨value,index,cpu⟩ := was.idle (was.quiet.mpr none)
    obtain ⟨sample,snapshot,sampled,inside,equal,most⟩ := (observed (by omega)).sample
    rw [index] at sampled
    refine ⟨sample,sampled,ne_nil_of_mem (mem_of_getElem? inside),fun other member => ?_⟩
    have bound := most other member
    rw [value] at bound
    exact le_zero.mp (bound.trans_eq floor_depth)

theorem Tracked.observed (was : Tracked thresholds report report.samples.length dsq worstCpu)
    (named : RightlyNamed thresholds report) (enough : thresholds.sustainedSamples ≤ dsq.worstRun) :
    Observed thresholds report dsq.worstValue.floor.toNat worstCpu dsq.worstRun dsq.worstAt := by
  by_cases none : dsq.worstRun = 0
  · obtain ⟨value,index,cpu⟩ := was.idle none
    obtain ⟨sample,sampled,some_cpu,flat⟩ := named.idle (by omega) (was.quiet.mp none)
    obtain ⟨snapshot,rest,cpus⟩ := exists_cons_of_ne_nil some_cpu
    have zero : dsq.worstValue.floor.toNat = 0 := by
      rw [value]
      exact floor_depth
    rw [zero,index,cpu]
    refine ⟨⟨sample,snapshot,sampled,by rw [cpus]; rfl,flat snapshot ?_,fun other member => (flat other member).le⟩,?_,
      was.longest⟩
    · rw [cpus]
      exact mem_cons_self
    · rw [none]
      exact runsTo_zero
  · have positive : 0 < dsq.worstRun := by omega
    have longest := was.firstLongest positive
    obtain ⟨depth,cpu,last,value,here,above,there,later⟩ := was.record_named positive
    obtain ⟨snapshot,found,equal⟩ := named.sustained _ _ depth cpu last _ positive enough longest here above there later
    obtain ⟨sample,sampled,deepest⟩ := here
    rw [sampled] at found
    rw [value]
    exact ⟨⟨sample,snapshot,sampled,found,equal,deepest.deepest⟩,longest.runs,was.longest⟩

end Naming

/-- A local-queue finding names an observation exactly where the CPU it takes from the last sample as deep as the
record was as deep in the sample of the record. -/
theorem dsq_finding_faithful_iff (hz : Nat) (thresholds : MonitorThresholds) (report : MonitorReport) :
    Faithful hz thresholds report ↔
      (report.samples ≠ [] → dataLooksValid report.samples = true → RightlyNamed thresholds report) := by
  have was := tracked thresholds report
  constructor
  · intro faithful some_sample valid
    refine was.rightlyNamed fun enough => faithful _ _ thresholds.maxLocalDsqDepth _ _ ?_
    exact mem_localDsq.mpr
      ⟨some_sample,valid,decide_eq_true enough,rfl,rfl,rfl,rfl,rfl⟩
  · intro named depth cpu limit run index inside
    obtain ⟨some_sample,valid,sustained,rfl,rfl,rfl,rfl,rfl⟩ := mem_localDsq.mp inside
    exact was.observed (named some_sample valid) (of_decide_eq_true sustained)

def pairSample (clock first second : Nat) : MonitorSample :=
  ⟨clock,[{rqClock := clock,localDsqDepth := first},{rqClock := clock + 1,localDsqDepth := second}]⟩

def depthLimit : MonitorThresholds := ⟨4,2,true,1,200,100,true⟩

/-- Both CPUs reach the depth of the record, one sample apart; the finding has the CPU of one and the sample of the
other. -/
theorem finding_mixes_samples :
    ¬ Faithful 250 depthLimit ⟨[pairSample 1 5 0,pairSample 2 0 0,pairSample 3 0 5],0⟩ := by
  intro faithful
  have reported : Detail.localDsq 5 1 2 1 0 ∈
      (evaluate 250 depthLimit ⟨[pairSample 1 5 0,pairSample 2 0 0,pairSample 3 0 5],0⟩).details := by decide +kernel
  obtain ⟨sample,snapshot,sampled,inside,equal,_⟩ := (faithful _ _ _ _ _ reported).sample
  cases sampled
  cases inside
  cases equal

end Ktstr.DeepestQueues
