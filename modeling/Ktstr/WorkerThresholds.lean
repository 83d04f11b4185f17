import Ktstr.Source.WorkerChecks

/-! Custom spread and gap thresholds take the place of the defaults, in the verdict and in the details. -/
namespace Ktstr.WorkerThresholds
open List Std Source.Results Source.WorkerChecks

def ofKind (kind : DetailKind) (details : List AssertDetail) : List AssertDetail := details.filter fun d => d.kind == kind

def isStarvation (d : AssertDetail) : Bool := d.kind == .starved || d.kind == .unfair || d.kind == .stuck

/-- A starvation verdict: these details, kind by kind, and a pass exactly when there are none. -/
structure Reported (r : AssertResult) (starved unfair stuck : List AssertDetail) : Prop where
  starved : ofKind .starved r.details = starved
  unfair : ofKind .unfair r.details = unfair
  stuck : ofKind .stuck r.details = stuck
  known : ∀ d ∈ r.details, isStarvation d = true
  passed : r.passed = r.details.isEmpty

theorem flagEach_eq {α : Type} (bad : α → Bool) (detail : α → AssertDetail) (items : List α) (r : AssertResult) :
    flagEach bad detail items r =
      {r with passed := r.passed && !items.any bad,details := r.details ++ (items.filter bad).map detail} := by
  rw [flagEach]
  induction items generalizing r with
  | nil => simp
  | cons item items ih =>
    rw [foldl_cons,ih]
    cases here : bad item with
    | false => simp [here]
    | true => simp [here,flag]

theorem ofKind_append (kind : DetailKind) (first second : List AssertDetail) :
    ofKind kind (first ++ second) = ofKind kind first ++ ofKind kind second :=
  filter_append ..

variable {details : List AssertDetail}

theorem ofKind_all {kind : DetailKind} (same : ∀ d ∈ details, d.kind = kind) : ofKind kind details = details :=
  filter_eq_self.mpr fun d inside => by simp [same d inside]

theorem ofKind_none {kind : DetailKind} (other : ∀ d ∈ details, d.kind ≠ kind) : ofKind kind details = [] :=
  filter_eq_nil_iff.mpr fun d inside => by simp [other d inside]

theorem ofKind_of {own : DetailKind} (same : ∀ d ∈ details, d.kind = own) (kind : DetailKind) :
    ofKind kind details = if own = kind then details else [] := by
  by_cases here : own = kind
  · rw [if_pos here,← here]
    exact ofKind_all same
  · rw [if_neg here]
    exact ofKind_none fun d inside => (same d inside).trans_ne here

theorem ofKind_dropped_self (kind : DetailKind) (r : AssertResult) : ofKind kind (dropped kind r).details = [] :=
  ofKind_none fun d inside => by simpa using (mem_filter.mp inside).2

variable {gone : DetailKind}

theorem ofKind_dropped {kind : DetailKind} (apart : kind ≠ gone) (r : AssertResult) :
    ofKind kind (dropped gone r).details = ofKind kind r.details := by
  rw [ofKind,dropped,filter_filter]
  refine filter_congr fun d _ => ?_
  by_cases same : d.kind = kind
  · simp [same,apart]
  · simp [same]

theorem mem_dropped {r : AssertResult} {d : AssertDetail} (inside : d ∈ (dropped gone r).details) :
    d ∈ r.details ∧ d.kind ≠ gone := by
  have both := mem_filter.mp inside
  exact ⟨both.1,by simpa using both.2⟩

theorem isEmpty_eq_not_any {p : AssertDetail → Bool} (every : ∀ d ∈ details, p d) :
    (!details.any p) = details.isEmpty := by
  cases details with
  | nil => rfl
  | cons d details => simp [every d mem_cons_self]

theorem Reported.exchanged {r r' : AssertResult} {starved unfair stuck fresh : List AssertDetail}
    (was : Reported r starved unfair stuck) (gone : DetailKind) (mine : ∀ d ∈ fresh, d.kind = gone)
    (own : gone = .unfair ∨ gone = .stuck)
    (details : r'.details = (dropped gone r).details ++ fresh) (passed : r'.passed = r'.details.isEmpty) :
    Reported r' starved (if gone = .unfair then fresh else unfair) (if gone = .stuck then fresh else stuck) := by
  have others : ∀ kind, kind ≠ gone → ofKind kind r'.details = ofKind kind r.details := by
    intro kind apart
    rw [details,ofKind_append,ofKind_dropped apart,ofKind_none fun d inside => (mine d inside).trans_ne apart.symm,
      append_nil]
  have here : ofKind gone r'.details = fresh := by
    rw [details,ofKind_append,ofKind_dropped_self,ofKind_all mine,nil_append]
  have known : ∀ d ∈ r'.details, isStarvation d := by
    intro d inside
    rw [details] at inside
    rcases mem_append.mp inside with kept | new
    · exact was.known d (mem_dropped kept).1
    · rcases own with rfl | rfl <;> simp [isStarvation,mine d new]
  rcases own with rfl | rfl
  · exact ⟨(others _ (by decide)).trans was.starved,here,(others _ (by decide)).trans was.stuck,known,passed⟩
  · exact ⟨(others _ (by decide)).trans was.starved,(others _ (by decide)).trans was.unfair,here,known,passed⟩

variable (build : Build)

/-- Percentage points between the worker most and the one least off its CPU. -/
def offCpuSpread (reports : List WorkerReport) : ℚ :=
  reduced max (offCpuPcts reports) - reduced min (offCpuPcts reports)

/-- At least two workers with wall time, and a spread above the limit. -/
def Unfair (limit : ℚ) (reports : List WorkerReport) : Prop :=
  2 ≤ (reports.filter fun w => decide (w.wallTimeNs > 0)).length ∧ offCpuSpread reports > limit

instance (limit : ℚ) (reports : List WorkerReport) : Decidable (Unfair limit reports) :=
  inferInstanceAs (Decidable (_ ∧ _))

def starvedDetails (reports : List WorkerReport) : List AssertDetail :=
  (reports.filter fun w => w.workUnits == 0).map starvedDetail

def unfairDetails (limit : ℚ) (reports : List WorkerReport) : List AssertDetail :=
  if Unfair limit reports then [unfairDetail build (cgroupStats build reports) limit] else []

def stuckDetails (limit : Nat) (reports : List WorkerReport) : List AssertDetail :=
  (reports.filter fun w => decide (w.maxGapMs > limit)).map (stuckDetail limit)

variable (reports : List WorkerReport)

theorem length_offCpuPcts :
    (offCpuPcts reports).length = (reports.filter fun w => decide (w.wallTimeNs > 0)).length := by
  induction reports with
  | nil => rfl
  | cons w reports ih =>
    rw [offCpuPcts] at ih ⊢
    by_cases timed : w.wallTimeNs > 0
    · simp [timed,ih]
    · simp [timed,ih]

def verdict (details : List AssertDetail) : AssertResult := ⟨details.isEmpty,false,details,{},∅⟩

theorem flagEach_verdict {α : Type} {bad : α → Bool} {detail : α → AssertDetail} {items : List α}
    (details : List AssertDetail) :
    flagEach bad detail items (verdict details) = verdict (details ++ (items.filter bad).map detail) := by
  have none_bad : (!items.any bad) = ((items.filter bad).map detail).isEmpty := by
    cases found : items.any bad with
    | false => simp_all
    | true => simp_all
  rw [flagEach_eq,none_bad]
  cases details with
  | nil => rfl
  | cons d details => rfl

variable {limit : ℚ} {r : AssertResult} {d : AssertDetail}

theorem flag_unfair {reports : List WorkerReport} {wide : Prop} [Decidable wide]
    (same : wide ↔ Unfair limit reports) (details : List AssertDetail) :
    (if wide then flag (verdict details) (unfairDetail build (cgroupStats build reports) limit) else verdict details) =
      verdict (details ++ unfairDetails build limit reports) := by
  rw [unfairDetails]
  by_cases here : wide
  · rw [if_pos here,if_pos (same.mp here)]
    simp [flag,verdict]
  · rw [if_neg here,if_neg (fun wide => here (same.mpr wide)),append_nil]

def defaultDetails (reports : List WorkerReport) : List AssertDetail :=
  starvedDetails reports ++ unfairDetails build (spreadThresholdPct build) reports ++
    stuckDetails (gapThresholdMs build) reports

variable {build reports}

theorem notStarved_eq (someone : reports ≠ []) : assertNotStarved build reports =
      {verdict (defaultDetails build reports) with stats := rollUp (cgroupStats build reports)} := by
  have nonempty : reports.isEmpty = false := isEmpty_eq_false_iff.mpr someone
  have starved : flagEach isStarved starvedDetail reports .pass = verdict (starvedDetails reports) :=
    flagEach_verdict []
  have wide : (cgroupStats build reports).spread > spreadThresholdPct build ∧ (offCpuPcts reports).length ≥ 2 ↔
      Unfair (spreadThresholdPct build) reports := by
    rw [length_offCpuPcts,and_comm]
    rfl
  simp only [assertNotStarved,nonempty,starved,flag_unfair build wide,flagEach_verdict]
  rfl

theorem mem_starvedDetails {reports : List WorkerReport} (inside : d ∈ starvedDetails reports) :
    d.kind = .starved := by
  obtain ⟨w,_,rfl⟩ := mem_map.mp inside
  rfl

theorem mem_unfairDetails {reports : List WorkerReport} (inside : d ∈ unfairDetails build limit reports) :
    d.kind = .unfair := by
  rw [unfairDetails] at inside
  split at inside
  next => rw [mem_singleton.mp inside]; rfl
  next => cases inside

theorem mem_stuckDetails {limit : Nat} {reports : List WorkerReport} (inside : d ∈ stuckDetails limit reports) :
    d.kind = .stuck := by
  obtain ⟨w,_,rfl⟩ := mem_map.mp inside
  rfl

theorem ofKind_default {kind : DetailKind} {reports : List WorkerReport} :
    ofKind kind (defaultDetails build reports) =
      (if .starved = kind then starvedDetails reports else []) ++
      (if .unfair = kind then unfairDetails build (spreadThresholdPct build) reports else []) ++
      (if .stuck = kind then stuckDetails (gapThresholdMs build) reports else []) := by
  rw [defaultDetails,ofKind_append,ofKind_append,ofKind_of fun d => mem_starvedDetails,
    ofKind_of fun d => mem_unfairDetails,ofKind_of fun d => mem_stuckDetails]

theorem reported_default : Reported (assertNotStarved build reports) (starvedDetails reports)
      (unfairDetails build (spreadThresholdPct build) reports) (stuckDetails (gapThresholdMs build) reports) := by
  by_cases someone : reports = []
  · subst someone
    exact ⟨rfl,rfl,rfl,by simp [assertNotStarved,AssertResult.pass],rfl⟩
  · rw [notStarved_eq someone]
    refine ⟨ofKind_default.trans ?_,ofKind_default.trans ?_,ofKind_default.trans ?_,?_,rfl⟩
    · simp
    · simp
    · simp
    · intro d inside
      rcases mem_append.mp inside with inside | inside
      · rcases mem_append.mp inside with inside | inside
        · rw [isStarvation,mem_starvedDetails inside]; rfl
        · rw [isStarvation,mem_unfairDetails inside]; rfl
      · rw [isStarvation,mem_stuckDetails inside]; rfl

theorem mem_starvation (known : isStarvation d) : d.kind = .starved ∨ d.kind = .unfair ∨ d.kind = .stuck := by
  simpa [isStarvation,or_assoc] using known

theorem rederived_passed {gone first second : DetailKind} (known : ∀ d ∈ r.details, isStarvation d)
    (rest : ∀ kind, kind = .starved ∨ kind = .unfair ∨ kind = .stuck → kind ≠ gone → kind = first ∨ kind = second) :
    (rederived first second (dropped gone r)).passed = (dropped gone r).details.isEmpty := by
  refine isEmpty_eq_not_any fun d inside => ?_
  have was := mem_dropped inside
  rcases rest d.kind (mem_starvation (known d was.1)) was.2 with here | here <;> simp [here]

theorem reduced_single (join : ℚ≥0 → ℚ≥0 → ℚ≥0) (value : ℚ≥0) : reduced join [value] = value := rfl

theorem offCpuSpread_narrow {reports : List WorkerReport} (few : (offCpuPcts reports).length < 2) :
    offCpuSpread reports = 0 := by
  rw [offCpuSpread]
  cases pcts : offCpuPcts reports with
  | nil => simp [reduced]
  | cons pct rest =>
    rw [pcts] at few
    have single : rest = [] := length_eq_zero_iff.mp (by rw [length_cons] at few; omega)
    rw [single,reduced_single,reduced_single,sub_self]

theorem wide_iff (nonneg : 0 ≤ limit) {reports : List WorkerReport} :
    (cgroupStats build reports).spread > limit ∧ (cgroupStats build reports).numWorkers ≥ 2 ↔ Unfair limit reports := by
  constructor
  · rintro ⟨wide,_⟩
    refine ⟨?_,wide⟩
    rw [← length_offCpuPcts]
    by_contra few
    have flat : (cgroupStats build reports).spread = 0 := offCpuSpread_narrow (Nat.lt_of_not_le few)
    rw [flat] at wide
    exact absurd wide nonneg.not_gt
  · rintro ⟨timed,wide⟩
    exact ⟨wide,timed.trans (length_filter_le ..)⟩

theorem reported_recheckSpread (nonneg : 0 ≤ limit) {reports : List WorkerReport} {r : AssertResult}
    {starved unfair stuck : List AssertDetail} (was : Reported r starved unfair stuck)
    (idle : reports = [] → r = .pass) (kept : reports ≠ [] → r.stats.cgroups = [cgroupStats build reports]) :
    Reported (recheckSpread build limit r) starved (unfairDetails build limit reports) stuck := by
  have facts : (recheckSpread build limit r).details =
        (dropped .unfair r).details ++ unfairDetails build limit reports ∧
      (recheckSpread build limit r).passed = (recheckSpread build limit r).details.isEmpty := by
    by_cases someone : reports = []
    · rw [idle someone,someone]
      exact ⟨rfl,rfl⟩
    · have head : (dropped .unfair r).stats.cgroups.head? = some (cgroupStats build reports) :=
        congrArg List.head? (kept someone)
      rw [recheckSpread]
      simp only [head]
      rw [unfairDetails]
      by_cases wide : Unfair limit reports
      · rw [if_pos wide,if_pos ((wide_iff nonneg).mpr wide)]
        simp [flag]
      · rw [if_neg wide,if_neg (mt (wide_iff nonneg).mp wide),append_nil]
        refine ⟨rfl,rederived_passed was.known ?_⟩
        rintro kind (rfl | rfl | rfl) apart
        · exact .inl rfl
        · exact absurd rfl apart
        · exact .inr rfl
  exact was.exchanged .unfair (fun d => mem_unfairDetails) (.inl rfl) facts.1 facts.2

theorem reported_recheckGap {threshold : Nat} {reports : List WorkerReport} {r : AssertResult}
    {starved unfair stuck : List AssertDetail} (was : Reported r starved unfair stuck) :
    Reported (recheckGap reports threshold r) starved unfair (stuckDetails threshold reports) := by
  have facts : (recheckGap reports threshold r).details =
        (dropped .stuck r).details ++ stuckDetails threshold reports ∧
      (recheckGap reports threshold r).passed = (recheckGap reports threshold r).details.isEmpty := by
    rw [recheckGap]
    cases found : reports.any (isStuck threshold) with
    | true =>
      obtain ⟨w,inside,late⟩ := any_eq_true.mp found
      have listed : stuckDetail threshold w ∈ stuckDetails threshold reports :=
        mem_map_of_mem (mem_filter.mpr ⟨inside,late⟩)
      simp only [flagEach_eq,found,Bool.not_true,Bool.and_false]
      refine ⟨rfl,?_⟩
      exact (isEmpty_eq_false_iff_exists_mem.mpr ⟨_,mem_append_right _ listed⟩).symm
    | false =>
      have none_late : stuckDetails threshold reports = [] := by
        rw [stuckDetails,map_eq_nil_iff,filter_eq_nil_iff]
        exact any_eq_false.mp found
      rw [none_late,append_nil]
      refine ⟨rfl,rederived_passed was.known ?_⟩
      rintro kind (rfl | rfl | rfl) apart
      · exact .inl rfl
      · exact .inr rfl
      · exact absurd rfl apart
  exact was.exchanged .stuck (fun d => mem_stuckDetails) (.inr rfl) facts.1 facts.2

variable (build)

def spreadLimit (plan : AssertPlan) : ℚ := plan.maxSpreadPct.getD (spreadThresholdPct build)

def gapLimit (plan : AssertPlan) : Nat := plan.maxGapMs.getD (gapThresholdMs build)

variable {plan : AssertPlan}

theorem reported_fairness (reports : List WorkerReport)
    (nonneg : ∀ limit, plan.maxSpreadPct = some limit → 0 ≤ limit) :
    Reported (plan.fairness build reports) (starvedDetails reports)
      (unfairDetails build (spreadLimit build plan) reports) (stuckDetails (gapThresholdMs build) reports) := by
  rw [AssertPlan.fairness,spreadLimit]
  cases custom : plan.maxSpreadPct with
  | none => exact reported_default
  | some limit =>
    refine reported_recheckSpread (nonneg limit custom) reported_default ?_ ?_
    · intro none
      rw [none]
      rfl
    · intro someone
      rw [notStarved_eq someone]
      rfl

theorem reported_starvation (reports : List WorkerReport)
    (nonneg : ∀ limit, plan.maxSpreadPct = some limit → 0 ≤ limit) :
    Reported (plan.starvation build reports) (starvedDetails reports)
      (unfairDetails build (spreadLimit build plan) reports) (stuckDetails (gapLimit build plan) reports) := by
  have fairness := reported_fairness build reports nonneg
  rw [AssertPlan.starvation,gapLimit]
  cases plan.maxGapMs with
  | none => exact fairness
  | some threshold => exact reported_recheckGap fairness

theorem Reported.passes {starved unfair stuck : List AssertDetail} (was : Reported r starved unfair stuck) :
    r.passed ↔ starved = [] ∧ unfair = [] ∧ stuck = [] := by
  rw [was.passed,List.isEmpty_iff]
  constructor
  · intro none
    rw [← was.starved,← was.unfair,← was.stuck,none]
    exact ⟨rfl,rfl,rfl⟩
  · rintro ⟨noStarved,noUnfair,noStuck⟩
    refine eq_nil_iff_forall_not_mem.mpr fun d inside => ?_
    have listed : ∀ kind, d.kind = kind → ofKind kind r.details ≠ [] := fun kind same =>
      ne_nil_of_mem (mem_filter.mpr ⟨inside,beq_iff_eq.mpr same⟩)
    rcases mem_starvation (was.known d inside) with kind | kind | kind
    · exact listed _ kind (was.starved.trans noStarved)
    · exact listed _ kind (was.unfair.trans noUnfair)
    · exact listed _ kind (was.stuck.trans noStuck)

theorem starvedDetails_eq_nil {reports : List WorkerReport} :
    starvedDetails reports = [] ↔ ∀ w ∈ reports, w.workUnits ≠ 0 := by
  rw [starvedDetails,map_eq_nil_iff]
  simp

variable {build}

theorem unfairDetails_eq_nil {reports : List WorkerReport} :
    unfairDetails build limit reports = [] ↔ ¬ Unfair limit reports := by
  rw [unfairDetails]
  by_cases wide : Unfair limit reports
  · simp [wide]
  · simp [wide]

theorem stuckDetails_eq_nil {limit : Nat} {reports : List WorkerReport} :
    stuckDetails limit reports = [] ↔ ∀ w ∈ reports, ¬ w.maxGapMs > limit := by
  rw [stuckDetails,map_eq_nil_iff]
  simp

/-- A result after further checks: no starvation detail is added or lost, and no pass is won. -/
structure Extends (r later : AssertResult) : Prop where
  details : later.details.filter isStarvation = r.details.filter isStarvation
  passed : later.passed = true → r.passed = true

theorem Extends.refl (r : AssertResult) : Extends r r := ⟨rfl,id⟩

theorem Extends.trans {next later : AssertResult} (first : Extends r next) (second : Extends next later) :
    Extends r later :=
  ⟨second.details.trans first.details,first.passed ∘ second.passed⟩

def Apart (r : AssertResult) : Prop := ∀ d ∈ r.details, isStarvation d = false

theorem filter_apart {details : List AssertDetail} (apart : ∀ d ∈ details, isStarvation d = false) :
    details.filter isStarvation = [] :=
  filter_eq_nil_iff.mpr fun d inside => by simp [apart d inside]

theorem extends_merge (r : AssertResult) {other : AssertResult} (apart : Apart other) :
    Extends r (r.merge other) := by
  refine ⟨?_,?_⟩
  · rw [AssertResult.merge,filter_append,filter_apart apart,append_nil]
  · intro passed
    cases good : other.passed with
    | true => simpa [AssertResult.merge,good] using passed
    | false => simp [AssertResult.merge,good] at passed

theorem extends_flag {r : AssertResult} {detail : AssertDetail} (apart : isStarvation detail = false) :
    Extends r (flag r detail) := by
  refine ⟨?_,fun passed => by cases passed⟩
  rw [flag,filter_append,filter_apart (forall_mem_singleton.mpr apart),append_nil]

theorem extends_ite {first second : AssertResult} {c : Prop} [Decidable c] (then_ : Extends r first)
    (else_ : Extends r second) : Extends r (if c then first else second) := by
  by_cases here : c
  · rwa [if_pos here]
  · rwa [if_neg here]

theorem apart_pass : Apart .pass := forall_mem_nil _

theorem Apart.flag (was : Apart r) {detail : AssertDetail} (apart : isStarvation detail = false) :
    Apart (flag r detail) :=
  forall_mem_append.mpr ⟨was,forall_mem_singleton.mpr apart⟩

theorem Apart.flagEach {α : Type} (was : Apart r) (bad : α → Bool) {detail : α → AssertDetail}
    (apart : ∀ item, isStarvation (detail item) = false) (items : List α) :
    Apart (flagEach bad detail items r) := by
  rw [flagEach_eq]
  refine forall_mem_append.mpr ⟨was,?_⟩
  intro d inside
  obtain ⟨item,_,rfl⟩ := mem_map.mp inside
  exact apart item

theorem apart_ite {first second : AssertResult} {c : Prop} [Decidable c] (then_ : Apart first)
    (else_ : Apart second) : Apart (if c then first else second) := by
  by_cases here : c
  · rwa [if_pos here]
  · rwa [if_neg here]

theorem apart_isolation {expected : Finset Nat} : Apart (assertIsolation reports expected) :=
  apart_pass.flagEach _ (fun _ => rfl) reports

theorem apart_whenSet {α : Type} {threshold : Option α} {check : α → AssertResult → AssertResult}
    (keeps : ∀ limit r, Apart r → Apart (check limit r)) {r : AssertResult} (was : Apart r) :
    Apart (whenSet threshold check r) := by
  cases threshold with
  | none => exact was
  | some limit => exact keeps limit r was

theorem apart_throughput {maxCv minRate : Option ℚ} :
    Apart (assertThroughputParity build reports maxCv minRate) := by
  refine apart_ite apart_pass (apart_whenSet ?_ (apart_whenSet ?_ apart_pass))
  · intro floor r was
    exact was.flagEach _ (fun _ => rfl) reports
  · intro limit r was
    exact apart_ite (was.flag rfl) (apart_ite (was.flag rfl) was)

theorem apart_benchmarks {maxP99Ns : Option Nat} {maxCv minIterRate : Option ℚ} :
    Apart (assertBenchmarks build reports maxP99Ns maxCv minIterRate) := by
  refine apart_ite (forall_mem_singleton.mpr rfl)
    (apart_whenSet ?_ (apart_whenSet ?_ (apart_whenSet ?_ apart_pass)))
  · intro floor r was
    exact was.flagEach _ (fun _ => rfl) reports
  · intro limit r was
    exact apart_ite (was.flag rfl) was
  · intro limit r was
    exact apart_ite (was.flag rfl) was

theorem apart_locality {minLocality : ℚ} {nodes : Finset Nat} :
    Apart (localityResult build reports minLocality nodes) :=
  apart_ite (apart_pass.flag rfl) apart_pass

theorem apart_crossNode {maxRatio : ℚ} : Apart (crossNodeResult build reports maxRatio) :=
  apart_ite (apart_ite (apart_pass.flag rfl) apart_pass) (apart_ite (apart_pass.flag rfl) apart_pass)

theorem apart_slowTier {maxRatio : ℚ} {nodes : Finset Nat} :
    ∀ r ∈ slowTierResults build reports maxRatio (some nodes), Apart r := by
  intro r inside
  obtain ⟨w,_,found⟩ := mem_filterMap.mp inside
  rw [ite_eq_iff] at found
  rcases found with ⟨_,found⟩ | ⟨_,found⟩
  · rw [← Option.some.inj found]
    exact apart_ite (apart_pass.flag rfl) apart_pass
  · cases found

theorem extends_foldl {others : List AssertResult} (apart : ∀ r ∈ others, Apart r) (r : AssertResult) :
    Extends r (others.foldl .merge r) := by
  induction others generalizing r with
  | nil => exact .refl r
  | cons other others ih =>
    obtain ⟨here,rest⟩ := forall_mem_cons.mp apart
    exact (extends_merge r here).trans (ih rest _)

theorem extends_whenSet {α : Type} (threshold : Option α) {check : α → AssertResult → AssertResult}
    (more : ∀ limit, threshold = some limit → ∀ r, Extends r (check limit r)) (r : AssertResult) :
    Extends r (whenSet threshold check r) := by
  cases threshold with
  | none => exact .refl r
  | some limit => exact more limit rfl r

theorem extends_numaChecks {reports : List WorkerReport} {numaNodes : Option (Finset Nat)} {r : AssertResult} :
    Extends r (plan.numaChecks build reports numaNodes r) := by
  refine ((extends_whenSet plan.minPageLocality ?_ r).trans
    (extends_whenSet plan.maxCrossNodeMigrationRatio ?_ _)).trans (extends_whenSet plan.maxSlowTierRatio ?_ _)
  · intro minLocality _ r
    exact extends_whenSet numaNodes (fun nodes _ r => extends_merge r apart_locality) r
  · intro maxRatio _ r
    exact extends_merge r apart_crossNode
  · intro maxRatio _ r
    refine extends_whenSet numaNodes (fun nodes known r => ?_) r
    rw [known]
    exact extends_foldl apart_slowTier r

variable (build)

theorem extends_assertCgroup {plan : AssertPlan} (reports : List WorkerReport)
    (cpuset numaNodes : Option (Finset Nat)) (set : plan.notStarved) :
    Extends (AssertResult.pass.merge (plan.starvation build reports))
      (plan.assertCgroup build reports cpuset numaNodes) := by
  simp only [AssertPlan.assertCgroup,set]
  refine Extends.trans ?_ extends_numaChecks
  refine Extends.trans ?_ (extends_whenSet plan.maxMigrationRatio (fun limit _ r => ?_) _)
  · refine Extends.trans ?_ (extends_ite (extends_merge _ apart_benchmarks) (.refl _))
    refine Extends.trans ?_ (extends_ite (extends_merge _ apart_throughput) (.refl _))
    refine extends_ite (extends_whenSet cpuset (fun cs _ r => ?_) _) (.refl _)
    exact extends_merge r apart_isolation
  · exact extends_ite (extends_flag rfl) (.refl r)

variable (reports)

/-- Custom limits replace the defaults: the starvation part passes exactly when no worker starved, none was stuck
beyond the gap limit in force and the cgroup is not unfair by the spread limit in force; its details are one for
each of these, and no later check of the plan adds another or turns its failure into a pass. -/
theorem starvation_exact (plan : AssertPlan) (reports : List WorkerReport) (cpuset numaNodes : Option (Finset Nat))
    (set : plan.notStarved = true) (nonneg : ∀ limit, plan.maxSpreadPct = some limit → 0 ≤ limit) :
    let part := plan.starvation build reports
    let whole := plan.assertCgroup build reports cpuset numaNodes
    (part.passed = true ↔ (∀ w ∈ reports, w.workUnits ≠ 0) ∧ ¬ Unfair (spreadLimit build plan) reports ∧
      ∀ w ∈ reports, ¬ w.maxGapMs > gapLimit build plan) ∧
    ofKind .starved part.details = (reports.filter fun w => w.workUnits == 0).map starvedDetail ∧
    ofKind .unfair part.details =
      (if Unfair (spreadLimit build plan) reports then
        [unfairDetail build (cgroupStats build reports) (spreadLimit build plan)] else []) ∧
    ofKind .stuck part.details =
      (reports.filter fun w => decide (w.maxGapMs > gapLimit build plan)).map (stuckDetail (gapLimit build plan)) ∧
    (∀ d ∈ part.details, isStarvation d = true) ∧
    whole.details.filter isStarvation = part.details ∧
    (whole.passed = true → part.passed = true) := by
  have reported := reported_starvation build reports nonneg
  have later := extends_assertCgroup build reports cpuset numaNodes set
  refine ⟨?_,reported.starved,reported.unfair,reported.stuck,reported.known,?_,?_⟩
  · rw [reported.passes,starvedDetails_eq_nil,unfairDetails_eq_nil,stuckDetails_eq_nil]
  · rw [later.details]
    exact filter_eq_self.mpr reported.known
  · intro passed
    have before := later.passed passed
    cases good : (plan.starvation build reports).passed with
    | true => rfl
    | false => simp [AssertResult.merge,good] at before

/-- Wider limits than the defaults, on a spread of 40 points and a gap of 2.5 seconds. -/
theorem wider_limits_pass :
    (AssertPlan.starvation ⟨false,Rat.toNNRat,fun _ value => toString value⟩
      {notStarved := true,maxSpreadPct := some 50,maxGapMs := some 3000}
      [{tid := 7,workUnits := 1,wallTimeNs := 10,offCpuNs := 5},
        {tid := 8,workUnits := 1,wallTimeNs := 10,offCpuNs := 1,maxGapMs := 2500}]).passed = true :=
  (starvation_exact ⟨false,Rat.toNNRat,fun _ value => toString value⟩
    {notStarved := true,maxSpreadPct := some 50,maxGapMs := some 3000} _ none none rfl (by simp)).1.mpr (by decide +kernel)

end Ktstr.WorkerThresholds
