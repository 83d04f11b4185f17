import Ktstr.Source.WorkerChecks

/-! Folding results: what becomes of skips under `all_of`, and of measurements under `any_of`. -/
namespace Ktstr.BranchFolds
open List Std Library.Maps Source.Results Source.WorkerChecks AssertResult

variable (branches : List AssertResult)

theorem foldl_skipped (acc : AssertResult) :
    (branches.foldl merge acc).skipped = (acc.skipped && branches.all skipped) := by
  induction branches generalizing acc with
  | nil => simp
  | cons branch branches ih =>
    rw [foldl_cons,ih,all_cons,← Bool.and_assoc]
    rfl

theorem allOf_not_skipped : (allOf branches).skipped = false := by
  rw [allOf,foldl_skipped]
  rfl

def benchmarkPlan (maxP99WakeLatencyNs : Option Nat) (maxWakeLatencyCv minIterationRate : Option ℚ) : AssertPlan :=
  {maxP99WakeLatencyNs,maxWakeLatencyCv,minIterationRate}

theorem benchmarkPlan_allOf {build : Build} {p99 : Option Nat} {cv rate : Option ℚ}
    {cpuset numaNodes : Option (Finset Nat)} (set : (p99.isSome || cv.isSome || rate.isSome)) :
    (benchmarkPlan p99 cv rate).assertCgroup build [] cpuset numaNodes =
      .allOf [assertBenchmarks build [] p99 cv rate] :=
  if_pos set

/-- A fold that starts from a pass is never skipped: it agrees with its branches exactly where one of them ran.
Benchmark thresholds over no reports are such a fold, of one skip. -/
theorem allOf_skips_agree_iff (branches : List AssertResult) :
    (((AssertResult.allOf branches).skipped = true ↔ ∀ b ∈ branches, b.skipped = true) ↔
      ∃ b ∈ branches, b.skipped = false) ∧
    ∀ build p99 cv rate cpuset numaNodes, (p99.isSome || cv.isSome || rate.isSome) = true →
      (assertBenchmarks build [] p99 cv rate).skipped = true ∧
      (benchmarkPlan p99 cv rate).assertCgroup build [] cpuset numaNodes =
        .allOf [assertBenchmarks build [] p99 cv rate] ∧
      ((benchmarkPlan p99 cv rate).assertCgroup build [] cpuset numaNodes).skipped = false := by
  refine ⟨?_,fun build p99 cv rate cpuset numaNodes set => ⟨rfl,?_,?_⟩⟩
  · simp [allOf_not_skipped]
  · exact benchmarkPlan_allOf set
  · rw [benchmarkPlan_allOf set]
    exact allOf_not_skipped _

def plainBuild : Build := ⟨false,Rat.toNNRat,fun _ value => toString value⟩

theorem one_ran_skips_agree :
    ((AssertResult.allOf [.skip "no topology",.pass]).skipped = true ↔
      ∀ b ∈ [AssertResult.skip "no topology",.pass], b.skipped = true) ∧
    (AssertPlan.assertCgroup plainBuild (benchmarkPlan (some 1000) none none) [] none none).skipped = false :=
  ⟨(allOf_skips_agree_iff [.skip "no topology",.pass]).1.mpr ⟨.pass,by simp,rfl⟩,
    ((allOf_skips_agree_iff []).2 plainBuild (some 1000) none none none none rfl).2.2⟩

theorem skips_folded_to_a_pass :
    ¬ ((AssertResult.allOf [.skip "no topology",.skip "no flag"]).skipped = true ↔
      ∀ b ∈ [AssertResult.skip "no topology",.skip "no flag"], b.skipped = true) ∧
    ¬ (AssertPlan.assertCgroup plainBuild (benchmarkPlan (some 1000) none none) [] none none).skipped = true := by
  refine ⟨fun agree => ?_,?_⟩
  · have skipped : (allOf [.skip "no topology",.skip "no flag"]).skipped := by
      refine agree.mpr fun b inside => ?_
      rcases mem_pair.mp inside with rfl | rfl <;> rfl
    cases skipped
  · rw [benchmarkPlan_allOf rfl]
    exact Bool.false_ne_true

def latest (key : String) (branches : List AssertResult) : Option NoteValue :=
  branches.reverse.findSome? fun b => b.measurements[key]?

/-- Measurements with those of a list of branches written to them in turn. -/
def written (acc : ExtTreeMap String NoteValue) (branches : List AssertResult) : ExtTreeMap String NoteValue :=
  branches.foldl (fun acc b => writeAll acc b.measurements) acc

/-- Measurements of a list of branches, a later one overriding an earlier. -/
def union (branches : List AssertResult) : ExtTreeMap String NoteValue := written ∅ branches

theorem getElem?_writeAll (into other : ExtTreeMap String NoteValue) (key : String) :
    (writeAll into other)[key]? = other[key]?.or into[key]? := by
  rw [writeAll,getElem?_foldInto]
  cases other[key]? <;> rfl

theorem getElem?_written (acc : ExtTreeMap String NoteValue) (branches : List AssertResult)
    (key : String) : (written acc branches)[key]? = (latest key branches).or acc[key]? := by
  induction branches generalizing acc with
  | nil => rfl
  | cons branch branches ih =>
    have turn : written acc (branch :: branches) = written (writeAll acc branch.measurements) branches := rfl
    rw [turn,ih,getElem?_writeAll,← Option.or_assoc]
    simp [latest]

theorem latest_cons (key : String) (branch : AssertResult) (branches : List AssertResult) :
    latest key (branch :: branches) = (latest key branches).or branch.measurements[key]? := by
  simp [latest]

theorem latest_concat (key : String) (branches : List AssertResult) (branch : AssertResult) :
    latest key (branches ++ [branch]) = branch.measurements[key]?.or (latest key branches) := by
  rw [latest,reverse_concat,findSome?_cons]
  cases branch.measurements[key]? <;> rfl

theorem swapRemove_last {α : Type} (before : List α) (chosen : α) :
    swapRemove (before ++ [chosen]) before.length = before := by
  simp [swapRemove]

theorem swapRemove_inside {α : Type} (before middle : List α) (chosen last : α) :
    swapRemove (before ++ chosen :: (middle ++ [last])) before.length = before ++ last :: middle := by
  have ends : (before ++ chosen :: (middle ++ [last])).getLast? = some last := by
    rw [← cons_append,← append_assoc,getLast?_concat]
  rw [swapRemove,ends]
  have kept : (last :: (middle ++ [last])).dropLast = last :: middle := by
    rw [← cons_append,dropLast_concat]
  simp [kept]

structure Chosen (branches before : List AssertResult) (chosen : AssertResult) (after : List AssertResult) : Prop where
  split : branches = before ++ chosen :: after
  earlier : ∀ b ∈ before, b.satisfied = false
  satisfied : chosen.satisfied = true

structure Disjoined (branches : List AssertResult) : Prop where
  one : ∀ before chosen after, Chosen branches before chosen after →
    (AssertResult.anyOf branches).passed = true ∧
    (AssertResult.anyOf branches).stats = chosen.stats ∧
    (∃ message, (AssertResult.anyOf branches).details = chosen.details ++ [⟨.note,message⟩]) ∧
    (AssertResult.anyOf branches).measurements = union (branches.filter AssertResult.satisfied)
  none : (∀ b ∈ branches, b.satisfied = false) →
    (AssertResult.anyOf branches).passed = false ∧
    ∃ summary, (AssertResult.anyOf branches).details =
      branches.zipIdx.flatMap (fun entry => entry.1.details.map (branchDetail entry.2)) ++ [summary]

/-- What the last branch measured, no satisfied branch after the chosen one left at another value. -/
def LastUndisputed (branches : List AssertResult) : Prop :=
  ∀ before chosen middle last, Chosen branches before chosen (middle ++ [last]) → last.satisfied = true →
    ∀ key value, last.measurements[key]? = some value →
      ∀ written, latest key (middle.filter AssertResult.satisfied) = some written → written = value

variable {before after : List AssertResult} {chosen : AssertResult}

theorem Chosen.findIdx {branches : List AssertResult} (found : Chosen branches before chosen after) :
    branches.findIdx? AssertResult.satisfied = some before.length := by
  rw [found.split,findIdx?_append,findIdx?_eq_none_iff.mpr found.earlier,findIdx?_cons,found.satisfied]
  simp

/-- The branches whose measurements are added, in the order they are. -/
def remaining (branches : List AssertResult) (index : Nat) : List AssertResult :=
  (swapRemove branches index).filter AssertResult.satisfied

theorem Chosen.anyOf_eq {branches : List AssertResult} (found : Chosen branches before chosen after) :
    anyOf branches = note
      {chosen with measurements := written chosen.measurements (remaining branches before.length)}
      (String.join ["any_of: branch ",toString before.length," satisfied the disjunction"]) := by
  have index := found.findIdx
  have here : branches.getD before.length .pass = chosen := by simp [found.split]
  rw [written,remaining,foldl_filter]
  cases branches with
  | nil => cases index
  | cons first rest => simp only [anyOf,index,here]

theorem writeAll_empty (entries : ExtTreeMap String NoteValue) : writeAll ∅ entries = entries := by
  refine ExtTreeMap.ext_getElem? fun key => ?_
  rw [getElem?_writeAll]
  cases entries[key]? <;> simp

theorem union_cons (branch : AssertResult) (branches : List AssertResult) :
    union (branch :: branches) = written branch.measurements branches := by
  rw [union,written,foldl_cons,writeAll_empty,written]

theorem filter_unsatisfied (none : ∀ b ∈ before, b.satisfied = false) : before.filter satisfied = [] :=
  filter_eq_nil_iff.mpr fun b inside => by simp [none b inside]

theorem Chosen.filter_branches {branches : List AssertResult} (found : Chosen branches before chosen after) :
    branches.filter AssertResult.satisfied = chosen :: after.filter AssertResult.satisfied := by
  rw [found.split,filter_append,filter_unsatisfied found.earlier,nil_append,filter_cons_of_pos found.satisfied]

theorem Chosen.filter_inside {branches middle : List AssertResult} {last : AssertResult}
    (found : Chosen branches before chosen (middle ++ [last])) :
    remaining branches before.length = (last :: middle).filter AssertResult.satisfied := by
  rw [remaining,found.split,swapRemove_inside,filter_append,filter_unsatisfied found.earlier,nil_append]

theorem or_comm_iff {first second : Option NoteValue} :
    first.or second = second.or first ↔ ∀ value, second = some value → ∀ written, first = some written → written = value := by
  cases first with
  | none => simp
  | some written =>
    cases second with
    | none => simp
    | some value => simp

theorem Chosen.measured_iff {branches middle : List AssertResult} {last : AssertResult}
    (found : Chosen branches before chosen (middle ++ [last])) (sat : last.satisfied) :
    written chosen.measurements (remaining branches before.length) =
        union (branches.filter AssertResult.satisfied) ↔
      ∀ key value, last.measurements[key]? = some value →
        ∀ earlier, latest key (middle.filter AssertResult.satisfied) = some earlier → earlier = value := by
  have those : (middle ++ [last]).filter AssertResult.satisfied = middle.filter AssertResult.satisfied ++ [last] := by
    rw [filter_append,filter_cons_of_pos sat,filter_nil]
  have at_key : ∀ key,
      (written chosen.measurements (remaining branches before.length))[key]? =
        (union (branches.filter AssertResult.satisfied))[key]? ↔
      ∀ value, last.measurements[key]? = some value →
        ∀ earlier, latest key (middle.filter AssertResult.satisfied) = some earlier → earlier = value := by
    intro key
    rw [found.filter_inside,filter_cons_of_pos sat,found.filter_branches,those,union_cons,getElem?_written,
      getElem?_written,latest_cons,latest_concat,← or_comm_iff]
    cases latest key (middle.filter AssertResult.satisfied) with
    | none => simp
    | some earlier => cases last.measurements[key]? <;> simp
  constructor
  · intro same key
    exact (at_key key).mp (by rw [same])
  · intro undisputed
    exact ExtTreeMap.ext_getElem? fun key => (at_key key).mpr (undisputed key)

theorem Disjoined.lastUndisputed {branches : List AssertResult} (promised : Disjoined branches) :
    LastUndisputed branches := by
  intro before chosen middle last found sat
  refine (found.measured_iff sat).mp ?_
  have measured := (promised.one before chosen _ found).2.2.2
  rwa [found.anyOf_eq] at measured

/-- A disjunction keeps its promise exactly where no measurement of the last branch is overridden by an earlier
one: the last branch is written first, in the place of the chosen. -/
theorem anyOf_disjoined_iff (branches : List AssertResult) : Disjoined branches ↔ LastUndisputed branches := by
  refine ⟨Disjoined.lastUndisputed,fun undisputed => ⟨fun before chosen after found => ?_,fun none => ?_⟩⟩
  · rw [found.anyOf_eq]
    have passes : chosen.passed := (Bool.and_eq_true_iff.mp found.satisfied).1
    refine ⟨passes,rfl,⟨_,rfl⟩,?_⟩
    change written chosen.measurements (remaining branches before.length) = _
    rcases eq_nil_or_concat after with rfl | ⟨middle,last,rfl⟩
    · rw [found.filter_branches,union_cons,remaining,found.split,swapRemove_last,filter_unsatisfied found.earlier,filter_nil]
    · rw [concat_eq_append] at found
      cases sat : last.satisfied with
      | true => exact (found.measured_iff sat).mpr (undisputed before chosen middle last found sat)
      | false =>
        rw [found.filter_branches,union_cons,found.filter_inside,filter_append,filter_cons_of_neg (by simp [sat]),
          filter_cons_of_neg (by simp [sat]),filter_nil,append_nil]
  · have index := findIdx?_eq_none_iff.mpr none
    cases branches with
    | nil => exact ⟨rfl,_,rfl⟩
    | cons first rest =>
      simp only [anyOf,index]
      exact ⟨trivial,_,rfl⟩

def measuring (value : Nat) : AssertResult :=
  {AssertResult.pass with measurements := (∅ : ExtTreeMap String NoteValue).insert "depth" (.uint value)}

theorem measuring_depth {value : Nat} : (measuring value).measurements["depth"]? = some (.uint value) :=
  ExtTreeMap.getElem?_insert_self

theorem third_branch_overridden : ¬ Disjoined [.pass,measuring 1,measuring 2] := by
  intro promised
  have found : Chosen [.pass,measuring 1,measuring 2] [] .pass ([measuring 1] ++ [measuring 2]) := ⟨rfl,by simp,rfl⟩
  have wrote : latest "depth" ([measuring 1].filter satisfied) = some (.uint 1) := measuring_depth
  have same := promised.lastUndisputed [] _ _ _ found rfl "depth" _ measuring_depth _ wrote
  cases same

end Ktstr.BranchFolds
