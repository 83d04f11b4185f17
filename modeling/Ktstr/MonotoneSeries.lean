import Ktstr.Library.Gaps
import Ktstr.Source.Temporal

/-! What the monotonicity patterns find in a series with projection errors. -/
namespace Ktstr.MonotoneSeries
open List Library.Gaps Source.Results Source.Temporal

variable {ε T : Type}

def projected (sample : Sample ε T) : Option T := sample.value.toOption

def skipText (display : Display ε T) (sample : Sample ε T) : Option String :=
  match sample.value with
  | .error error => some (skipEntry display sample error)
  | .ok _ => none

def withFailures (verdict : AssertResult) (failures : List AssertDetail) : AssertResult :=
  {verdict with passed := verdict.passed && failures.isEmpty,details := verdict.details ++ failures}

theorem filterMap_cons_toList {α β : Type} (entry : α → Option β) (item : α) (items : List α) :
    (item :: items).filterMap entry = (entry item).toList ++ items.filterMap entry := by
  rw [filterMap_cons]
  cases entry item <;> rfl

theorem withFailures_nil (verdict : AssertResult) : withFailures verdict [] = verdict := by
  simp [withFailures]

theorem withFailures_append (verdict : AssertResult) (first second : List AssertDetail) :
    withFailures (withFailures verdict first) second = withFailures verdict (first ++ second) := by
  cases first with
  | nil => simp [withFailures]
  | cons detail first => simp [withFailures]

theorem map_fst_zip_tail {α : Type} (items : List α) : (items.zip items.tail).map Prod.fst = items.dropLast := by
  induction items with
  | nil => rfl
  | cons item items ih =>
    cases items with
    | nil => rfl
    | cons next items => exact congrArg (item :: ·) ih

theorem walkLast_skipped (display : Display ε T) (samples : List (Sample ε T)) (verdict : AssertResult) :
    walkLast display samples ⟨verdict,samples.dropLast.filterMap (skipText display)⟩ =
      ⟨verdict,samples.filterMap (skipText display)⟩ := by
  rcases eq_nil_or_concat samples with rfl | ⟨earlier,last,rfl⟩
  · rfl
  · rw [concat_eq_append,dropLast_concat,filterMap_append,filterMap_cons_toList,filterMap_nil,
      append_nil,walkLast,getLast?_concat]
    cases outcome : last.value with
    | ok value =>
      have text : skipText display last = none := by rw [skipText,outcome]
      simp [outcome,text]
    | error error =>
      have text : skipText display last = some (skipEntry display last error) := by rw [skipText,outcome]
      simp [outcome,text]

variable [LinearOrder T]

/-- Two successive projected values, errored samples left out, are out of order. -/
def Regressed (strict : Bool) (samples : List (Sample ε T)) : Prop :=
  ¬ (samples.filterMap projected).IsChain fun left right => inOrder strict left right = true

/-- Two projected values with exactly these errored samples between them are out of order. -/
def OutOfOrder (strict : Bool) (samples gap : List (Sample ε T)) : Prop :=
  ∃ before left right after x y, samples = before ++ left :: (gap ++ right :: after) ∧
    (∀ sample ∈ gap, projected sample = none) ∧ projected left = some x ∧ projected right = some y ∧
    inOrder strict x y = false

theorem regressed_iff {strict : Bool} {samples : List (Sample ε T)} :
    Regressed strict samples ↔ ∃ gap, OutOfOrder strict samples gap := by
  rw [Regressed,isChain_filterMap]
  constructor
  · intro broken
    push Not at broken
    obtain ⟨before,left,gap,right,after,x,y,split,missing,first,second,bad⟩ := broken
    exact ⟨gap,before,left,right,after,x,y,split,missing,first,second,Bool.eq_false_of_not_eq_true bad⟩
  · rintro ⟨gap,before,left,right,after,x,y,split,missing,first,second,bad⟩ ordered
    rw [ordered before left gap right after x y split missing first second] at bad
    cases bad

section Walk
variable (display : Display ε T) (label : String) (strict : Bool)

def failure (pair : Sample ε T × Sample ε T) : Option AssertDetail :=
  match projected pair.1,projected pair.2 with
  | some before,some after =>
    if inOrder strict before after then none
    else some ⟨.temporal,regression display label strict pair.1 pair.2 before after⟩
  | some _,none => none
  | none,_ => none

theorem walkPair_eq (walk : Walk) (pair : Sample ε T × Sample ε T) :
    walkPair display label strict walk pair =
      ⟨withFailures walk.verdict (failure display label strict pair).toList,
        walk.skipped ++ (skipText display pair.1).toList⟩ := by
  unfold walkPair failure skipText projected
  cases pair.1.value with
  | error error => simp [Except.toOption,withFailures_nil]
  | ok before =>
    cases pair.2.value with
    | error error => simp [Except.toOption,withFailures_nil]
    | ok after =>
      cases ordered : inOrder strict before after with
      | true => simp [Except.toOption,ordered,withFailures_nil]
      | false => simp [Except.toOption,ordered,withFailures,pushDetail]

theorem foldl_walkPair (pairs : List (Sample ε T × Sample ε T)) (walk : Walk) :
    pairs.foldl (walkPair display label strict) walk =
      ⟨withFailures walk.verdict (pairs.filterMap (failure display label strict)),
        walk.skipped ++ (pairs.map Prod.fst).filterMap (skipText display)⟩ := by
  induction pairs generalizing walk with
  | nil => simp [withFailures_nil]
  | cons pair pairs ih =>
    rw [foldl_cons,ih,walkPair_eq,withFailures_append]
    rw [filterMap_cons_toList,map_cons,filterMap_cons_toList,append_assoc]

def skipNotes (skipped : List String) : List AssertDetail :=
  if skipped.isEmpty then [] else [⟨.note,skipNote label strict skipped⟩]

theorem monotonicityCheck_eq {samples : List (Sample ε T)} (enough : 2 ≤ samples.length) {verdict : AssertResult} :
    let skipped := samples.filterMap (skipText display)
    let found := withFailures verdict ((samples.zip samples.tail).filterMap (failure display label strict))
    monotonicityCheck display ⟨label,samples⟩ verdict strict =
      {found with details := found.details ++ skipNotes label strict skipped} := by
  have enough : ¬ samples.length < 2 := by omega
  simp only [monotonicityCheck,if_neg enough,foldl_walkPair,nil_append,map_fst_zip_tail,walkLast_skipped,skipNotes]
  cases samples.filterMap (skipText display) with
  | nil => simp
  | cons entry entries => simp [AssertResult.note]

theorem failure_eq_some {pair : Sample ε T × Sample ε T} {detail : AssertDetail}
    (found : failure display label strict pair = some detail) :
    detail.kind = .temporal ∧ ∃ x y, projected pair.1 = some x ∧ projected pair.2 = some y ∧ inOrder strict x y = false := by
  rw [failure] at found
  cases first : projected pair.1 with
  | none => simp [first] at found
  | some x =>
    cases second : projected pair.2 with
    | none => simp [first,second] at found
    | some y =>
      cases ordered : inOrder strict x y with
      | true => simp [first,second,ordered] at found
      | false =>
        simp only [first,second,ordered,Bool.false_eq_true,if_false,Option.some.injEq] at found
        rw [← found]
        exact ⟨rfl,x,y,rfl,rfl,ordered⟩

theorem failures_ne_nil (samples : List (Sample ε T)) :
    (samples.zip samples.tail).filterMap (failure display label strict) ≠ [] ↔ OutOfOrder strict samples [] := by
  constructor
  · intro some_failure
    obtain ⟨detail,inside⟩ := exists_mem_of_ne_nil _ some_failure
    obtain ⟨pair,neighbours,found⟩ := mem_filterMap.mp inside
    obtain ⟨_,x,y,first,second,bad⟩ := failure_eq_some display label strict found
    obtain ⟨before,after,split⟩ := mem_zip_tail.mp neighbours
    exact ⟨before,pair.1,pair.2,after,x,y,split,by simp,first,second,bad⟩
  · rintro ⟨before,left,right,after,x,y,split,_,first,second,bad⟩
    have found : failure display label strict (left,right) =
        some ⟨.temporal,regression display label strict left right x y⟩ := by simp [failure,first,second,bad]
    exact ne_nil_of_mem (mem_filterMap.mpr ⟨(left,right),mem_zip_tail.mpr ⟨before,after,split⟩,found⟩)

/-- What a monotonicity pattern promises: a failure exactly where two successive projected values are out of order,
and every errored sample once in the skip note. -/
def Promised (samples : List (Sample ε T)) (verdict : AssertResult) : Prop :=
  ∃ failures, (∀ d ∈ failures, d.kind = .temporal) ∧
    (monotonicityCheck display ⟨label,samples⟩ verdict strict).details =
      verdict.details ++ failures ++ skipNotes label strict (samples.filterMap (skipText display)) ∧
    (monotonicityCheck display ⟨label,samples⟩ verdict strict).passed = (verdict.passed && failures.isEmpty) ∧
    (failures ≠ [] ↔ Regressed strict samples)

theorem promised_iff (samples : List (Sample ε T)) (enough : 2 ≤ samples.length) (verdict : AssertResult) :
    Promised display label strict samples verdict ↔
      (Regressed strict samples → OutOfOrder strict samples []) := by
  have backwards : OutOfOrder strict samples [] → Regressed strict samples := fun neighbours =>
    regressed_iff.mpr ⟨[],neighbours⟩
  rw [Promised,monotonicityCheck_eq display label strict enough]
  constructor
  · rintro ⟨failures,_,details,_,exactly⟩ regressed
    have same := append_cancel_left (append_cancel_right details)
    rw [← failures_ne_nil display label,same]
    exact exactly.mpr regressed
  · intro found
    refine ⟨_,?_,rfl,rfl,?_⟩
    · intro d inside
      obtain ⟨pair,_,here⟩ := mem_filterMap.mp inside
      exact (failure_eq_some display label strict here).1
    · rw [failures_ne_nil]
      exact ⟨backwards,found⟩

/-- A pattern keeps its promise exactly where a disorder across a gap comes with one between neighbours: only
neighbours are compared. -/
theorem monotonicity_promised_iff (samples : List (Sample ε T)) (enough : 2 ≤ samples.length) (verdict : AssertResult) :
    Promised display label strict samples verdict ↔
      ((∃ gap, gap ≠ [] ∧ OutOfOrder strict samples gap) → OutOfOrder strict samples []) := by
  rw [promised_iff display label strict samples enough verdict,regressed_iff]
  constructor
  · rintro found ⟨gap,_,bad⟩
    exact found ⟨gap,bad⟩
  · rintro found ⟨gap,bad⟩
    by_cases none : gap = []
    · rwa [none] at bad
    · exact found ⟨gap,none,bad⟩

end Walk

def gapped (first last : Nat) : List (Sample String Nat) :=
  [⟨"periodic_000",100,.ok first⟩,⟨"periodic_001",200,.error "missing stats"⟩,⟨"periodic_002",300,.ok last⟩]

def plainDisplay : Display String Nat := ⟨toString,id⟩

theorem advance_promised : Promised plainDisplay "nr_dispatched" false (gapped 3 5) .pass :=
  (monotonicity_promised_iff plainDisplay "nr_dispatched" false (gapped 3 5) (by decide) .pass).mpr
    fun ⟨gap,_,bad⟩ => absurd (show List.IsChain _ [3,5] by decide) (regressed_iff.mpr ⟨gap,bad⟩)

theorem drop_across_gap_missed : ¬ Promised plainDisplay "nr_dispatched" false (gapped 5 3) .pass := by
  intro promised
  have regressed : Regressed false (gapped 5 3) := by
    change ¬ List.IsChain _ [5,3]
    decide
  have found := (promised_iff plainDisplay "nr_dispatched" false (gapped 5 3) (by decide) .pass).mp promised regressed
  exact (failures_ne_nil plainDisplay "nr_dispatched" false (gapped 5 3)).mpr found rfl

end Ktstr.MonotoneSeries
