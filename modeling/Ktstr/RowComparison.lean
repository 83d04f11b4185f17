import Ktstr.RowPairing

/-! What a comparison of two runs reports: a finding for each metric of a pair of rows that
clears both gates, among the rows that the filter leaves in. -/
namespace Ktstr.RowComparison
open Std (ExtTreeMap)
open List Source.Stats RowPairing

def value (metric : MetricDef) (row : GauntletRow) : ℚ := (read metric row).getD 0

def Ran (row : GauntletRow) : Prop := row.passed = true ∧ row.skipped = false

/-- The change of a metric is neither from nothing to nothing nor stopped by a gate. -/
def Significant (policy : ComparisonPolicy) (metric : MetricDef) (a b : ℚ) : Prop :=
  ¬ (abs a < epsilon ∧ abs b < epsilon) ∧ metric.defaultAbs ≤ abs (b - a) ∧
    relThreshold policy metric.name metric.defaultRel ≤ relDelta a (b - a)

instance (policy : ComparisonPolicy) (metric : MetricDef) (a b : ℚ) : Decidable (Significant policy metric a b) :=
  inferInstanceAs (Decidable (_ ∧ _))

section
variable (dims : List Dimension) (filter : Option String) (policy : ComparisonPolicy)

def findingOf (rowA rowB : GauntletRow) (metric : MetricDef) : Finding :=
  ⟨fromRow rowB dims,rowB.scenario,rowB.topology,rowB.workType,metric,value metric rowA,value metric rowB,
    value metric rowB - value metric rowA,isRegression metric (value metric rowB - value metric rowA)⟩

def Found (rowA rowB : GauntletRow) (defs : List MetricDef) (finding : Finding) : Prop :=
  ∃ metric ∈ defs, Significant policy metric (value metric rowA) (value metric rowB) ∧
    finding = findingOf dims rowA rowB metric

variable (rowA rowB : GauntletRow) (finding : Finding)

theorem compareMetric_findings (report : CompareReport) (metric : MetricDef) :
    finding ∈ (compareMetric policy (fromRow rowB dims) rowA rowB report metric).findings ↔
      finding ∈ report.findings ∨ Significant policy metric (value metric rowA) (value metric rowB) ∧
        finding = findingOf dims rowA rowB metric := by
  unfold compareMetric Significant
  change finding ∈ (if abs (value metric rowA) < epsilon ∧ abs (value metric rowB) < epsilon then report else _).findings ↔ _
  split
  · next nothing => simp [nothing]
  · next something =>
    change finding ∈ (if abs (value metric rowB - value metric rowA) < metric.defaultAbs ∨
      relDelta (value metric rowA) (value metric rowB - value metric rowA) <
        relThreshold policy metric.name metric.defaultRel then _ else _ : CompareReport).findings ↔ _
    split
    · next stopped =>
      rw [← not_le,← not_le,← not_and_or] at stopped
      simp [stopped]
    · next passed =>
      push Not at passed
      have added : (recordFinding report (findingOf dims rowA rowB metric)).findings =
          report.findings ++ [findingOf dims rowA rowB metric] := by
        unfold recordFinding
        split <;> rfl
      change finding ∈ (recordFinding report (findingOf dims rowA rowB metric)).findings ↔ _
      rw [added,mem_append]
      simp [something,passed]

theorem comparePair_findings (report : CompareReport) :
    finding ∈ (comparePair policy report (fromRow rowB dims) rowA rowB).findings ↔
      finding ∈ report.findings ∨ (Ran rowA ∧ Ran rowB) ∧ Found dims policy rowA rowB metrics finding := by
  unfold comparePair
  split
  · next dropped =>
    have idle : ¬ (Ran rowA ∧ Ran rowB) := by
      rintro ⟨⟨passedA,ranA⟩,⟨passedB,ranB⟩⟩
      simp [passedA,ranA,passedB,ranB] at dropped
    simp [idle]
  · next kept =>
    have ran : Ran rowA ∧ Ran rowB := by
      simp only [Bool.or_eq_true,not_or,Bool.not_eq_true,Bool.not_eq_false'] at kept
      exact ⟨⟨kept.1.1.1,kept.1.2⟩,⟨kept.1.1.2,kept.2⟩⟩
    simp only [ran]
    generalize metrics = defs
    induction defs generalizing report with
    | nil => simp [Found]
    | cons metric defs ih =>
      refine (ih _).trans ?_
      rw [compareMetric_findings]
      simp [Found,or_assoc]

theorem compareRow_findings (aByKey : ExtTreeMap PairingKey GauntletRow) (rowsB : List GauntletRow)
    (report : CompareReport) :
    finding ∈ (rowsB.foldl (compareRow dims filter policy aByKey) report).findings ↔ finding ∈ report.findings ∨
      ∃ rowB ∈ rowsB, included filter rowB ∧ ∃ rowA, aByKey[fromRow rowB dims]? = some rowA ∧ (Ran rowA ∧ Ran rowB) ∧
        Found dims policy rowA rowB metrics finding := by
  induction rowsB generalizing report with
  | nil => simp
  | cons row rowsB ih =>
    rw [foldl_cons,ih,exists_mem_cons_iff,← or_assoc]
    refine or_congr_left ?_
    unfold compareRow
    dsimp only
    cases inside : included filter row with
    | false => simp
    | true =>
      cases found : aByKey[fromRow row dims]? with
      | none => simp
      | some rowA => simpa using comparePair_findings dims policy rowA row finding _

theorem mem_findings_iff (rowsA rowsB : List GauntletRow) :
    finding ∈ (compareRowsBy dims filter policy rowsA rowsB).findings ↔ ∃ rowB ∈ rowsB, included filter rowB ∧
      ∃ rowA, (byKey dims rowsA)[fromRow rowB dims]? = some rowA ∧ (Ran rowA ∧ Ran rowB) ∧
        Found dims policy rowA rowB metrics finding := by
  have kept (report : CompareReport) (bKeys : List PairingKey) :
      (rowsA.foldl (countRemoved dims filter bKeys) report).findings = report.findings := by
    induction rowsA generalizing report with
    | nil => rfl
    | cons row rowsA ih =>
      rw [foldl_cons,ih]
      unfold countRemoved
      split
      · rfl
      · split <;> rfl
  unfold compareRowsBy
  rw [kept,compareRow_findings]
  simp

end

/-- The report has a regression of the metric under the key, between these values. -/
def Reports (report : CompareReport) (key : PairingKey) (metric : MetricDef) (a b : ℚ) : Prop :=
  ∃ finding ∈ report.findings, finding.pairingKey = key ∧ finding.metric = metric ∧ finding.valA = a ∧
    finding.valB = b ∧ finding.isRegression

section
variable (policy : ComparisonPolicy) (metric : MetricDef) (a better b : ℚ)

variable {a}

theorem relDelta_eq (low : 0 ≤ a) (worse : a < b) : relDelta a (b - a) = if epsilon < a then b / a - 1 else 0 := by
  unfold relDelta
  rw [abs_of_nonneg low]
  refine ite_congr rfl (fun large => ?_) fun _ => rfl
  have positive : 0 < a := lt_trans (by norm_num [epsilon]) large
  rw [abs_of_pos (div_pos (sub_pos.mpr worse) positive),sub_div,div_self positive.ne']

theorem significant_better_iff (low : 0 ≤ better) (less : better < a) (worse : a < b)
    (significant : Significant policy metric a b) :
    Significant policy metric better b ↔
      epsilon < better ∨ relThreshold policy metric.name metric.defaultRel ≤ 0 := by
  obtain ⟨something,gate,relGate⟩ := significant
  rw [relDelta_eq b (low.trans less.le) worse] at relGate
  rw [abs_of_pos (sub_pos.mpr worse)] at gate
  rw [abs_of_nonneg (low.trans less.le),abs_of_pos (low.trans_lt (less.trans worse))] at something
  unfold Significant
  rw [relDelta_eq b low (less.trans worse),abs_of_pos (sub_pos.mpr (less.trans worse)),abs_of_nonneg low,
    abs_of_pos (low.trans_lt (less.trans worse))]
  have visible : ¬ (better < epsilon ∧ b < epsilon) := fun both => something ⟨worse.trans both.2,both.2⟩
  have wider : metric.defaultAbs ≤ b - better := gate.trans (by linarith)
  simp only [visible,wider,not_false_eq_true,true_and]
  split
  · next large =>
    have positive : 0 < better := lt_trans (by norm_num [epsilon]) large
    rw [if_pos (large.trans less)] at relGate
    refine iff_of_true (relGate.trans ?_) (Or.inl large)
    have grown : b / a ≤ b / better := div_le_div_of_nonneg_left (by linarith) positive less.le
    linarith
  · next small => simp [small]

end

/-- A regression that is reported for one baseline value is reported for a smaller one
exactly when that value is not zero, up to the machine epsilon, or the relative threshold is. -/
theorem better_baseline_reported_iff (dims : List Dimension) (filter : Option String) (policy : ComparisonPolicy)
    (metric : MetricDef) (worse : higherIsWorse metric) (before after rowsB : List GauntletRow) (rowA better : GauntletRow)
    (b : ℚ) (first : ∀ row ∈ before, fromRow row dims ≠ fromRow rowA dims)
    (sameKey : fromRow better dims = fromRow rowA dims) (ran : Ran better)
    (low : 0 ≤ value metric better) (less : value metric better < value metric rowA)
    (reported : Reports (compareRowsBy dims filter policy (before ++ rowA::after) rowsB) (fromRow rowA dims) metric
      (value metric rowA) b) :
    Reports (compareRowsBy dims filter policy (before ++ better::after) rowsB) (fromRow rowA dims) metric
        (value metric better) b ↔
      epsilon < value metric better ∨ relThreshold policy metric.name metric.defaultRel ≤ 0 := by
  have met (row : GauntletRow) (same : fromRow row dims = fromRow rowA dims) :
      (byKey dims (before ++ row::after))[fromRow rowA dims]? = some row := by
    rw [byKey_find,find?_append,find?_eq_none.mpr,Option.none_or,find?_cons_of_pos (by simpa using same)]
    intro row inside
    simpa using first row inside
  have delta (change : ℚ) : isRegression metric change ↔ 0 < change := by simp [isRegression,worse]
  obtain ⟨finding,inside,key,same,valA,valB,regression⟩ := reported
  obtain ⟨rowB,rowIn,kept,other,found,bothRan,which,listed,significant,rfl⟩ :=
    (mem_findings_iff dims filter policy finding _ rowsB).mp inside
  obtain rfl : which = metric := same
  have keyB : fromRow rowB dims = fromRow rowA dims := key
  rw [keyB,met rowA rfl] at found
  obtain rfl := Option.some.inj found
  obtain rfl : value which rowB = b := valB
  have grew := sub_pos.mp ((delta _).mp regression)
  have iff := significant_better_iff policy which (value which better) (value which rowB) low less grew
    significant
  rw [← iff]
  constructor
  · rintro ⟨finding,inside,-,same,valA,valB,-⟩
    obtain ⟨rowC,-,-,other,-,-,third,-,again,rfl⟩ := (mem_findings_iff dims filter policy finding _ rowsB).mp inside
    obtain rfl : third = which := same
    have here : value third other = value third better := valA
    have there : value third rowC = value third rowB := valB
    rwa [here,there] at again
  · intro again
    refine ⟨findingOf dims better rowB which,?_,keyB,rfl,rfl,rfl,?_⟩
    · exact (mem_findings_iff dims filter policy _ _ rowsB).mpr
        ⟨rowB,rowIn,kept,better,by rw [keyB,met better sameKey],⟨ran,bothRan.2⟩,which,listed,again,rfl⟩
    · exact (delta _).mpr (sub_pos.mpr (less.trans grew))

def stuckRun (count : Nat) : GauntletRow := {runAt "abc1234" with stuckCount := count}

/-- Two stuck tasks more than a baseline of one are a regression, and three more than none
are not. -/
theorem zero_baseline_unreported :
    ((compareRowsBy [] none {} [stuckRun 1] [stuckRun 3]).findings.map fun finding =>
        (finding.metric.name,finding.valA,finding.valB,finding.isRegression)) = [("stuck_count",1,3,true)] ∧
      (compareRowsBy [] none {} [stuckRun 0] [stuckRun 3]).regressions = 0 := by
  decide +kernel

theorem stuck_baseline_reported :
    Reports (compareRowsBy [] none {} ([] ++ [stuckRun 1]) [stuckRun 9]) ["steady"] metrics[6] 1 9 := by
  refine (better_baseline_reported_iff [] none {} metrics[6] rfl [] [] [stuckRun 9] (stuckRun 2) (stuckRun 1) 9
    (by simp) rfl ⟨rfl,rfl⟩ ?_ ?_ ?_).mpr (Or.inl ?_)
  · decide +kernel
  · decide +kernel
  · refine ⟨findingOf [] (stuckRun 2) (stuckRun 9) metrics[6],?_,rfl,rfl,rfl,rfl,by decide +kernel⟩
    refine (mem_findings_iff [] none {} _ _ _).mpr ⟨stuckRun 9,by simp,rfl,stuckRun 2,?_,⟨⟨rfl,rfl⟩,⟨rfl,rfl⟩⟩,
      metrics[6],getElem_mem _,?_,rfl⟩
    · rw [byKey_find]
      rfl
    · decide +kernel
  · decide +kernel

def leftIn (wanted : String) (rows : List GauntletRow) : List GauntletRow := rows.filter (included (some wanted))

/-- Two rows that meet under one key are both left in by the filter, or neither is. -/
def FilteredAlike (dims : List Dimension) (wanted : String) (rowsA rowsB : List GauntletRow) : Prop :=
  ∀ rowA ∈ rowsA, ∀ rowB ∈ rowsB, fromRow rowA dims = fromRow rowB dims →
    included (some wanted) rowA = included (some wanted) rowB

section
variable (dims : List Dimension) (policy : ComparisonPolicy) (wanted : String) (rowsA rowsB : List GauntletRow)

theorem compareRowsBy_filtered : compareRowsBy dims (some wanted) policy rowsA rowsB =
    (leftIn wanted rowsA).foldl (countRemoved dims none (rowsB.map fun row => fromRow row dims))
      ((leftIn wanted rowsB).foldl (compareRow dims none policy (byKey dims rowsA)) {}) := by
  have all (row : GauntletRow) : included none row := rfl
  unfold compareRowsBy leftIn
  dsimp only
  rw [foldl_filter,foldl_filter]
  congr 1
  · funext report row
    cases inside : included (some wanted) row <;> simp [countRemoved,inside,all]
  · congr 1
    funext report row
    cases inside : included (some wanted) row <;> simp [compareRow,inside,all]

theorem filtered_alike (distinctA : (rowsA.map fun row => fromRow row dims).Nodup)
    (distinctB : (rowsB.map fun row => fromRow row dims).Nodup)
    (same : compareRowsBy dims (some wanted) policy rowsA rowsB =
      compareRowsBy dims none policy (leftIn wanted rowsA) (leftIn wanted rowsB)) :
    FilteredAlike dims wanted rowsA rowsB := by
  have fewer (rows : List GauntletRow) (row : GauntletRow) (inside : row ∈ leftIn wanted rows) :
      row ∈ rows ∧ included (some wanted) row := mem_filter.mp inside
  have only (rows : List GauntletRow) (distinct : (rows.map fun row => fromRow row dims).Nodup) (row : GauntletRow)
      (member : row ∈ rows) (out : included (some wanted) row = false) :
      ∀ other ∈ leftIn wanted rows, fromRow other dims ≠ fromRow row dims := by
    intro other inside key
    obtain ⟨otherIn,kept⟩ := fewer rows other inside
    rw [inj_on_of_nodup_map distinct otherIn member key,out] at kept
    exact Bool.false_ne_true kept
  have counts (rows others : List GauntletRow) := countRemoved_counts dims (others.map fun row => fromRow row dims)
    (leftIn wanted rowsA) ((leftIn wanted rowsB).foldl (compareRow dims none policy (byKey dims rows)) {})
  have opened (rows : List GauntletRow) := compareRow_counts dims policy (byKey dims rows) (leftIn wanted rowsB) {}
  rw [compareRowsBy_filtered,compareRowsBy] at same
  have news := congrArg CompareReport.newInB same
  have gone := congrArg CompareReport.removedFromA same
  rw [(counts _ _).2.1,(counts _ _).2.1,(opened _).2.1,(opened _).2.1,Nat.add_left_cancel_iff] at news
  rw [(counts _ _).2.2,(counts _ _).2.2,(opened _).2.2,(opened _).2.2,Nat.add_left_cancel_iff] at gone
  have absent (rows : List GauntletRow) (key : PairingKey) :
      ((byKey dims rows)[key]?).isNone ↔ ∀ row ∈ rows, fromRow row dims ≠ key := by
    rw [byKey_find,Option.isNone_iff_eq_none]
    simp
  have newKeys := (monotone_filter_right _ fun key none =>
    (absent _ key).mpr fun row inside => (absent _ key).mp none row (fewer rowsA row inside).1).eq_of_length news
  have goneKeys := (monotone_filter_right _ fun key out => ?_).eq_of_length gone
  · intro rowA inA rowB inB key
    cases outA : included (some wanted) rowA with
    | false =>
      cases outB : included (some wanted) rowB with
      | false => rfl
      | true =>
        have listed : fromRow rowB dims ∈ ((leftIn wanted rowsB).map fun row => fromRow row dims).filter fun key =>
            ((byKey dims (leftIn wanted rowsA))[key]?).isNone :=
          mem_filter.mpr ⟨mem_map_of_mem (mem_filter.mpr ⟨inB,outB⟩),
            (absent _ _).mpr fun other inside => key ▸ only rowsA distinctA rowA inA outA other inside⟩
        rw [← newKeys] at listed
        exact absurd key ((absent _ _).mp (mem_filter.mp listed).2 rowA inA)
    | true =>
      cases outB : included (some wanted) rowB with
      | true => rfl
      | false =>
        have listed : fromRow rowA dims ∈ ((leftIn wanted rowsA).map fun row => fromRow row dims).filter fun key =>
            key ∉ (leftIn wanted rowsB).map fun row => fromRow row dims := by
          refine mem_filter.mpr ⟨mem_map_of_mem (mem_filter.mpr ⟨inA,outA⟩),?_⟩
          simpa [key] using only rowsB distinctB rowB inB outB
        rw [← goneKeys] at listed
        exact absurd (mem_map.mpr ⟨rowB,inB,key.symm⟩) (of_decide_eq_true (mem_filter.mp listed).2)
  · rw [decide_eq_true_eq] at out ⊢
    intro inside
    obtain ⟨row,member,rfl⟩ := mem_map.mp inside
    exact out (mem_map_of_mem (fewer rowsB row member).1)

/-- A filter takes its rows out of the whole comparison exactly when it treats the rows of
each pair alike. -/
theorem filter_removes_rows_iff (distinctA : (rowsA.map fun row => fromRow row dims).Nodup)
    (distinctB : (rowsB.map fun row => fromRow row dims).Nodup) :
    compareRowsBy dims (some wanted) policy rowsA rowsB =
        compareRowsBy dims none policy (leftIn wanted rowsA) (leftIn wanted rowsB) ↔
      FilteredAlike dims wanted rowsA rowsB := by
  refine ⟨filtered_alike dims policy wanted rowsA rowsB distinctA distinctB,fun alike => ?_⟩
  have looked : ∀ rowB ∈ leftIn wanted rowsB,
      (byKey dims rowsA)[fromRow rowB dims]? = (byKey dims (leftIn wanted rowsA))[fromRow rowB dims]? := by
    intro rowB inside
    obtain ⟨rowIn,kept⟩ := mem_filter.mp inside
    rw [byKey_find,byKey_find,leftIn,← head?_filter,← head?_filter,filter_filter]
    refine congrArg List.head? (filter_congr fun rowA member => ?_)
    by_cases key : fromRow rowA dims = fromRow rowB dims
    · simp [alike rowA member rowB rowIn key,kept]
    · simp [key]
  have known : ∀ rowA ∈ leftIn wanted rowsA, fromRow rowA dims ∈ rowsB.map (fromRow · dims) ↔
      fromRow rowA dims ∈ (leftIn wanted rowsB).map (fromRow · dims) := by
    intro rowA inside
    obtain ⟨rowIn,kept⟩ := mem_filter.mp inside
    simp only [mem_map,leftIn,mem_filter]
    refine exists_congr fun rowB => ⟨fun there => ⟨⟨there.1,?_⟩,there.2⟩,fun there => ⟨there.1.1,there.2⟩⟩
    rw [← alike rowA rowIn rowB there.1 there.2.symm,kept]
  have compared := foldl_ext (compareRow dims none policy (byKey dims rowsA))
    (compareRow dims none policy (byKey dims (leftIn wanted rowsA))) {} fun report rowB inside => by
      unfold compareRow
      dsimp only
      rw [looked rowB inside]
  rw [compareRowsBy_filtered,compared]
  refine foldl_ext _ _ _ fun report rowA inside => ?_
  unfold countRemoved
  simp only [known rowA inside]

end

def runOf (scheduler : String) : GauntletRow := {runAt "abc1234" with scheduler := scheduler}

/-- A filter on the scheduler that is compared leaves the candidate paired with a baseline
it takes out. -/
theorem filtered_baseline_paired :
    ((compareRowsBy [.topology] (some "beta") {} [runOf "alpha"] [runOf "beta"]).newInB,
        (compareRowsBy [.topology] none {} (leftIn "beta" [runOf "alpha"]) (leftIn "beta" [runOf "beta"])).newInB) =
      (0,1) := by
  decide +kernel

theorem one_scheduler_filtered : compareRowsBy [.topology] (some "beta") {} [runOf "beta"] [runOf "beta"] =
    compareRowsBy [.topology] none {} (leftIn "beta" [runOf "beta"]) (leftIn "beta" [runOf "beta"]) :=
  (filter_removes_rows_iff [.topology] {} "beta" [runOf "beta"] [runOf "beta"] (by simp) (by simp)).mpr (by
    simp [FilteredAlike])

end Ktstr.RowComparison
