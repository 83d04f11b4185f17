import Ktstr.Source.Stats

/-! Averaging keeps the key two runs are joined by, as long as no group has both clean and
dirty contributors in a commit dimension of the key. -/
namespace Ktstr.RowPairing
open Std (ExtTreeMap LawfulEqCmp)
open List Library.Grouping Source.Stats
open Library.Text (stripSuffix)

def Dirty (value : Option String) : Bool := value.any fun text => (stripSuffix text "-dirty").isSome

def Clean (value : Option String) : Bool := value.any fun text => (stripSuffix text "-dirty").isNone

def commitOf (row : GauntletRow) : Dimension → Option String
  | .projectCommit => row.commit
  | .kernelCommit => row.kernelCommit
  | _ => none

/-- Two rows of one group disagree on whether the tree of a commit in the key was dirty. -/
def Mixed (rows : List GauntletRow) (dims : List Dimension) : Prop :=
  ∃ first ∈ rows, ∃ second ∈ rows, fromRow first dims = fromRow second dims ∧
    ∃ dim ∈ dims, Clean (commitOf first dim) ∧ Dirty (commitOf second dim)

def AverageOf (rows : List GauntletRow) (group : AveragedGroup) : Prop :=
  ∃ acc, gather (fun row => {first := row}) contribute rows = some acc ∧ group = average acc

/-- One group for each key of the rows, made of the rows with that key. -/
structure OneGroupPerKey (rows : List GauntletRow) (dims : List Dimension) (keys : List PairingKey)
    (groups : List AveragedGroup) : Prop where
  distinct : keys.Nodup
  all : ∀ key, key ∈ keys ↔ ∃ row ∈ rows, fromRow row dims = key
  each : List.Forall₂ (fun key group => AverageOf (rows.filter fun row => fromRow row dims = key) group) keys groups

def KeysKept (dims : List Dimension) (keys : List PairingKey) (groups : List AveragedGroup) : Prop :=
  List.Forall₂ (fun key group => fromRow group.row dims = key) keys groups

/-- A key is paired exactly when both sides have it, once; the others are new or removed. -/
structure JoinExact (rowsA rowsB : List GauntletRow) (dims : List Dimension) (report : CompareReport) : Prop where
  paired : ∀ key, key ∈ report.pairs.map Prod.fst ↔
    (∃ row ∈ rowsA, fromRow row dims = key) ∧ ∃ row ∈ rowsB, fromRow row dims = key
  once : (report.pairs.map Prod.fst).Nodup
  new : ∃ keys : List PairingKey, keys.Nodup ∧ report.newInB = keys.length ∧ ∀ key, key ∈ keys ↔
    (∃ row ∈ rowsB, fromRow row dims = key) ∧ ¬ ∃ row ∈ rowsA, fromRow row dims = key
  removed : ∃ keys : List PairingKey, keys.Nodup ∧ report.removedFromA = keys.length ∧ ∀ key, key ∈ keys ↔
    (∃ row ∈ rowsA, fromRow row dims = key) ∧ ¬ ∃ row ∈ rowsB, fromRow row dims = key

theorem stripSuffix_mixed (base : String) : stripSuffix (base ++ "+mixed") "-dirty" = none := by
  unfold stripSuffix
  rw [if_neg]
  rintro ⟨before,whole⟩
  rw [String.toList_append] at whole
  have same := (append_inj' whole (by decide)).2
  exact absurd same (by decide)

theorem part_mixed {base : String} : commitPairingKeyPart (some (base ++ "+mixed")) ≠ base := by
  intro same
  rw [commitPairingKeyPart,stripSuffix_mixed] at same
  have longer := congrArg (fun text => text.toList.length) same
  simp [String.toList_append] at longer

theorem tracked (values : List (Option String)) (tracking : DirtyTracking) :
    values.foldl updateDirtyTracking tracking =
      ⟨tracking.anyClean || values.any Clean,tracking.anyDirty || values.any Dirty,
        tracking.firstBase.or (values.findSome? fun value => value.map fun text => commitPairingKeyPart (some text))⟩ := by
  induction values generalizing tracking with
  | nil => simp
  | cons value values ih =>
    rw [foldl_cons,ih]
    cases value with
    | none => simp [updateDirtyTracking,Clean,Dirty]
    | some text =>
      obtain ⟨clean,dirty,base⟩ := tracking
      cases stripped : stripSuffix text "-dirty" <;> cases base <;>
        simp [updateDirtyTracking,Clean,Dirty,commitPairingKeyPart,stripped]

theorem contribute_first {acc : Accumulator} {row : GauntletRow} :
    (contribute acc row).first = acc.first ∧ (contribute acc row).project = updateDirtyTracking acc.project row.commit ∧
      (contribute acc row).kernel = updateDirtyTracking acc.kernel row.kernelCommit := by
  unfold contribute
  split
  · exact ⟨rfl,rfl,rfl⟩
  · split
    · exact ⟨rfl,rfl,rfl⟩
    · exact ⟨rfl,rfl,rfl⟩

variable (rows : List GauntletRow) (acc : Accumulator)

theorem contributed : (rows.foldl contribute acc).first = acc.first ∧
      (rows.foldl contribute acc).project = (rows.map (·.commit)).foldl updateDirtyTracking acc.project ∧
      (rows.foldl contribute acc).kernel = (rows.map (·.kernelCommit)).foldl updateDirtyTracking acc.kernel := by
  induction rows generalizing acc with
  | nil => exact ⟨rfl,rfl,rfl⟩
  | cons row rows ih =>
    obtain ⟨first,project,kernel⟩ := ih (contribute acc row)
    obtain ⟨firstHere,projectHere,kernelHere⟩ := contribute_first
    rw [foldl_cons,first,project,kernel,firstHere,projectHere,kernelHere]
    exact ⟨rfl,rfl,rfl⟩

theorem rendered_part (values : List (Option String)) (first : Option String) (part : String)
    (member : first ∈ values) (same : ∀ value ∈ values, commitPairingKeyPart value = part) :
    commitPairingKeyPart (renderMixedDirty (values.foldl updateDirtyTracking {}) first) = part ↔
      ¬ (values.any Clean ∧ values.any Dirty) := by
  rw [tracked]
  simp only [Bool.false_or]
  by_cases mixed : values.any Clean ∧ values.any Dirty
  · obtain ⟨clean,dirty⟩ := mixed
    have base : (values.findSome? fun value => value.map fun text => commitPairingKeyPart (some text)) = some part := by
      obtain ⟨value,inside,isClean⟩ := any_eq_true.mp clean
      have found : (values.findSome? fun value => value.map fun text => commitPairingKeyPart (some text)).isSome := by
        rw [findSome?_isSome_iff]
        refine ⟨value,inside,?_⟩
        cases value with
        | none => exact absurd isClean (by simp [Clean])
        | some text => rfl
      obtain ⟨text,here⟩ := Option.isSome_iff_exists.mp found
      obtain ⟨value,inside,mapped⟩ := exists_of_findSome?_eq_some here
      obtain ⟨raw,rfl,rfl⟩ := Option.map_eq_some_iff.mp mapped
      rw [here,same _ inside]
    simp only [clean,dirty,base,and_self,not_true_eq_false,iff_false]
    exact part_mixed
  · have apart : (values.any Clean && values.any Dirty) = false := by simpa using mixed
    simp only [renderMixedDirty,apart,mixed,not_false_eq_true,iff_true]
    exact same first member

structure Fed (acc : Accumulator) (head : GauntletRow) (rows : List GauntletRow) : Prop where
  first : acc.first = head
  project : acc.project = (rows.map (·.commit)).foldl updateDirtyTracking {}
  kernel : acc.kernel = (rows.map (·.kernelCommit)).foldl updateDirtyTracking {}
  member : head ∈ rows

theorem average_part {first : GauntletRow} {rows : List GauntletRow} {dim : Dimension}
    (fed : Fed acc first rows) (same : ∀ row ∈ rows, keyPart row dim = keyPart first dim) :
    keyPart (average acc).row dim = keyPart first dim ↔
      ¬ ∃ second ∈ rows, ∃ third ∈ rows, Clean (commitOf second dim) ∧ Dirty (commitOf third dim) := by
  have apart : (∃ second ∈ rows, ∃ third ∈ rows, Clean (commitOf second dim) ∧ Dirty (commitOf third dim)) ↔
      (rows.map fun row => commitOf row dim).any Clean ∧ (rows.map fun row => commitOf row dim).any Dirty := by
    simp only [any_map,any_eq_true]
    constructor
    · rintro ⟨second,secondIn,third,thirdIn,clean,dirty⟩
      exact ⟨⟨second,secondIn,clean⟩,⟨third,thirdIn,dirty⟩⟩
    · rintro ⟨⟨second,secondIn,clean⟩,⟨third,thirdIn,dirty⟩⟩
      exact ⟨second,secondIn,third,thirdIn,clean,dirty⟩
  have commit (part : GauntletRow → Option String) (value : String)
      (equal : ∀ row ∈ rows, commitPairingKeyPart (part row) = value) := by
    refine rendered_part (rows.map part) (part first) value (mem_map_of_mem fed.member) ?_
    intro value member
    obtain ⟨row,inside,rfl⟩ := mem_map.mp member
    exact equal row inside
  cases dim with
  | projectCommit =>
    rw [apart]
    change commitPairingKeyPart (renderMixedDirty acc.project acc.first.commit) = _ ↔ _
    rw [fed.first,fed.project]
    exact commit (·.commit) _ same
  | kernelCommit =>
    rw [apart]
    change commitPairingKeyPart (renderMixedDirty acc.kernel acc.first.kernelCommit) = _ ↔ _
    rw [fed.first,fed.kernel]
    exact commit (·.kernelCommit) _ same
  | kernel | scheduler | topology | workType | runSource =>
    refine iff_of_true ?_ ?_
    · rw [← fed.first]
      rfl
    · rintro ⟨second,-,-,-,clean,-⟩
      exact Bool.false_ne_true clean

variable (dims : List Dimension)

theorem average_key {key : PairingKey} {group : AveragedGroup} (same : ∀ row ∈ rows, fromRow row dims = key)
    (averaged : AverageOf rows group) :
    fromRow group.row dims = key ↔ ¬ ∃ dim ∈ dims, ∃ first ∈ rows, ∃ second ∈ rows,
      Clean (commitOf first dim) ∧ Dirty (commitOf second dim) := by
  obtain ⟨acc,gathered,rfl⟩ := averaged
  cases rows with
  | nil => exact absurd gathered (by simp [gather])
  | cons first rows =>
    obtain ⟨firstEq,project,kernel⟩ := contributed (first::rows) {first := first}
    have fed : Fed acc first (first::rows) := by
      rw [← Option.some.inj gathered]
      exact ⟨firstEq,project,kernel,mem_cons_self⟩
    have here := same first mem_cons_self
    have part (dim : Dimension) (inside : dim ∈ dims) := average_part acc fed fun row member =>
      map_inj_left.mp (List.cons.inj ((same row member).trans here.symm)).2 dim inside
    have whole : fromRow (average acc).row dims = fromRow first dims ↔
        ∀ dim ∈ dims, keyPart (average acc).row dim = keyPart first dim := by
      unfold fromRow
      rw [List.cons.injEq,map_inj_left,← fed.first]
      exact and_iff_right rfl
    rw [← here,whole]
    push Not
    constructor
    · intro all dim inside
      have clear := (part dim inside).mp (all dim inside)
      push Not at clear
      exact clear
    · intro unmixed dim inside
      refine (part dim inside).mpr ?_
      push Not
      exact unmixed dim inside

theorem grouped :
    ∃ keys groups, groupAndAverageBy rows dims = some groups ∧ OneGroupPerKey rows dims keys groups := by
  let key (row : GauntletRow) := fromRow row dims
  let start (row : GauntletRow) : Accumulator := {first := row}
  let collected : Grouped PairingKey Accumulator compare := collect key start contribute rows
  have group (label : PairingKey) : collected.groups[label]? = _ := collect_groups key start contribute rows label
  have order : collected.order.Nodup ∧ _ := collect_order key start contribute rows
  obtain ⟨accs,taken,each⟩ := takeAll_total collected.order collected.groups order.1 fun label inside => by
    rw [group,gather_isSome]
    exact (order.2 label).mp inside
  refine ⟨collected.order,accs.map average,?_,order.1,order.2,?_⟩
  · unfold groupAndAverageBy
    dsimp only
    rw [taken]
    rfl
  · rw [forall₂_map_right_iff]
    refine each.imp fun label acc found => ⟨acc,?_,rfl⟩
    rw [← found,group]

theorem keysKept_iff {keys : List PairingKey} {groups : List AveragedGroup}
    (one : OneGroupPerKey rows dims keys groups) : KeysKept dims keys groups ↔ ¬ Mixed rows dims := by
  have key (label : PairingKey) (group : AveragedGroup)
      (averaged : AverageOf (rows.filter fun row => fromRow row dims = label) group) :=
    average_key _ dims (fun row member => of_decide_eq_true (mem_filter.mp member).2) averaged
  constructor
  · rintro kept ⟨first,firstIn,second,secondIn,same,dim,inside,clean,dirty⟩
    have label := (one.all (fromRow first dims)).mpr ⟨first,firstIn,rfl⟩
    obtain ⟨index,bound,atIndex⟩ := getElem_of_mem label
    have lengths := one.each.length_eq
    have averaged := one.each.get bound (lengths ▸ bound)
    have keptHere := kept.get bound (lengths ▸ bound)
    simp only [get_eq_getElem,atIndex] at averaged keptHere
    refine (key _ _ averaged).mp keptHere ⟨dim,inside,first,?_,second,?_,clean,dirty⟩
    · exact mem_filter.mpr ⟨firstIn,decide_eq_true rfl⟩
    · exact mem_filter.mpr ⟨secondIn,decide_eq_true same.symm⟩
  · intro unmixed
    refine one.each.imp fun label group averaged => (key label group averaged).mpr ?_
    rintro ⟨dim,inside,first,firstIn,second,secondIn,clean,dirty⟩
    obtain ⟨firstIn,firstKey⟩ := mem_filter.mp firstIn
    obtain ⟨secondIn,secondKey⟩ := mem_filter.mp secondIn
    exact unmixed ⟨first,firstIn,second,secondIn,
      (of_decide_eq_true firstKey).trans (of_decide_eq_true secondKey).symm,dim,inside,clean,dirty⟩

def Same (before after : CompareReport) : Prop :=
  after.pairs = before.pairs ∧ after.newInB = before.newInB ∧ after.removedFromA = before.removedFromA

theorem compareMetric_same {policy : ComparisonPolicy} {keyB : PairingKey} {rowA rowB : GauntletRow}
    {report : CompareReport} {metric : MetricDef} : Same report (compareMetric policy keyB rowA rowB report metric) := by
  unfold compareMetric
  dsimp only
  split
  · exact ⟨rfl,rfl,rfl⟩
  · split
    · exact ⟨rfl,rfl,rfl⟩
    · unfold recordFinding
      split
      · exact ⟨rfl,rfl,rfl⟩
      · exact ⟨rfl,rfl,rfl⟩

theorem comparePair_same {policy : ComparisonPolicy} (report : CompareReport) (keyB : PairingKey)
    (rowA rowB : GauntletRow) : Same report (comparePair policy report keyB rowA rowB) := by
  unfold comparePair
  split
  · exact ⟨rfl,rfl,rfl⟩
  · generalize metrics = defs
    induction defs generalizing report with
    | nil => exact ⟨rfl,rfl,rfl⟩
    | cons metric defs ih =>
      obtain ⟨pairs,new,removed⟩ := compareMetric_same
      obtain ⟨pairsRest,newRest,removedRest⟩ := ih (compareMetric policy keyB rowA rowB report metric)
      exact ⟨pairsRest.trans pairs,newRest.trans new,removedRest.trans removed⟩

section
variable (dims : List Dimension) (policy : ComparisonPolicy)

theorem byKey_find (rows : List GauntletRow) (key : PairingKey) :
    (byKey dims rows)[key]? = rows.find? fun row => fromRow row dims = key := by
  induction rows using List.reverseRecOn with
  | nil => exact ExtTreeMap.getElem?_empty
  | append_singleton rows row ih =>
    have grown : byKey dims (rows ++ [row]) = (byKey dims rows).insertIfNew (fromRow row dims) row := by
      rw [byKey,foldl_concat]
      rfl
    rw [grown,ExtTreeMap.getElem?_insertIfNew,find?_append,← ih]
    simp only [ExtTreeMap.mem_iff_isSome_getElem?]
    by_cases here : fromRow row dims = key
    · subst here
      cases found : (byKey dims rows)[fromRow row dims]? <;> simp
    · simp [here]

theorem compareRow_counts (aByKey : ExtTreeMap PairingKey GauntletRow) (rowsB : List GauntletRow)
    (report : CompareReport) :
    let after := rowsB.foldl (compareRow dims none policy aByKey) report
    let keys := rowsB.map fun row => fromRow row dims
    after.pairs.map Prod.fst = report.pairs.map Prod.fst ++ keys.filter (fun key => (aByKey[key]?).isSome) ∧
      after.newInB = report.newInB + (keys.filter fun key => (aByKey[key]?).isNone).length ∧
      after.removedFromA = report.removedFromA := by
  induction rowsB generalizing report with
  | nil => exact ⟨(append_nil _).symm,rfl,rfl⟩
  | cons row rowsB ih =>
    obtain ⟨pairs,new,removed⟩ := ih (compareRow dims none policy aByKey report row)
    simp only [foldl_cons,map_cons,pairs,new,removed]
    unfold compareRow
    simp only [included,Bool.not_true,Bool.false_eq_true,if_false]
    cases found : aByKey[fromRow row dims]? with
    | none =>
      rw [filter_cons_of_neg (by rw [found]; exact Bool.false_ne_true),filter_cons_of_pos (by rw [found]; rfl),
        length_cons]
      dsimp only
      exact ⟨rfl,by omega,rfl⟩
    | some rowA =>
      obtain ⟨pairs,new,removed⟩ := comparePair_same
        {report with pairs := report.pairs ++ [(fromRow row dims,rowA,row)]} (fromRow row dims) rowA row
      rw [filter_cons_of_pos (by rw [found]; rfl),filter_cons_of_neg (by rw [found]; exact Bool.false_ne_true)]
      rw [pairs,new,removed,map_append,append_assoc]
      exact ⟨rfl,rfl,rfl⟩

theorem countRemoved_counts (bKeys : List PairingKey) (rowsA : List GauntletRow) (report : CompareReport) :
    let after := rowsA.foldl (countRemoved dims none bKeys) report
    after.pairs = report.pairs ∧ after.newInB = report.newInB ∧ after.removedFromA = report.removedFromA +
      ((rowsA.map fun row => fromRow row dims).filter fun key => key ∉ bKeys).length := by
  induction rowsA generalizing report with
  | nil => simp
  | cons row rowsA ih =>
    obtain ⟨pairs,new,removed⟩ := ih (countRemoved dims none bKeys report row)
    simp only [foldl_cons,pairs,new,removed]
    unfold countRemoved
    simp only [included,Bool.not_true]
    by_cases here : fromRow row dims ∈ bKeys
    · simp [here]
    · simp [here,Nat.add_assoc,Nat.add_comm 1]

theorem compareRowsBy_exact {rowsA rowsB : List GauntletRow}
    (distinctA : (rowsA.map fun row => fromRow row dims).Nodup)
    (distinctB : (rowsB.map fun row => fromRow row dims).Nodup) :
    JoinExact rowsA rowsB dims (compareRowsBy dims none policy rowsA rowsB) := by
  obtain ⟨pairs,new,removed⟩ := compareRow_counts dims policy (byKey dims rowsA) rowsB {}
  obtain ⟨pairsA,newA,removedA⟩ := countRemoved_counts dims (rowsB.map fun row => fromRow row dims) rowsA
    (rowsB.foldl (compareRow dims none policy (byKey dims rowsA)) {})
  have known (key : PairingKey) : (byKey dims rowsA)[key]?.isSome ↔ ∃ row ∈ rowsA, fromRow row dims = key := by
    simp [byKey_find]
  unfold compareRowsBy
  refine ⟨fun key => ?_,?_,⟨_,distinctB.filter fun key => ((byKey dims rowsA)[key]?).isNone,?_,fun key => ?_⟩,
    ⟨_,distinctA.filter fun key => key ∉ rowsB.map fun row => fromRow row dims,?_,fun key => ?_⟩⟩
  · rw [pairsA,pairs]
    simp only [map_nil,nil_append,mem_filter,mem_map,known]
    exact and_comm
  · rw [pairsA,pairs]
    exact distinctB.filter _
  · dsimp only
    rw [newA,new,Nat.zero_add]
  · simp [← known]
  · dsimp only
    rw [removedA,removed,Nat.zero_add]
  · simp

end

/-- Both runs are grouped by key, one group for each; and the averages keep their keys and
join by them exactly when neither run has a mixed group. -/
theorem averages_join_iff_unmixed (rowsA rowsB : List GauntletRow) (dims : List Dimension) (policy : ComparisonPolicy) :
    ∃ keysA groupsA keysB groupsB, groupAndAverageBy rowsA dims = some groupsA ∧
      groupAndAverageBy rowsB dims = some groupsB ∧ OneGroupPerKey rowsA dims keysA groupsA ∧
      OneGroupPerKey rowsB dims keysB groupsB ∧
      (KeysKept dims keysA groupsA ∧ KeysKept dims keysB groupsB ∧
          JoinExact rowsA rowsB dims (compareRowsBy dims none policy (groupsA.map (·.row)) (groupsB.map (·.row))) ↔
        ¬ Mixed rowsA dims ∧ ¬ Mixed rowsB dims) := by
  obtain ⟨keysA,groupsA,averagedA,oneA⟩ := grouped rowsA dims
  obtain ⟨keysB,groupsB,averagedB,oneB⟩ := grouped rowsB dims
  refine ⟨keysA,groupsA,keysB,groupsB,averagedA,averagedB,oneA,oneB,?_⟩
  have iffA := keysKept_iff rowsA dims oneA
  have iffB := keysKept_iff rowsB dims oneB
  have averagedKeys (keys : List PairingKey) (groups : List AveragedGroup) (kept : KeysKept dims keys groups) :
      ((groups.map (·.row)).map fun row => fromRow row dims) = keys := by
    induction kept with
    | nil => rfl
    | cons here _ ih => rw [map_cons,map_cons,here,ih]
  constructor
  · rintro ⟨keptA,keptB,-⟩
    exact ⟨iffA.mp keptA,iffB.mp keptB⟩
  · rintro ⟨unmixedA,unmixedB⟩
    have keptA := iffA.mpr unmixedA
    have keptB := iffB.mpr unmixedB
    have keyListA := averagedKeys keysA groupsA keptA
    have keyListB := averagedKeys keysB groupsB keptB
    have exact := compareRowsBy_exact dims policy
      (by rw [keyListA]; exact oneA.distinct) (by rw [keyListB]; exact oneB.distinct)
    have inA (key : PairingKey) : (∃ row ∈ groupsA.map (·.row), fromRow row dims = key) ↔
        ∃ row ∈ rowsA, fromRow row dims = key := by
      rw [← oneA.all,← keyListA,mem_map]
    have inB (key : PairingKey) : (∃ row ∈ groupsB.map (·.row), fromRow row dims = key) ↔
        ∃ row ∈ rowsB, fromRow row dims = key := by
      rw [← oneB.all,← keyListB,mem_map]
    obtain ⟨paired,once,new,removed⟩ := exact
    simp only [inA,inB] at paired new removed
    exact ⟨keptA,keptB,paired,once,new,removed⟩

def runAt (commit : String) : GauntletRow :=
  {scenario := "steady",topology := "1n2l4c1t",workType := "cpu",scheduler := "scx_simple",commit := some commit,
   passed := true,skipped := false}

/-- Baseline runs of one commit, one of them from a dirty tree, do not meet a clean run of
the same commit. -/
theorem mixed_group_leaves_join :
    (do
      let groupsA ← groupAndAverageBy [runAt "abc1234",runAt "abc1234-dirty"] [.projectCommit]
      let groupsB ← groupAndAverageBy [runAt "abc1234"] [.projectCommit]
      let report := compareRowsBy [.projectCommit] none {} (groupsA.map (·.row)) (groupsB.map (·.row))
      return (groupsA.map fun group => fromRow group.row [.projectCommit],report.pairs.length,report.newInB,
        report.removedFromA)) = some ([["steady","abc1234+mixed"]],0,1,1) := by
  decide +kernel

end Ktstr.RowPairing
