import Ktstr.Source.ThreadGroups
import Mathlib.Order.WithBot

/-! Comparison of two profile snapshots, from `ctprof_compare/compare.rs`: groups are
matched by key, one-sided groups by the threads of their cgroup, and the children of
matched cgroups by their relative path. -/
namespace Ktstr.Source.ProfileDiff
open Std (ExtTreeMap ExtTreeSet)
open Library.Grouping Library.Text Patterns ThreadGroups

structure SortKey where
  metric : String
  descending : Bool

structure CompareOptions where
  groupBy : GroupBy
  cgroupFlatten : List String := []
  noThreadNormalize : Bool := false
  noCgNormalize : Bool := false
  sortBy : List SortKey := []

/-- Reduction rules, derived formulas and the two crates that match globs and infer
regular expressions. -/
structure Parts (σ : Type) where
  rule : String → AggRule σ
  compute : String → ExtTreeMap String Aggregated → Option ℚ
  glob : String → Option (String → Bool)
  grex : List String → String

structure DerivedMetricDef where
  name : String
  isRatio : Bool

def ctprofDerivedMetrics : List DerivedMetricDef :=
  [⟨"affine_success_ratio",true⟩,⟨"avg_wait_ns",false⟩,⟨"cpu_efficiency",true⟩,⟨"avg_slice_ns",false⟩,
   ⟨"involuntary_csw_ratio",true⟩,⟨"disk_io_fraction",true⟩,⟨"live_heap_estimate",false⟩,⟨"avg_iowait_ns",false⟩,
   ⟨"avg_cpu_delay_ns",false⟩,⟨"avg_blkio_delay_ns",false⟩,⟨"avg_swapin_delay_ns",false⟩,
   ⟨"avg_freepages_delay_ns",false⟩,⟨"avg_thrashing_delay_ns",false⟩,⟨"avg_compact_delay_ns",false⟩,
   ⟨"avg_wpcopy_delay_ns",false⟩,⟨"avg_irq_delay_ns",false⟩,⟨"total_offcpu_delay_ns",false⟩]

structure DiffRow where
  groupKey : String
  displayKey : String
  threadCountA : Nat
  threadCountB : Nat
  uptimePct : Option ℚ := none
  metricName : String
  baseline : Aggregated
  candidate : Aggregated
  delta : Option ℚ
  deltaPct : Option ℚ

structure DerivedRow where
  groupKey : String
  displayKey : String
  threadCountA : Nat
  threadCountB : Nat
  metricName : String
  baseline : Option ℚ
  candidate : Option ℚ
  delta : Option ℚ
  deltaPct : Option ℚ

structure FudgedPair where
  baselineCgroup : String
  candidateCgroup : String
  overlap : Nat
  jaccard : ℚ
  baselineResidual : List String
  candidateResidual : List String
  cascadedChildren : Nat
  baselineRoot : String
  candidateRoot : String

/-- `fudgedKeyPairs` is the local list of the source: the candidate keys that were merged
into a baseline key. -/
structure CtprofDiff where
  rows : List DiffRow := []
  derivedRows : List DerivedRow := []
  onlyBaseline : List String := []
  onlyCandidate : List String := []
  fudgedPairs : List FudgedPair := []
  fudgedKeyPairs : List (String × String) := []

def epsilon : ℚ := 1 / 2 ^ 52

def deltas : Option ℚ → Option ℚ → Option ℚ × Option ℚ
  | some va,some vb => (some (vb - va),if abs va > epsilon then some ((vb - va) / va) else none)
  | _,_ => (none,none)

def buildRow (key displayKey : String) (nA nB : Nat) (metric : String) (a b : Aggregated) : DiffRow :=
  let (delta,deltaPct) := deltas (numeric a) (numeric b)
  {groupKey := key,displayKey := displayKey,threadCountA := nA,threadCountB := nB,metricName := metric,
   baseline := a,candidate := b,delta := delta,deltaPct := deltaPct}

section
variable {σ : Type} (parts : Parts σ)

def buildDerivedRow (key displayKey : String) (nA nB : Nat) (metricDef : DerivedMetricDef)
    (metricsA metricsB : ExtTreeMap String Aggregated) : DerivedRow :=
  let baseline := parts.compute metricDef.name metricsA
  let candidate := parts.compute metricDef.name metricsB
  let (delta,deltaPct) := deltas baseline candidate
  {groupKey := key,displayKey := displayKey,threadCountA := nA,threadCountB := nB,metricName := metricDef.name,
   baseline := baseline,candidate := candidate,delta := delta,deltaPct := if metricDef.isRatio then none else deltaPct}

def emitRows (diff : CtprofDiff) (key displayKey : String) (nA nB : Nat) (metricsA metricsB : ExtTreeMap String Aggregated) :
    CtprofDiff :=
  let rows := ctprofMetrics.filterMap fun name =>
    match metricsA[name]?,metricsB[name]? with
    | some a,some b => some (buildRow key displayKey nA nB name a b)
    | _,_ => none
  let derivedRows := ctprofDerivedMetrics.map fun metricDef =>
    buildDerivedRow parts key displayKey nA nB metricDef metricsA metricsB
  {diff with rows := diff.rows ++ rows,derivedRows := diff.derivedRows ++ derivedRows}

def mergeGroups (groupsB : ExtTreeMap String ThreadGroup) (ckeys : List String) :
    Nat × ExtTreeMap String Aggregated :=
  ckeys.foldl (fun merged ckey =>
    match groupsB[ckey]? with
    | none => merged
    | some gb =>
      (merged.1 + gb.threadCount,gb.metrics.foldl (fun metrics name value =>
        metrics.insert name (match metrics[name]? with
          | none => value
          | some existing => mergeAggregatedInto existing value)) merged.2)) (0,∅)

def nulMark : Char := Char.ofNat 0

def cgPrefix (key : String) : String := ((splitOnce nulMark key).map Prod.fst).getD key

def keySuffix (key : String) : String := ((splitOnce nulMark key).map Prod.snd).getD ""

def fudgedLabel (bkey : String) : String :=
  let bcg := cgPrefix bkey
  let leaf := ((rsplitOnce '/' bcg).map Prod.snd).getD bcg
  if leaf.isEmpty then "[fudged]" else "[fudged: " ++ leaf ++ "]"

variable (groupsA groupsB : ExtTreeMap String ThreadGroup) (diff : CtprofDiff)

def emitFudgedRow (entry : String × List String) : CtprofDiff :=
  match groupsA[entry.1]? with
  | none => diff
  | some ga =>
    let (count,metrics) := mergeGroups groupsB entry.2
    emitRows parts diff entry.1 (fudgedLabel entry.1) ga.threadCount count ga.metrics metrics

def emitFudgedRows (found : ExtTreeMap String (List String)) : CtprofDiff :=
  found.toList.foldl (emitFudgedRow parts groupsA groupsB) diff

/-- Matches by baseline key, each with its candidate keys in the order they were found. -/
def byBaseline (pairs : List (String × String)) : ExtTreeMap String (List String) :=
  (collect Prod.fst (fun _ => []) (fun ckeys pair => ckeys ++ [pair.2]) pairs : Grouped String (List String) compare).groups

section
variable (opts : CompareOptions) (groupsA groupsB : ExtTreeMap String ThreadGroup)

def displayKey (key : String) (groupA groupB : ThreadGroup) : String :=
  if (opts.groupBy = .comm ∨ opts.groupBy = .pcomm) ∧ !opts.noThreadNormalize then
    patternDisplayLabel parts.grex key ((groupA.members ++ groupB.members).mergeSort (· ≤ ·)).dedup
  else key

def matchGroup (diff : CtprofDiff) (entry : String × ThreadGroup) : CtprofDiff :=
  match groupsB[entry.1]? with
  | none => {diff with onlyBaseline := diff.onlyBaseline ++ [entry.1]}
  | some groupB =>
    emitRows parts diff entry.1 (displayKey parts opts entry.1 entry.2 groupB) entry.2.threadCount groupB.threadCount
      entry.2.metrics groupB.metrics

def matchGroups : CtprofDiff :=
  let diff := groupsA.toList.foldl (matchGroup parts opts groupsB) {}
  {diff with onlyCandidate := groupsB.keys.filter fun key => !groupsA.contains key}

end

abbrev TypeSet := ExtTreeSet (String × String) (compareLex (compareOn Prod.fst) (compareOn Prod.snd))

def overlap (setA setB : TypeSet) : Nat := (setA.toList.filter setB.contains).length

def unionSize (setA setB : TypeSet) : Nat := setA.size + setB.size - overlap setA setB

def cgTypes (cgKey : ThreadState σ → String) (prefixes : ExtTreeSet String) (threads : List (ThreadState σ)) :
    ExtTreeMap String TypeSet :=
  (collect cgKey (fun _ => ∅) (fun types t => types.insert (patternKey t.pcomm,patternKey t.comm))
    (threads.filter fun t => prefixes.contains (cgKey t)) : Grouped String TypeSet compare).groups

def bestBaseline (prefixesA : List String) (typesA : ExtTreeMap String TypeSet) (setB : TypeSet) : Option String :=
  (prefixesA.foldl (fun best bcg =>
    match typesA[bcg]? with
    | none => best
    | some setA =>
      let intersection := overlap setA setB
      if intersection < 10 then best
      else
        let jaccard : ℚ := intersection / unionSize setA setB
        if jaccard ≥ 9 / 10 ∧ best.all fun found => jaccard > found.2 then some (bcg,jaccard) else best)
    (none : Option (String × ℚ))).map Prod.fst

def fudgedCgroups (prefixesA prefixesB : ExtTreeSet String) (typesA typesB : ExtTreeMap String TypeSet) :
    List (String × String) :=
  prefixesB.toList.filterMap fun ccg =>
    match typesB[ccg]? with
    | none => none
    | some setB => if setB.size < 10 then none else (bestBaseline prefixesA.toList typesA setB).map fun bcg => (bcg,ccg)

def suffixMatches (onlyBaseline onlyCandidate : List String) (cgroups : String × String) : List (String × String) :=
  let bKeys := onlyBaseline.filter fun key => cgPrefix key = cgroups.1
  let cKeys := onlyCandidate.filter fun key => cgPrefix key = cgroups.2
  let cSuffixMap : ExtTreeMap String String := .ofList (cKeys.map fun key => (keySuffix key,key))
  bKeys.filterMap fun bkey => cSuffixMap[keySuffix bkey]?.map fun ckey => (bkey,ckey)

def joinSegments (segments : List String) : String := String.intercalate "/" segments

def cascadeRoots (cgroups : String × String) : String × String :=
  let bSegs := split '/' cgroups.1
  let cSegs := split '/' cgroups.2
  let common := ((bSegs.reverse.zip cSegs.reverse).takeWhile fun pair => pair.1 == pair.2).length
  let bRoot := joinSegments (bSegs.take (bSegs.length - common))
  let cRoot := joinSegments (cSegs.take (cSegs.length - common))
  (if bRoot.isEmpty then cgroups.1 else bRoot,if cRoot.isEmpty then cgroups.2 else cRoot)

def isRootOrChild (cg root : String) : Bool :=
  match stripPrefix cg root with
  | none => false
  | some tail => tail.isEmpty || tail.toList.head? == some '/'

def rewritten (roots : String × String) (key : String) : Option String :=
  let tail := String.ofList ((cgPrefix key).toList.drop roots.2.toList.length)
  if !tail.isEmpty && tail.toList.head? != some '/' then none else some (roots.1 ++ tail ++ nul ++ keySuffix key)

/-- Matches found so far, those of the cascade apart, and the children of each cgroup. -/
structure Cascade where
  cascaded : List (String × String) := []
  counts : ExtTreeMap String Nat := ∅

section
variable (onlyBaseline onlyCandidate : List String) (fudged : List (String × String))

def childMatches (state : Cascade) (cgroups : String × String) : List (String × String) :=
  let roots := cascadeRoots cgroups
  let found := fudged ++ state.cascaded
  let remainingB := onlyBaseline.filter fun key =>
    key ∉ found.map Prod.fst ∧ isRootOrChild (cgPrefix key) roots.1
  let remainingC := onlyCandidate.filter fun key =>
    key ∉ found.map Prod.snd ∧ isRootOrChild (cgPrefix key) roots.2
  let cBySuffix : ExtTreeMap String String := .ofList (remainingC.filterMap fun key =>
    (rewritten roots key).map fun moved => (moved,key))
  remainingB.filterMap fun bkey => cBySuffix[bkey]?.map fun ckey => (bkey,ckey)

def cascadeStep (state : Cascade) (cgroups : String × String) : Cascade :=
  let children := childMatches onlyBaseline onlyCandidate fudged state cgroups
  {cascaded := state.cascaded ++ children
   counts := if children.isEmpty then state.counts
     else state.counts.insert cgroups.1 (state.counts[cgroups.1]?.getD 0 + children.length)}

end

def fudgedPair (fudgedCg : List (String × String)) (typesA typesB : ExtTreeMap String TypeSet)
    (counts : ExtTreeMap String Nat) (cgroups : String × String) : FudgedPair :=
  let setA := typesA[cgroups.1]?.getD ∅
  let setB := typesB[cgroups.2]?.getD ∅
  let counterpartsB := (fudgedCg.filter fun other => other.1 = cgroups.1).filterMap fun other => typesB[other.2]?
  let counterpartsA := (fudgedCg.filter fun other => other.2 = cgroups.2).filterMap fun other => typesA[other.1]?
  let intersection := overlap setA setB
  let union := unionSize setA setB
  let roots := cascadeRoots cgroups
  {baselineCgroup := cgroups.1
   candidateCgroup := cgroups.2
   overlap := intersection
   jaccard := if union > 0 then intersection / union else 0
   baselineResidual := (setA.toList.filter fun type => !counterpartsB.any fun set => set.contains type).map
     fun type => type.1 ++ ":" ++ type.2
   candidateResidual := (setB.toList.filter fun type => !counterpartsA.any fun set => set.contains type).map
     fun type => type.1 ++ ":" ++ type.2
   cascadedChildren := counts[cgroups.1]?.getD 0
   baselineRoot := roots.1
   candidateRoot := roots.2}

def unmatchedPrefixes (oneSided : List String) : ExtTreeSet String :=
  let matchedPrefixes := (groupsA.keys.filter fun key => groupsB.contains key).map cgPrefix
  .ofList ((oneSided.map cgPrefix).filter fun cg => cg ∉ matchedPrefixes)

/-- Matches one-sided groups by the threads of their cgroups, and then by the children of
those cgroups. -/
def fudge (cgKey : ThreadState σ → String) (baseline candidate : CtprofSnapshot σ)
    (groupsA groupsB : ExtTreeMap String ThreadGroup) (diff : CtprofDiff) : CtprofDiff :=
  let prefixesA := unmatchedPrefixes groupsA groupsB diff.onlyBaseline
  let prefixesB := unmatchedPrefixes groupsA groupsB diff.onlyCandidate
  let typesA := cgTypes cgKey prefixesA baseline.threads
  let typesB := cgTypes cgKey prefixesB candidate.threads
  let fudgedCg := fudgedCgroups prefixesA prefixesB typesA typesB
  let fudged := fudgedCg.flatMap (suffixMatches diff.onlyBaseline diff.onlyCandidate)
  let withFudged := emitFudgedRows parts groupsA groupsB diff (byBaseline fudged)
  let cascade := fudgedCg.foldl (cascadeStep diff.onlyBaseline diff.onlyCandidate fudged) {}
  let withCascade := emitFudgedRows parts groupsA groupsB withFudged (byBaseline cascade.cascaded)
  let pairs := fudged ++ cascade.cascaded
  {withCascade with
    onlyBaseline := diff.onlyBaseline.filter fun key => key ∉ pairs.map Prod.fst
    onlyCandidate := diff.onlyCandidate.filter fun key => key ∉ pairs.map Prod.snd
    fudgedPairs := fudgedCg.map (fudgedPair fudgedCg typesA typesB cascade.counts)
    fudgedKeyPairs := pairs}

def groupLifetime (nowB : Nat) (groupsA groupsB : ExtTreeMap String ThreadGroup) (pairs : List (String × String))
    (key : String) : Option Nat :=
  let merged := (pairs.filter fun pair => pair.1 = key).filterMap fun pair =>
    groupsB[pair.2]?.map fun gb => nowB - gb.avgStartTicks
  if merged.isEmpty then
    if groupsA.contains key then groupsB[key]?.map fun gb => nowB - gb.avgStartTicks else none
  else some (merged.sum % 2 ^ 64 / merged.length)

def fillUptime (nowB : Nat) (groupsA groupsB : ExtTreeMap String ThreadGroup) (diff : CtprofDiff) : CtprofDiff :=
  let lifetime := groupLifetime nowB groupsA groupsB diff.fudgedKeyPairs
  let lifetimes := (groupsB.keys ++ diff.fudgedKeyPairs.map Prod.fst).filterMap lifetime
  let maxLifetime := max (lifetimes.max?.getD 1) 1
  {diff with rows := diff.rows.map fun row =>
    match lifetime row.groupKey with
    | none => row
    | some lt => {row with uptimePct := some ((lt : ℚ) / maxLifetime * 100)}}

def sortKey (delta deltaPct : Option ℚ) : WithBot ℚ :=
  match deltaPct,delta with
  | some pct,_ => ((abs pct : ℚ) : WithBot ℚ)
  | none,some d => ((abs d * 1000000000 : ℚ) : WithBot ℚ)
  | none,none => ⊥

def byChange (keyA keyB : WithBot ℚ) (groupA groupB : String) : Bool :=
  decide (keyB < keyA) || (decide (keyA = keyB) && decide (groupA ≤ groupB))

def sortDefault : CtprofDiff :=
  {diff with
    rows := diff.rows.mergeSort fun a b =>
      byChange (sortKey a.delta a.deltaPct) (sortKey b.delta b.deltaPct) a.groupKey b.groupKey
    derivedRows := diff.derivedRows.mergeSort fun a b =>
      byChange (sortKey a.delta a.deltaPct) (sortKey b.delta b.deltaPct) a.groupKey b.groupKey}

/-- The change of a metric in a group; the last row that has one counts. -/
def groupDelta (group metric : String) : Option ℚ :=
  let primary := diff.rows.filterMap fun row => if row.groupKey = group ∧ row.metricName = metric then row.delta else none
  let derived := diff.derivedRows.filterMap fun row =>
    if row.groupKey = group ∧ row.metricName = metric then row.delta else none
  (primary ++ derived).getLast?

/-- Order of two groups under the sort keys; a group without the metric sinks. -/
def groupBefore (diff : CtprofDiff) : List SortKey → String → String → Bool
  | [],a,b => decide (a ≤ b)
  | key::keys,a,b =>
    match groupDelta diff a key.metric,groupDelta diff b key.metric with
    | some va,some vb =>
      if va = vb then groupBefore diff keys a b else if key.descending then decide (vb < va) else decide (va < vb)
    | none,none => groupBefore diff keys a b
    | some _,none => true
    | none,some _ => false

def sortByKeys (sortKeys : List SortKey) (diff : CtprofDiff) : CtprofDiff :=
  let groups := (diff.rows.map DiffRow.groupKey ++ diff.derivedRows.map DerivedRow.groupKey).dedup
  let ranked := groups.mergeSort (groupBefore diff sortKeys)
  let before (names : List String) (groupA metricA groupB metricB : String) : Bool :=
    let rankA := ranked.idxOf groupA
    let rankB := ranked.idxOf groupB
    decide (rankA < rankB) || (rankA == rankB && decide (names.idxOf metricA ≤ names.idxOf metricB))
  {diff with
    rows := diff.rows.mergeSort fun a b => before ctprofMetrics a.groupKey a.metricName b.groupKey b.metricName
    derivedRows := diff.derivedRows.mergeSort fun a b =>
      before (ctprofDerivedMetrics.map DerivedMetricDef.name) a.groupKey a.metricName b.groupKey b.metricName}

section
variable (opts : CompareOptions) (baseline candidate : CtprofSnapshot σ)

def flattenOf : Flatten := compileFlattenPatterns parts.glob opts.cgroupFlatten

def countsOf : Option (ExtTreeMap String Nat) :=
  (patternField opts.groupBy opts.noThreadNormalize).map (patternCountsUnion baseline candidate)

def keyMapOf : Option (ExtTreeMap String String) :=
  if (opts.groupBy = .cgroup ∨ opts.groupBy = .all) ∧ !opts.noCgNormalize then
    some (buildCgroupKeyMap baseline candidate (flattenOf parts opts))
  else none

def groupsOf (snap : CtprofSnapshot σ) : ExtTreeMap String ThreadGroup :=
  buildGroups opts.groupBy (flattenOf parts opts) (keyMapOf parts opts baseline candidate) opts.noThreadNormalize
    parts.rule snap (countsOf opts baseline candidate)

def compare : CtprofDiff :=
  let groupsA := groupsOf parts opts baseline candidate baseline
  let groupsB := groupsOf parts opts baseline candidate candidate
  let nowB := (candidate.threads.map ThreadState.startTimeClockTicks).max?.getD 0
  let diff := matchGroups parts opts groupsA groupsB
  let diff :=
    if opts.groupBy = .all ∧ diff.onlyBaseline ≠ [] ∧ diff.onlyCandidate ≠ [] then
      fudge parts (cgroupKey (flattenOf parts opts) (keyMapOf parts opts baseline candidate)) baseline candidate groupsA
        groupsB diff
    else diff
  let diff :=
    {diff with
      onlyBaseline := diff.onlyBaseline.mergeSort (· ≤ ·),onlyCandidate := diff.onlyCandidate.mergeSort (· ≤ ·)}
  let diff := fillUptime nowB groupsA groupsB diff
  if opts.sortBy.isEmpty then sortDefault diff else sortByKeys opts.sortBy diff

end
end

end Ktstr.Source.ProfileDiff
