import Ktstr.Source.Evaluation
import Ktstr.SustainedRuns

/-! The verdict a run returns against the sidecar that records it. -/
namespace Ktstr.RecordedVerdicts
open Library.Text Source.Bulk Source.Monitor Source.Results Source.VmTopology Source.Evaluation AssertResult
open SustainedRuns (Exceeds monitor_fails_iff)

/-- One run of a test: the topology override it was given and what came of the VM. -/
structure Run where
  override : Option TopoOverride
  result : VmResult
  merged : Assert
  hostExtractFailures : List AssertDetail

section
variable (host : Host) (entry : KtstrTestEntry)

variable (topo : Topology) (run : Run)

/-- The record of a run on the given topology tells its verdict and its topology. -/
def RecordAgrees : Prop :=
  ∃ sidecar, (evaluateVmResult host entry run.result run.merged run.hostExtractFailures topo).2 = some sidecar ∧
    (sidecar.passed = true ↔
      ∃ check, (evaluateVmResult host entry run.result run.merged run.hostExtractFailures topo).1 = .ok check) ∧
    (∀ check, (evaluateVmResult host entry run.result run.merged run.hostExtractFailures topo).1 = .ok check →
      sidecar.skipped = check.skipped) ∧
    sidecar.topology = topo.text

def recordFile (hash : Canonical → String) (topo : Topology) (run : Run) : Option String :=
  (evaluateVmResult host entry run.result run.merged run.hostExtractFailures topo).2.map (sidecarFile hash)

variable (guest : AssertResult)

/-- The checks pass: those of the guest, those made on the host, and the cleanup budget. -/
def ChecksPass : Prop :=
  guest.passed = true ∧ run.hostExtractFailures = [] ∧
    ∀ budget measured, entry.cleanupBudget = some budget → run.result.cleanupDuration = some measured →
      measured ≤ budget

/-- A scheduler is running, limits are set and enforced, and the monitor's samples exceed one of them. -/
def MonitorFails : Prop :=
  entry.scheduler.binary.hasActiveScheduling = true ∧ run.merged.hasMonitorThresholds = true ∧
    run.merged.enforceMonitorThresholds = true ∧
    ∃ monitor, run.result.monitor = some monitor ∧ (trimSettleSamples monitor).samples ≠ [] ∧
      dataLooksValid (trimSettleSamples monitor).samples = true ∧
      Exceeds host.hz run.merged.monitorThresholds (trimSettleSamples monitor)

/-- The run's last word is that of its checks, and it was made on the topology of the entry. -/
def Plain : Prop :=
  (ChecksPass entry run guest → ¬ MonitorFails host entry run) ∧ entry.topology.text = topo.text

theorem fold_passed (failures : List AssertDetail) (guest : AssertResult) :
    (failures.foldl (fun check detail => check.merge (fail detail)) guest).passed =
      (guest.passed && failures.isEmpty) := by
  induction failures generalizing guest with
  | nil => simp
  | cons detail failures ih =>
    rw [List.foldl_cons,ih]
    simp [merge,fail]

theorem folded_passed :
    (foldedResult host entry run.result run.hostExtractFailures guest).passed ↔ ChecksPass entry run guest := by
  unfold foldedResult ChecksPass
  cases entry.cleanupBudget with
  | none => simp [fold_passed]
  | some budget =>
    cases run.result.cleanupDuration with
    | none => simp [fold_passed]
    | some measured =>
      by_cases beyond : measured > budget
      · simp [merge,fail,beyond]
      · simp [fold_passed,beyond,Nat.not_lt.mp beyond]

variable {host}

theorem monitor_verdict {run : Run} :
    (∃ judged, monitorVerdict host entry run.result run.merged = some judged ∧ judged.2.passed = false) ↔
      MonitorFails host entry run := by
  unfold monitorVerdict MonitorFails
  by_cases watched : (entry.scheduler.binary.hasActiveScheduling && run.merged.hasMonitorThresholds)
  · obtain ⟨active,limits⟩ := Bool.and_eq_true_iff.mp watched
    rw [if_pos watched]
    simp only [Option.map_eq_some_iff,active,limits,true_and]
    constructor
    · rintro ⟨_,⟨monitor,present,rfl⟩,failed⟩
      obtain ⟨held,valid,enforced,exceeds⟩ := (monitor_fails_iff _ _ _).mp failed
      exact ⟨enforced,monitor,present,held,valid,exceeds⟩
    · rintro ⟨enforced,monitor,present,held,valid,exceeds⟩
      exact ⟨_,⟨monitor,present,rfl⟩,(monitor_fails_iff _ _ _).mpr ⟨held,valid,enforced,exceeds⟩⟩
  · rw [if_neg watched]
    rw [Bool.and_eq_true_iff] at watched
    simp only [reduceCtorEq,false_and,exists_false,false_iff]
    rintro ⟨active,limits,-⟩
    exact watched ⟨active,limits⟩

theorem evaluated (topo : Topology) {run : Run} {guest : AssertResult}
    (parsed : parseAssertResultFromDrain host run.result.guestMessages = some guest) :
    let check := foldedResult host entry run.result run.hostExtractFailures guest
    (evaluateVmResult host entry run.result run.merged run.hostExtractFailures topo).2 =
        some (writeSidecar entry check host.workType) ∧
      ((ChecksPass entry run guest ∧ ¬ MonitorFails host entry run ∧
          (evaluateVmResult host entry run.result run.merged run.hostExtractFailures topo).1 = .ok check) ∨
        ((ChecksPass entry run guest → MonitorFails host entry run) ∧
          ∃ e, (evaluateVmResult host entry run.result run.merged run.hostExtractFailures topo).1 = .error e)) := by
  rw [← folded_passed host entry run guest,← monitor_verdict entry]
  simp only [evaluateVmResult,evaluateReport,parsed]
  cases passes : (foldedResult host entry run.result run.hostExtractFailures guest).passed with
  | false => simp [Except.mapError]
  | true =>
    cases judged : monitorVerdict host entry run.result run.merged with
    | none => simp [Except.mapError]
    | some verdict =>
      obtain ⟨monitor,verdict⟩ := verdict
      cases agreed : verdict.passed <;> simp [Except.mapError,agreed]

theorem record_agrees_iff {topo : Topology} {run : Run} {guest : AssertResult}
    (parsed : parseAssertResultFromDrain host run.result.guestMessages = some guest) :
    RecordAgrees host entry topo run ↔ Plain host entry topo run guest := by
  obtain ⟨written,outcome⟩ := evaluated entry topo parsed
  have recorded := folded_passed host entry run guest
  unfold RecordAgrees Plain
  rw [written]
  rcases outcome with ⟨pass,quiet,ok⟩ | ⟨overturned,e,failed⟩
  · simp [ok,writeSidecar,recorded,pass,quiet]
  · simp only [failed,writeSidecar,reduceCtorEq,exists_false,iff_false,false_implies,implies_true,true_and,
      Option.some.injEq,exists_eq_left',recorded,and_congr_left_iff]
    exact fun _ => ⟨fun fails pass => absurd pass fails,fun quiet pass => quiet pass (overturned pass)⟩

end

theorem text_inj {first second : Topology} (same : first.text = second.text) :
    first.numaNodes = second.numaNodes ∧ first.llcs = second.llcs ∧ first.coresPerLlc = second.coresPerLlc ∧
      first.threadsPerCore = second.threadsPerCore := by
  have letters := congrArg String.toList same
  simp only [Topology.text,String.toList_append,List.append_assoc] at letters
  obtain ⟨nodes,letters⟩ := numeral_inj rfl letters
  obtain ⟨llcs,letters⟩ := numeral_inj rfl letters
  obtain ⟨cores,letters⟩ := numeral_inj rfl letters
  obtain ⟨threads,-⟩ := numeral_inj rfl letters
  exact ⟨nodes,llcs,cores,threads⟩

theorem topology_inj {first second : TopoOverride} {one two : Topology} (made : first.topology = some one)
    (other : second.topology = some two) (same : one.text = two.text) : one = two := by
  obtain ⟨nodes,llcs,cores,threads⟩ := text_inj same
  unfold TopoOverride.topology at made other
  split at made
  · split at other
    · obtain rfl := Option.some.inj made
      obtain rfl := Option.some.inj other
      dsimp only at nodes llcs cores threads
      simp only [nodes,llcs,cores,threads]
    · contradiction
  · contradiction

section
variable (host : Host) (entry : KtstrTestEntry)

/-- Two runs of a test: each is recorded with its verdict and topology, and runs under overrides of different
topologies are kept in different files, exactly if both runs are plain. -/
theorem verdicts_recorded_iff (hash : Canonical → String) (first second : Run) (one two : Topology) (mb mb' : Nat)
    (guest guest' : AssertResult) (resolved : resolveVmTopology entry first.override = some (one,mb))
    (resolved' : resolveVmTopology entry second.override = some (two,mb'))
    (parsed : parseAssertResultFromDrain host first.result.guestMessages = some guest)
    (parsed' : parseAssertResultFromDrain host second.result.guestMessages = some guest') :
    (RecordAgrees host entry one first ∧ RecordAgrees host entry two second ∧
      (first.override.isSome → second.override.isSome → one ≠ two →
        recordFile host entry hash one first ≠ recordFile host entry hash two second)) ↔
      Plain host entry one first guest ∧ Plain host entry two second guest' := by
  rw [record_agrees_iff entry parsed,record_agrees_iff entry parsed',← and_assoc,and_iff_left_iff_imp]
  rintro ⟨plain,plain'⟩ set set' different
  obtain ⟨override,given⟩ := Option.isSome_iff_exists.mp set
  obtain ⟨override',given'⟩ := Option.isSome_iff_exists.mp set'
  rw [given] at resolved
  rw [given'] at resolved'
  obtain ⟨topo,made,pair⟩ := Option.map_eq_some_iff.mp resolved
  obtain ⟨topo',made',pair'⟩ := Option.map_eq_some_iff.mp resolved'
  obtain ⟨rfl,rfl⟩ := Prod.mk.inj pair
  obtain ⟨rfl,rfl⟩ := Prod.mk.inj pair'
  exact absurd (topology_inj made made' (plain.2.symm.trans plain'.2)) different

end

def passingHost : Host where
  verbose := false
  stderrColor := false
  hz := 1000
  workType := "SpinWait"
  decodeResult _ := some AssertResult.pass
  fromUtf8Lossy _ := ""
  fixedPoint _ _ := "0"
  debugDuration _ := "0ns"
  errnoName _ := none
  collapseCycles log := log
  lastScxExit _ := none
  timeline _ _ _ := none
  monitorLines _ _ := ""
  detailText _ := ""
  repro _ := none

def oneCpuTopology : Topology := { llcs := 1, coresPerLlc := 1, threadsPerCore := 1, numaNodes := 1 }

def spread : KtstrTestEntry where
  name := "spread"
  topology := oneCpuTopology
  memoryMb := 256
  scheduler := ⟨"eevdf",.eevdf,[],[]⟩
  watchdogTimeout := 1
  duration := 1

def passedRun (override : Option TopoOverride) : Run :=
  ⟨override,{ guestMessages := some [⟨msgTypeTestResult,[],true⟩] },{},[]⟩

def smp (cores : Nat) (fits : cores < u32Span) : TopoOverride := ⟨1,1,cores,1,256,one_u32,one_u32,fits,one_u32⟩

/-- A run on the entry's own topology and one under an override that repeats it. -/
theorem own_topology_recorded :
    RecordAgrees passingHost spread oneCpuTopology (passedRun none) ∧
      RecordAgrees passingHost spread oneCpuTopology (passedRun (some (smp 1 (by decide)))) := by
  have quiet (run : Run) : ¬ MonitorFails passingHost spread run := fun fails => absurd fails.1 (by decide)
  have plain (run : Run) : Plain passingHost spread oneCpuTopology run pass := ⟨fun _ => quiet run,rfl⟩
  obtain ⟨first,second,-⟩ := (verdicts_recorded_iff passingHost spread (fun _ => "") (passedRun none)
    (passedRun (some (smp 1 (by decide)))) oneCpuTopology oneCpuTopology 256 256 pass pass
    rfl rfl rfl rfl).mpr ⟨plain _,plain _⟩
  exact ⟨first,second⟩

def cores (n : Nat) (fits : n < u32Span) : Topology :=
  { llcs := 1, coresPerLlc := n, threadsPerCore := 1, numaNodes := 1, coresPerLlc_u32 := fits }

def stuckCpu (clock : Nat) : CpuSnapshot := { nrRunning := 1, rqClock := clock }

/-- After twenty samples that are set aside, the clock of a busy CPU stands still. -/
def stalledMonitor : MonitorReport where
  samples := List.replicate 20 ⟨0,[stuckCpu 1]⟩ ++ [⟨0,[stuckCpu 5]⟩,⟨1,[stuckCpu 7]⟩,⟨2,[stuckCpu 7]⟩]
  preemptionThresholdNs := 40000000

def scheduled : KtstrTestEntry := { spread with scheduler := ⟨"scx",.discover "scx",[],[]⟩ }

def stalledRun : Run :=
  ⟨none,{ guestMessages := some [⟨msgTypeTestResult,[],true⟩], monitor := some stalledMonitor },
    { failOnStall := some true, sustainedSamples := some 1, enforceMonitorThresholds := true },[]⟩

theorem stall_overturns : MonitorFails passingHost scheduled stalledRun :=
  (monitor_verdict scheduled).mp ⟨_,rfl,by decide +kernel⟩

/-- Runs under two overrides: both records name the entry's topology, and the second overwrites the first. A run that
the monitor fails is recorded as passed. -/
theorem presets_share_a_file :
    (resolveVmTopology spread (some (smp 2 (by decide))) = some (cores 2 (by decide),256) ∧
      resolveVmTopology spread (some (smp 4 (by decide))) = some (cores 4 (by decide),256) ∧
      ¬ RecordAgrees passingHost spread (cores 2 (by decide)) (passedRun (some (smp 2 (by decide)))) ∧
      ∀ hash, recordFile passingHost spread hash (cores 2 (by decide)) (passedRun (some (smp 2 (by decide)))) =
        recordFile passingHost spread hash (cores 4 (by decide)) (passedRun (some (smp 4 (by decide))))) ∧
    ¬ RecordAgrees passingHost scheduled oneCpuTopology stalledRun := by
  refine ⟨⟨rfl,rfl,?_,fun hash => rfl⟩,?_⟩
  · rw [record_agrees_iff spread rfl]
    exact fun plain => absurd plain.2 (by decide)
  · rw [record_agrees_iff scheduled rfl]
    have pass : ChecksPass scheduled stalledRun pass := ⟨rfl,rfl,fun _ _ set => nomatch set⟩
    exact fun plain => plain.1 pass stall_overturns

end Ktstr.RecordedVerdicts
