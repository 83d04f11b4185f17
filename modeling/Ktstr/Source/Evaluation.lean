import Ktstr.Library.Templates
import Ktstr.Source.Bulk
import Ktstr.Source.Monitor
import Ktstr.Source.Patterns
import Ktstr.Source.Results
import Ktstr.Source.VmTopology

/-! Verdict of a VM run: `evaluate_vm_result` of `test_support/eval.rs` with the output readers
of `test_support/output.rs`, the sidecar it writes (`test_support/sidecar/mod.rs`), and the exit
code of `test_support/dispatch.rs`. Durations are nanoseconds. -/
namespace Ktstr.Source.Evaluation
open Library.Text Library.Templates Bulk Monitor Patterns Results VmTopology

inductive SchedulerSpec
  | eevdf
  | discover (name : String)
  | path (place : String)
  | kernelBuiltin
deriving DecidableEq

def SchedulerSpec.hasActiveScheduling (self : SchedulerSpec) : Bool := self != .eevdf

def SchedulerSpec.displayName : SchedulerSpec → String
  | .eevdf => "eevdf"
  | .discover name => name
  | .path place => place
  | .kernelBuiltin => "kernel"

structure Scheduler where
  name : String
  binary : SchedulerSpec
  sysctls : List (String × String) := []
  kargs : List String := []

structure KtstrTestEntry where
  name : String
  topology : Topology
  memoryMb : Nat
  scheduler : Scheduler
  payload : Option String := none
  watchdogTimeout : Nat
  duration : Nat
  cleanupBudget : Option Nat := none
  expectErr : Bool := false

structure VmResult where
  output : String := ""
  stderr : String := ""
  exitCode : Int := 0
  guestMessages : Option (List ShmEntry) := none
  monitor : Option MonitorReport := none
  duration : Nat := 0
  cleanupDuration : Option Nat := none
  timedOut : Bool := false
  crashMessage : Option String := none
  periodicTarget : Nat := 0
  periodicFired : Nat := 0

structure Assert where
  maxImbalanceRatio : Option ℚ := none
  maxLocalDsqDepth : Option Nat := none
  failOnStall : Option Bool := none
  sustainedSamples : Option Nat := none
  maxFallbackRate : Option ℚ := none
  maxKeepLastRate : Option ℚ := none
  enforceMonitorThresholds : Bool := false

def Assert.hasMonitorThresholds (self : Assert) : Bool :=
  self.maxImbalanceRatio.isSome || self.maxLocalDsqDepth.isSome || self.failOnStall.isSome ||
    self.sustainedSamples.isSome || self.maxFallbackRate.isSome || self.maxKeepLastRate.isSome

def Assert.monitorThresholds (self : Assert) : MonitorThresholds where
  maxImbalanceRatio := self.maxImbalanceRatio.getD 4
  maxLocalDsqDepth := self.maxLocalDsqDepth.getD 50
  failOnStall := self.failOnStall.getD true
  sustainedSamples := self.sustainedSamples.getD 5
  maxFallbackRate := self.maxFallbackRate.getD 200
  maxKeepLastRate := self.maxKeepLastRate.getD 100
  enforce := self.enforceMonitorThresholds

/-- What the evaluation takes from the process and from code outside this model: switches, the
decoders, number formats, and the texts of the timeline, monitor and repro sections. -/
structure Host where
  verbose : Bool
  stderrColor : Bool
  hz : Nat
  workType : String
  decodeResult : List UInt8 → Option AssertResult
  fromUtf8Lossy : List UInt8 → String
  fixedPoint : Nat → ℚ → String
  debugDuration : Nat → String
  errnoName : Int → Option String
  collapseCycles : String → String
  lastScxExit : String → Option (String × String)
  timeline : KtstrTestEntry → VmResult → Topology → Option String
  monitorLines : MonitorReport → Assert → String
  detailText : Detail → String
  repro : String → Option String

def msgTypeTestResult : UInt32 := 0x54455354

def msgTypeSchedLog : UInt32 := 0x53434c47

def msgTypeLifecycle : UInt32 := 0x4c494645

def schedOutputStart : String := "===SCHED_OUTPUT_START==="

def schedOutputEnd : String := "===SCHED_OUTPUT_END==="

section
variable (host : Host)

def parseAssertResultFromDrain (drain : Option (List ShmEntry)) : Option AssertResult := do
  let entries ← drain
  let entry ← entries.reverse.find? fun e => e.msgType == msgTypeTestResult && e.crcOk
  host.decodeResult entry.payload

def concatSchedLogChunks (drain : Option (List ShmEntry)) : String :=
  ((drain.getD []).filter fun e => e.msgType == msgTypeSchedLog && e.crcOk).foldl
    (fun acc e => acc ++ host.fromUtf8Lossy e.payload) ""

def parseSchedOutput (output : String) : Option String := do
  let start ← find schedOutputStart.toList output.toList
  let stop ← rfind schedOutputEnd.toList output.toList
  let afterMarker := start + schedOutputStart.toList.length
  if afterMarker ≥ stop then none
  else
    let content := trim isWhitespace ((output.toList.drop afterMarker).take (stop - afterMarker))
    if content.isEmpty then none else some (String.ofList content)

def schedLogFingerprint (output : String) : Option String := do
  let log ← parseSchedOutput output
  (lines log).reverse.find? fun l => !(trim isWhitespace l.toList).isEmpty

def schedExtDumpMarker : String := "sched_ext_dump:"

def extractSchedExtDump (output : String) : Option String :=
  let found := (lines output).filter fun l => contains l schedExtDumpMarker
  if found.isEmpty then none else some (String.intercalate "\n" found)

def exitFromDumpLines : List String → Option String
  | line::next::rest =>
    if contains line schedExtDumpMarker && contains line "triggered exit kind" then
      match find schedExtDumpMarker.toList next.toList with
      | some pos =>
        let body := trim isWhitespace (next.toList.drop (pos + schedExtDumpMarker.toList.length))
        if body.isEmpty then exitFromDumpLines (next::rest) else some (String.ofList body)
      | none => exitFromDumpLines (next::rest)
    else exitFromDumpLines (next::rest)
  | _ => none

def extractExitFromDumpTrace (console : String) : Option String := exitFromDumpLines (lines console)

def extractPanicMessage (output : String) : Option String :=
  (lines output).findSome? fun l =>
    (stripPrefix (String.ofList (trim isWhitespace l.toList)) "PANIC:").map fun rest =>
      String.ofList (trimStart isWhitespace rest.toList)

def stageInitNotStarted : String := "init script never started (kernel or mount failure)"

def stageInitStartedNoPayload : String := "init started but payload never ran (cgroup/scheduler setup failed)"

def stagePayloadStartedNoResult : String := "payload started but produced no test result"

def latestPhase (entries : List ShmEntry) : Option UInt8 :=
  entries.foldl (fun latest e =>
    if e.msgType != msgTypeLifecycle || !e.crcOk then latest
    else
      match e.payload with
      | [] => latest
      | phase::_ => if 1 ≤ phase ∧ phase ≤ 4 then some phase else latest) none

def classifyInitStage (drain : Option (List ShmEntry)) : String :=
  match latestPhase (drain.getD []) with
  | none => stageInitNotStarted
  | some phase => if phase = 1 then stageInitStartedNoPayload else stagePayloadStartedNoResult

def exitLabel (exitCode : Int) : List Piece :=
  match if exitCode < 0 then host.errnoName (-exitCode) else none with
  | some name => fill ["\nexit_code="," (",")"] [toString exitCode,name]
  | none => fill ["\nexit_code="] [toString exitCode]

def consoleSuffix (windowDropped lastLineIncomplete : Bool) : String :=
  match windowDropped,lastLineIncomplete with
  | true,true => " lines, window-truncated, last line incomplete):\n"
  | true,false => " lines, window-truncated):\n"
  | false,true => " lines, last line incomplete):\n"
  | false,false => " lines):\n"

def consoleTail (console : String) (trimmed : List Char) : List Piece :=
  let all := lines (String.ofList trimmed)
  let limit := if all.any fun l => contains l "PANIC:" then all.length else 20
  let start := all.length - limit
  let tail := all.drop start
  let lastLineIncomplete := console.toList.getLast? != some '\n'
  fill (["\nconsole (",consoleSuffix (decide (start > 0)) lastLineIncomplete] ++
    if lastLineIncomplete then [" [partial]"] else []) [toString tail.length,String.intercalate "\n" tail]

def formatConsoleDiagnostics (console : String) (exitCode : Int) (initStage : String) : List Piece :=
  let trimmed := trim isWhitespace console.toList
  if trimmed.isEmpty && exitCode == 0 then []
  else
    let shown := if trimmed.isEmpty then [] else consoleTail console trimmed
    fill ["\n\n--- diagnostics ---\nstage: "] [initStage] ++ exitLabel host exitCode ++ shown

def missingSamples (fired target : Nat) : List Piece :=
  if fired < target then
    fill ["\nmissing "," sample(s) — see freeze-coord traces for skip / timeout reasons"] [toString (target - fired)]
  else []

def formatPeriodicSamplesSection (result : VmResult) : List Piece :=
  let fired := result.periodicFired
  let target := result.periodicTarget
  if target = 0 then []
  else
    fill ["\n\n--- periodic samples ---\nfired ","/"," periodic snapshots (","% coverage)"]
      [toString fired,toString target,host.fixedPoint 0 (100 * fired / target)] ++ missingSamples fired target

def formatTemporalAssertionsSection (result : AssertResult) : List Piece :=
  let temporal := result.details.filter fun d => d.kind == .temporal
  if temporal.isEmpty then []
  else
    fill ["\n\n--- temporal assertions ---\n"," temporal assertion violation(s):"] [toString temporal.length] ++
      temporal.flatMap fun detail => fill ["\n  "] [detail.message]

def cgroupLine (entry : CgroupStats × Nat) : List Piece :=
  fill ["\n  cg",": workers="," cpus="," spread=","% gap=","ms migrations="," iter="]
    [toString entry.2,toString entry.1.numWorkers,toString entry.1.numCpus,host.fixedPoint 1 entry.1.spread,
      toString entry.1.maxGapMs,toString entry.1.totalMigrations,toString entry.1.totalIterations]

def totalsLine (s : ScenarioStats) : List Piece :=
  fill ["\n\n--- stats ---\n"," workers, "," cpus, "," migrations, worst_spread=","%, worst_gap=","ms"]
    [toString s.totalWorkers,toString s.totalCpus,toString s.totalMigrations,host.fixedPoint 1 s.worstSpread,
      toString s.worstGapMs]

def statsSection (result : AssertResult) : List Piece :=
  if result.stats.cgroups.isEmpty then []
  else totalsLine host result.stats ++ result.stats.cgroups.zipIdx.flatMap (cgroupLine host)

def titled (title : String) : Option String → List Piece
  | none => []
  | some body => fill [title] [body]

def schedLogInput (result : VmResult) : String :=
  let merged := concatSchedLogChunks host result.guestMessages
  if merged = "" then result.output else merged

def schedLogTail (log : String) : List Piece :=
  let collapsed := host.collapseCycles log
  let isVerifier := contains collapsed "processed" && contains collapsed "insns"
  let all := lines collapsed
  if !isVerifier && decide (all.length > 200) then
    fill ["\n\n--- scheduler log ---\n["," lines truncated]\n"]
      [toString (all.length - 200),String.intercalate "\n" (all.drop (all.length - 200))]
  else fill ["\n\n--- scheduler log ---\n"] [collapsed]

def schedLogSection (result : VmResult) : List Piece :=
  match parseSchedOutput (schedLogInput host result) with
  | none => []
  | some log => schedLogTail host log

def dumpSection (result : VmResult) : List Piece :=
  titled "\n\n--- sched_ext dump ---\n" (extractSchedExtDump result.stderr)

def fingerprintLine (result : VmResult) : List Piece :=
  match schedLogFingerprint (schedLogInput host result) with
  | none => []
  | some fp =>
    if host.stderrColor then fill ["\x1b[1;31m","\x1b[0m\n"] [fp] else .inserted fp::fill ["\n"] []

def schedulerLabel (spec : SchedulerSpec) : List Piece :=
  if spec = .eevdf then [] else fill [" [sched=","]"] [spec.displayName]

variable (entry : KtstrTestEntry) (result : VmResult)

def reproSection : List Piece :=
  titled "\n\n--- auto-repro ---\n"
    (if entry.scheduler.binary.hasActiveScheduling then host.repro result.output else none)

def timelineSection (topo : Topology) : List Piece :=
  titled "\n\n" (host.timeline entry result topo)

variable (merged : Assert) (topo : Topology)

def monitorSection : List Piece :=
  titled "\n\n--- monitor ---\n"
    (if entry.scheduler.binary.hasActiveScheduling then result.monitor.map fun monitor => host.monitorLines monitor merged
    else none)

def header : List Piece :=
  fingerprintLine host result ++ fill ["ktstr_test '","'"] [entry.name] ++ schedulerLabel entry.scheduler.binary ++
    fill [" [topo="] [topo.text]

def errMonitorFailedAfterScenario : String := "passed scenario but monitor failed"

def errTimedOutNoResult : String := "timed out (no result via bulk port or COM2)"

def errNoTestResultFromGuest : String :=
  "no test result received from guest (no AssertResult arrived via bulk port or COM2; " ++
    "check kernel log and scheduler exit status)"

def errNoTestFunctionOutput : String := "test function produced no output (no test result found)"

def errGuestCrashedPrefix : String := "guest crashed:"

def consoleSection : List Piece :=
  formatConsoleDiagnostics host result.stderr result.exitCode (classifyInitStage result.guestMessages)

def failedReport (check : AssertResult) : List Piece :=
  header host entry result topo ++ .fixed "] failed:\n  "::joined "\n  " (check.details.map AssertDetail.message) ++
    statsSection host check ++
    (if (check.details.any fun d => d.kind == .schedulerDied) || host.verbose then consoleSection host result else []) ++
    timelineSection host entry result topo ++ formatPeriodicSamplesSection host result ++
    formatTemporalAssertionsSection check ++ schedLogSection host result ++ monitorSection host entry result merged ++
    dumpSection result ++ reproSection host entry result

def monitorReport (monitor : MonitorReport) (details : List Detail) : List Piece :=
  header host entry result topo ++ .fixed ("] " ++ errMonitorFailedAfterScenario ++ ":\n  ")::
    joined "\n  " (details.map host.detailText) ++ timelineSection host entry result topo ++
    fill ["\n\n--- monitor ---\n"] [host.monitorLines monitor merged] ++ schedLogSection host result ++
    dumpSection result

def vmBootHeadroom : Nat := 10000000000

def vmTimeoutFromEntry : Nat :=
  max (max entry.watchdogTimeout entry.duration) 1000000000 + vmBootHeadroom

def watchdogHint : String :=
  " (workload duration)\nhint: if the test body needs more wall time, increase duration " ++
    "(the \x60duration\x60 field on \x60KtstrTestEntry\x60 / \x60#[ktstr_test(duration_ms = ...)]\x60); " ++
    "the VM timeout is derived as max(watchdog_timeout, duration) so raising duration also " ++
    "extends the host watchdog deadline"

def watchdogSection : List Piece :=
  fill ["\n\n--- watchdog ---\nelapsed="," (VM run wall-clock)\nvm_timeout=",
    " (host watchdog deadline; max(watchdog_timeout, duration))\nwatchdog_timeout=",
    " (scx_sched.watchdog_timeout override)\nduration="]
    [host.debugDuration result.duration,host.debugDuration (vmTimeoutFromEntry entry),
      host.debugDuration entry.watchdogTimeout,host.debugDuration entry.duration] ++ [.fixed watchdogHint]

def timeoutReason : List Piece :=
  match host.lastScxExit result.stderr with
  | some event =>
    if event.2 = "" then fill ["] timed out (scheduler "," exited)"] [event.1]
    else fill ["] timed out (scheduler exited: ",")"] [event.2]
  | none => fill ["] " ++ errTimedOutNoResult] []

def timeoutReport (console : List Piece) : List Piece :=
  header host entry result topo ++ timeoutReason host result ++ watchdogSection host entry result ++
    titled ("\n\n" ++ errGuestCrashedPrefix ++ "\n") result.crashMessage ++ console ++
    timelineSection host entry result topo ++ schedLogSection host result ++ dumpSection result ++
    monitorSection host entry result merged ++ reproSection host entry result

def noResultReason : List Piece :=
  match result.crashMessage,extractPanicMessage result.output with
  | some crash,_ => fill ["] " ++ errGuestCrashedPrefix ++ "\n"] [crash]
  | none,some panic => fill ["] " ++ errGuestCrashedPrefix ++ " "] [panic]
  | none,none =>
    if entry.scheduler.binary.hasActiveScheduling then
      match host.lastScxExit result.stderr,extractExitFromDumpTrace result.stderr with
      | some event,_ =>
        if event.2 = "" then fill ["] scheduler exited (",")"] [event.1] else fill ["] scheduler exited: "] [event.2]
      | none,some reason => fill ["] scheduler exited: "] [reason]
      | none,none => fill ["] " ++ errNoTestResultFromGuest] []
    else fill ["] " ++ errNoTestFunctionOutput] []

def noResultReport (console : List Piece) : List Piece :=
  header host entry result topo ++ noResultReason host entry result ++ console ++
    timelineSection host entry result topo ++ schedLogSection host result ++ dumpSection result ++
    monitorSection host entry result merged ++ reproSection host entry result

def foldedResult (hostExtractFailures : List AssertDetail) (guest : AssertResult) : AssertResult :=
  let extracted := hostExtractFailures.foldl (fun check detail => check.merge (AssertResult.fail detail)) guest
  match entry.cleanupBudget,result.cleanupDuration with
  | some budget,some measured =>
    if measured > budget then
      extracted.merge (AssertResult.fail ⟨.other,
        "vm cleanup overran budget: measured " ++ host.fixedPoint 3 (measured / 1000000000) ++ "s, budget " ++
          host.fixedPoint 3 (budget / 1000000000) ++ "s. Likely a regression in host-side teardown — investigate " ++
          "the post-BSP-exit join/drain path (\x60vmm::KtstrVm::collect_results\x60)."⟩)
    else extracted
  | _,_ => extracted

def monitorWarmupSamples : Nat := 20

def trimSettleSamples (report : MonitorReport) : MonitorReport :=
  if report.samples.length ≤ monitorWarmupSamples then report
  else {report with samples := report.samples.drop monitorWarmupSamples}

def monitorVerdict : Option (MonitorReport × MonitorVerdict) :=
  if entry.scheduler.binary.hasActiveScheduling && merged.hasMonitorThresholds then
    result.monitor.map fun monitor =>
      (monitor,evaluate host.hz merged.monitorThresholds (trimSettleSamples monitor))
  else none

structure SidecarResult where
  testName : String
  topology : String
  scheduler : String
  payload : Option String
  passed : Bool
  skipped : Bool
  stats : ScenarioStats
  workType : String
  sysctls : List String
  kargs : List String

def writeSidecar (check : AssertResult) (workType : String) : SidecarResult where
  testName := entry.name
  topology := entry.topology.text
  scheduler := entry.scheduler.name
  payload := entry.payload
  passed := check.passed
  skipped := check.skipped
  stats := check.stats
  workType := workType
  sysctls := entry.scheduler.sysctls.map fun s => "sysctl." ++ s.1 ++ "=" ++ s.2
  kargs := entry.scheduler.kargs

structure Canonical where
  topology : String
  scheduler : String
  payload : Option String
  workType : String
  sysctls : List String
  kargs : List String
deriving DecidableEq

def canonical (sidecar : SidecarResult) : Canonical :=
  ⟨sidecar.topology,sidecar.scheduler,sidecar.payload,sidecar.workType,sidecar.sysctls.mergeSort (· ≤ ·),
    sidecar.kargs.mergeSort (· ≤ ·)⟩

def sidecarFile (hash : Canonical → String) (sidecar : SidecarResult) : String :=
  sidecar.testName ++ "-" ++ hash (canonical sidecar) ++ ".ktstr.json"

structure Cause where
  message : String
  contention : Option String := none

structure AnyhowError where
  chain : List Cause

def AnyhowError.rendered (self : AnyhowError) : String := String.intercalate ": " (self.chain.map Cause.message)

def bail (report : List Piece) : AnyhowError := ⟨[{ message := render report }]⟩

def evaluateReport (hostExtractFailures : List AssertDetail) (topo : Topology) :
    Except (List Piece) AssertResult × Option SidecarResult :=
  match parseAssertResultFromDrain host result.guestMessages with
  | some guest =>
    let check := foldedResult host entry result hostExtractFailures guest
    let sidecar := writeSidecar entry check host.workType
    if !check.passed then (.error (failedReport host entry result merged topo check),some sidecar)
    else
      match monitorVerdict host entry result merged with
      | some (monitor,verdict) =>
        if !verdict.passed then
          (.error (monitorReport host entry result merged topo monitor verdict.details),some sidecar)
        else (.ok check,some sidecar)
      | none => (.ok check,some sidecar)
  | none =>
    let hasSchedOutput := contains result.output schedOutputStart ||
      contains (concatSchedLogChunks host result.guestMessages) schedOutputStart
    let console :=
      if !hasSchedOutput || host.verbose || entry.scheduler.binary.hasActiveScheduling then consoleSection host result
      else []
    if result.timedOut then (.error (timeoutReport host entry result merged topo console),none)
    else (.error (noResultReport host entry result merged topo console),none)

def evaluateVmResult (hostExtractFailures : List AssertDetail) (topo : Topology) :
    Except AnyhowError AssertResult × Option SidecarResult :=
  let (verdict,sidecar) := evaluateReport host entry result merged hostExtractFailures topo
  (verdict.mapError bail,sidecar)

end

structure TopoOverride where
  numaNodes : Nat
  llcs : Nat
  cores : Nat
  threads : Nat
  memoryMb : Nat
  numaNodes_u32 : numaNodes < u32Span := by decide
  llcs_u32 : llcs < u32Span := by decide
  cores_u32 : cores < u32Span := by decide
  threads_u32 : threads < u32Span := by decide

def TopoOverride.accepted (self : TopoOverride) : Bool :=
  self.numaNodes != 0 && self.llcs != 0 && self.cores != 0 && self.threads != 0 && self.memoryMb != 0 &&
    ((checkedMulU32 self.cores self.threads).bind (checkedMulU32 self.llcs)).isSome

/-- The uniform topology of an override, or a panic where its constructor asserts. -/
def TopoOverride.topology (self : TopoOverride) : Option Topology :=
  if self.accepted && self.llcs % self.numaNodes == 0 then
    some { llcs := self.llcs, coresPerLlc := self.cores, threadsPerCore := self.threads, numaNodes := self.numaNodes
           llcs_u32 := self.llcs_u32, coresPerLlc_u32 := self.cores_u32, threadsPerCore_u32 := self.threads_u32
           numaNodes_u32 := self.numaNodes_u32 }
  else none

def resolveVmTopology (entry : KtstrTestEntry) (topo : Option TopoOverride) : Option (Topology × Nat) :=
  match topo with
  | some t => t.topology.map fun topology => (topology,t.memoryMb)
  | none => some (entry.topology,max (max (wrapU32 (entry.topology.totalCpus * 64)) 256) entry.memoryMb)

def isTopologyInsufficient (e : AnyhowError) : Bool :=
  contains e.rendered "need" && (contains e.rendered "LLC" || contains e.rendered "CPU")

def isResourceContention (e : AnyhowError) : Bool := e.chain.any fun cause => cause.contention.isSome

def resultToExitCode (noSkip : Bool) (result : Except AnyhowError AssertResult) (expectErr : Bool) : Nat :=
  match result with
  | .ok _ => if expectErr then 1 else 0
  | .error e =>
    if isResourceContention e then if noSkip then 1 else 0
    else if isTopologyInsufficient e then if noSkip then 1 else 0
    else if expectErr then 0
    else 1

end Ktstr.Source.Evaluation
