import Ktstr.Source.Evaluation

/-! Exit codes of failed runs: which texts of a failure report turn it into a skip. -/
namespace Ktstr.ExitCodes
open List Library.Text Library.Templates Source.Bulk Source.Monitor Source.Patterns Source.Results Source.VmTopology
  Except
open Source.Evaluation

def words : List String := ["need","LLC","CPU"]

def marks : List Char := ['n','e','d','L','C','P','U']

def Spelled (text : String) (letters : List Char) : Prop := text = String.ofList letters

def quiet (ws : List String) (parts : List (List Char)) : Bool :=
  parts.all fun part => part.head?.any (fun c => !marks.contains c) && part.getLast?.any (fun c => !marks.contains c) &&
    ws.all fun word => !occurs word.toList part

theorem Spelled.append {first second : String} {front back : List Char} (left : Spelled first front)
    (right : Spelled second back) : Spelled (first ++ second) (front ++ back) := by
  rw [Spelled,left,right,String.ofList_append]

theorem Spelled.toList {text : String} {letters : List Char} (spelled : Spelled text letters) :
    text.toList = letters := by
  rw [spelled,String.toList_ofList]

theorem quiet_spelled {ws : List String} {parts : List String} {letters : List (List Char)}
    (spelled : List.Forall₂ Spelled parts letters) (ok : quiet ws letters) :
    sound marks parts ∧ ∀ word ∈ ws, (parts.all fun part => !contains part word) := by
  induction spelled with
  | nil => exact ⟨rfl,fun _ _ => rfl⟩
  | cons same _ ih =>
    simp only [quiet,all_cons,Bool.and_eq_true] at ok
    obtain ⟨⟨⟨start,stop⟩,free⟩,rest⟩ := ok
    obtain ⟨sounds,silent⟩ := ih rest
    refine ⟨?_,?_⟩
    · simp only [sound,all_cons,opens,closes,same.toList,start,stop]
      exact sounds
    · intro word listed
      rw [all_cons,silent word listed,Library.Text.contains,same.toList,Bool.and_true]
      exact all_eq_true.mp free word listed

/-- Pieces that may follow anything, with the given words in inserted texts only. -/
structure Block (ws : List String) (pieces : List Piece) : Prop where
  seams : seamed marks pieces
  next : bounded pieces
  silent : ∀ word ∈ ws, fixedContains word pieces = false

namespace Block
variable {ws : List String}

theorem fewer {fewer : List String} {pieces : List Piece} (block : Block ws pieces) (sub : fewer ⊆ ws) :
    Block fewer pieces :=
  ⟨block.seams,block.next,fun word listed => block.silent word (sub listed)⟩

theorem nil : Block ws [] := ⟨rfl,rfl,fun _ _ => rfl⟩

theorem fill {parts : List String} {letters : List (List Char)} (args : List String)
    (spelled : List.Forall₂ Spelled parts letters := by repeat constructor)
    (ok : quiet ws letters := by decide +kernel) : Block ws (fill parts args) := by
  obtain ⟨sounds,silent⟩ := quiet_spelled spelled ok
  exact ⟨seamed_fill parts args sounds,bounded_fill parts args,
    fun word listed => fixedContains_fill word parts args (silent word listed)⟩

theorem append {first second : List Piece} (left : Block ws first) (right : Block ws second) :
    Block ws (first ++ second) := by
  refine ⟨seamed_append left.seams right.seams right.next,bounded_append left.next right.next,?_⟩
  intro word listed
  rw [fixedContains_append,left.silent word listed,right.silent word listed]
  rfl

theorem flatMap {α : Type} (items : List α) (pieces : α → List Piece) (each : ∀ item, Block ws (pieces item)) :
    Block ws (items.flatMap pieces) := by
  obtain ⟨seams,next⟩ := seamed_flatMap (fun item => (each item).seams) (fun item => (each item).next)
  exact ⟨seams,next,fun word listed => fixedContains_flatMap word fun item => (each item).silent word listed⟩

theorem titled {title : String} {letters : List Char} (body : Option String) (spelled : Spelled title letters)
    (ok : quiet ws [letters] := by decide +kernel) : Block ws (Source.Evaluation.titled title body) := by
  cases body with
  | none => exact nil
  | some body => exact fill [body] (.cons spelled .nil) ok

theorem listing {title between : String} {first second : List Char} (texts : List String) (intro : Spelled title first)
    (gap : Spelled between second) (ok : quiet ws [first,second] := by decide +kernel) :
    Block ws (.fixed title::joined between texts) := by
  obtain ⟨sounds,silent⟩ := quiet_spelled (.cons intro (.cons gap .nil)) ok
  simp only [sound,all_cons,all_nil,Bool.and_true,Bool.and_eq_true] at sounds
  obtain ⟨⟨opens,closes⟩,⟨start,stop⟩⟩ := sounds
  refine ⟨?_,rfl,?_⟩
  · simp [seamed,opens,closes,seamed_joined start stop]
  · intro word listed
    have free := silent word listed
    simp only [all_cons,all_nil,Bool.and_true,Bool.and_eq_true,Bool.not_eq_true'] at free
    rw [fixedContains_fixed,free.1,fixedContains_joined word between texts free.2]
    rfl

end Block

structure Report (ws : List String) (pieces : List Piece) : Prop where
  seams : seamed marks pieces
  silent : ∀ word ∈ ws, fixedContains word pieces = false

theorem Report.append {ws : List String} {first second : List Piece} (left : Report ws first) (right : Block ws second) :
    Report ws (first ++ second) := by
  refine ⟨seamed_append left.seams right.seams right.next,?_⟩
  intro word listed
  rw [fixedContains_append,left.silent word listed,right.silent word listed]
  rfl

section
variable (host : Host) (entry : KtstrTestEntry) (result : VmResult) (merged : Assert) (topo : Topology)

structure Sections : Prop where
  console : ∀ text exitCode initStage, Block words (formatConsoleDiagnostics host text exitCode initStage)
  periodic : Block words (formatPeriodicSamplesSection host result)
  temporal : ∀ check, Block words (formatTemporalAssertionsSection check)
  stats : ∀ check, Block words (statsSection host check)
  schedLog : Block words (schedLogSection host result)
  dump : Block words (dumpSection result)
  repro : Block words (reproSection host entry result)
  timeline : Block words (timelineSection host entry result topo)
  monitor : Block words (monitorSection host entry result merged)
  noResult : Block words (noResultReason host entry result)
  timeout : Block words (timeoutReason host result)
  crash : Block words (titled ("\n\n" ++ errGuestCrashedPrefix ++ "\n") result.crashMessage)
  failed : ∀ texts, Block words (.fixed "] failed:\n  "::joined "\n  " texts)
  overturned : ∀ texts, Block words (.fixed ("] " ++ errMonitorFailedAfterScenario ++ ":\n  ")::joined "\n  " texts)
  monitorLines : ∀ text, Block words (fill ["\n\n--- monitor ---\n"] [text])
  header : Report words (header host entry result topo)

-- one theorem for all of them: the kernel evaluates their letters in turn, not each beside the others
theorem sections : Sections host entry result merged topo where
  console text exitCode initStage := by
    have tail (trimmed : List Char) : Block words (consoleTail text trimmed) := by
      have each (windowDropped lastLineIncomplete : Bool) (args : List String) :
          Block words (fill (["\nconsole (",consoleSuffix windowDropped lastLineIncomplete] ++
            if lastLineIncomplete then [" [partial]"] else []) args) := by
        cases windowDropped <;> cases lastLineIncomplete <;>
          exact Block.fill _
      exact each _ _ _
    unfold formatConsoleDiagnostics
    dsimp only
    split
    · exact Block.nil
    · refine (Block.append (Block.fill _) ?_).append ?_
      · unfold exitLabel
        split <;> exact Block.fill _
      · split
        · exact Block.nil
        · exact tail _
  periodic := by
    unfold formatPeriodicSamplesSection
    dsimp only
    split
    · exact Block.nil
    · refine Block.append (Block.fill _) ?_
      unfold missingSamples
      split
      · exact Block.fill _
      · exact Block.nil
  temporal check := by
    unfold formatTemporalAssertionsSection
    dsimp only
    split
    · exact Block.nil
    · exact Block.append (Block.fill _)
        (Block.flatMap _ _ fun detail => Block.fill _)
  stats check := by
    unfold statsSection
    split
    · exact Block.nil
    · exact Block.append (Block.fill _)
        (Block.flatMap _ _ fun cgroup => Block.fill _)
  schedLog := by
    unfold schedLogSection
    split
    · exact Block.nil
    · unfold schedLogTail
      dsimp only
      split <;> exact Block.fill _
  dump := Block.titled _ rfl
  repro := Block.titled _ rfl
  timeline := Block.titled _ rfl
  monitor := Block.titled _ rfl
  noResult := by
    unfold noResultReason
    split
    · exact Block.fill _ (.cons (.append (.append rfl rfl) rfl) .nil)
    · exact Block.fill _ (.cons (.append (.append rfl rfl) rfl) .nil)
    · split
      · split
        · split <;> exact Block.fill _
        · exact Block.fill _
        · exact Block.fill _ (.cons (.append rfl (.append rfl rfl)) .nil)
      · exact Block.fill _ (.cons (.append rfl rfl) .nil)
  timeout := by
    unfold timeoutReason
    split
    · split <;> exact Block.fill _
    · exact Block.fill _ (.cons (.append rfl rfl) .nil)
  crash := Block.titled _ (.append (.append rfl rfl) rfl)
  failed texts := Block.listing texts rfl rfl
  overturned texts := Block.listing texts (.append (.append rfl rfl) rfl) rfl
  monitorLines text := Block.fill _
  header := by
    have line : Report words (fingerprintLine host result) := by
      unfold fingerprintLine
      split
      · exact ⟨rfl,fun _ _ => rfl⟩
      · split
        · have colored (fp : String) : Block words (fill ["\x1b[1;31m","\x1b[0m\n"] [fp]) :=
            Block.fill _
          exact ⟨(colored _).seams,(colored _).silent⟩
        · have ending : Block words (fill ["\n"] []) := Block.fill _
          refine ⟨?_,?_⟩
          · simp [seamed,ending.seams,ending.next]
          · intro word listed
            rw [fixedContains_inserted,ending.silent word listed]
    have label : Block words (schedulerLabel entry.scheduler.binary) := by
      unfold schedulerLabel
      split
      · exact Block.nil
      · exact Block.fill _
    exact ((line.append (Block.fill _)).append label).append
      (Block.fill _)

theorem report_failed (check : AssertResult) : Report words (failedReport host entry result merged topo check) := by
  have all := sections host entry result merged topo
  have shown : Block words (if (check.details.any fun d => d.kind == .schedulerDied) || host.verbose then
      consoleSection host result else []) := by
    split
    · exact all.console _ _ _
    · exact Block.nil
  exact ((((((((all.header.append (all.failed _)).append (all.stats check)).append shown).append all.timeline).append
    all.periodic).append (all.temporal check)).append all.schedLog).append all.monitor).append all.dump |>.append all.repro

theorem report_monitor (monitor : MonitorReport) (details : List Detail) :
    Report words (monitorReport host entry result merged topo monitor details) := by
  have all := sections host entry result merged topo
  exact ((((all.header.append (all.overturned _)).append all.timeline).append (all.monitorLines _)).append
    all.schedLog).append all.dump

theorem report_closing {ws : List String} (sub : ws ⊆ words) {console first : List Piece}
    (shown : Block words console) (opening : Report ws first) :
    Report ws (first ++ console ++ timelineSection host entry result topo ++ schedLogSection host result ++
      dumpSection result ++ monitorSection host entry result merged ++ reproSection host entry result) := by
  have all := sections host entry result merged topo
  exact (((((opening.append (shown.fewer sub)).append (all.timeline.fewer sub)).append (all.schedLog.fewer sub)).append
    (all.dump.fewer sub)).append (all.monitor.fewer sub)).append (all.repro.fewer sub)

theorem report_noResult {console : List Piece} (shown : Block words console) :
    Report words (noResultReport host entry result merged topo console) := by
  have all := sections host entry result merged topo
  exact report_closing host entry result merged topo (List.Subset.refl _) shown
    (all.header.append all.noResult)

theorem watchdog_section : Block ["LLC","CPU"] (watchdogSection host entry result) ∧
    fixedContains "need" (watchdogSection host entry result) := by
  obtain ⟨letters,spelled,start,hint,free⟩ : ∃ letters, Spelled watchdogHint letters ∧
      letters.head?.any (fun c => !marks.contains c) ∧ occurs "need".toList letters ∧
      ∀ word ∈ ["LLC","CPU"], occurs word.toList letters = false :=
    ⟨_,.append (.append (.append rfl rfl) rfl) rfl,by decide +kernel,by decide +kernel,by decide +kernel⟩
  refine ⟨Block.append (Block.fill _) ⟨?_,rfl,?_⟩,?_⟩
  · simp only [seamed,opens,spelled.toList,start]
    rfl
  · intro word listed
    rw [fixedContains_fixed,Library.Text.contains,spelled.toList,free word listed]
    rfl
  · rw [watchdogSection,fixedContains_append,fixedContains_fixed,Library.Text.contains,spelled.toList,hint]
    simp

theorem report_timeout {console : List Piece} (shown : Block words console) :
    Report ["LLC","CPU"] (timeoutReport host entry result merged topo console) := by
  have sub : ["LLC","CPU"] ⊆ words := by decide
  have all := sections host entry result merged topo
  have opening : Report ["LLC","CPU"] (header host entry result topo) :=
    ⟨all.header.seams,fun word listed => all.header.silent word (sub listed)⟩
  exact report_closing host entry result merged topo sub shown
    (((opening.append (all.timeout.fewer sub)).append (watchdog_section host entry result).1).append (all.crash.fewer sub))

theorem timeout_hints (console : List Piece) :
    fixedContains "need" (timeoutReport host entry result merged topo console) := by
  simp [timeoutReport,(watchdog_section host entry result).2]

end

section
variable (host : Host) (entry : KtstrTestEntry) (result : VmResult) (merged : Assert)
  (hostExtractFailures : List AssertDetail) (topo : Topology)

/-! The texts that the sections of a report quote. -/

def headerTexts : List String :=
  (schedLogFingerprint (schedLogInput host result)).toList ++ entry.name::
    (if entry.scheduler.binary = .eevdf then [] else [entry.scheduler.binary.displayName]) ++ [topo.text]

def tailTexts (all : List String) : List String :=
  let tail := all.drop (all.length - if all.any fun l => contains l "PANIC:" then all.length else 20)
  [toString tail.length,String.intercalate "\n" tail]

def consoleTexts : List String :=
  let trimmed := trim isWhitespace result.stderr.toList
  if trimmed.isEmpty && result.exitCode == 0 then []
  else
    [classifyInitStage result.guestMessages,toString result.exitCode] ++
      (if result.exitCode < 0 then host.errnoName (-result.exitCode) else none).toList ++
      if trimmed.isEmpty then [] else tailTexts (lines (String.ofList trimmed))

def periodicTexts : List String :=
  if result.periodicTarget = 0 then []
  else
    [toString result.periodicFired,toString result.periodicTarget,
        host.fixedPoint 0 (100 * result.periodicFired / result.periodicTarget)] ++
      if result.periodicFired < result.periodicTarget then [toString (result.periodicTarget - result.periodicFired)] else []

variable (check : AssertResult)

def temporalTexts : List String :=
  let temporal := check.details.filter fun d => d.kind == .temporal
  if temporal.isEmpty then [] else toString temporal.length::temporal.map AssertDetail.message

def cgroupTexts (entry : CgroupStats × Nat) : List String :=
  [toString entry.2,toString entry.1.numWorkers,toString entry.1.numCpus,host.fixedPoint 1 entry.1.spread,
    toString entry.1.maxGapMs,toString entry.1.totalMigrations,toString entry.1.totalIterations]

def statsTexts (s : ScenarioStats) : List String :=
  if s.cgroups.isEmpty then []
  else
    [toString s.totalWorkers,toString s.totalCpus,toString s.totalMigrations,host.fixedPoint 1 s.worstSpread,
        toString s.worstGapMs] ++ s.cgroups.zipIdx.flatMap (cgroupTexts host)

def schedLogTexts : List String :=
  match parseSchedOutput (schedLogInput host result) with
  | none => []
  | some log =>
    let collapsed := host.collapseCycles log
    let all := lines collapsed
    if !(contains collapsed "processed" && contains collapsed "insns") && decide (all.length > 200) then
      [toString (all.length - 200),String.intercalate "\n" (all.drop (all.length - 200))]
    else [collapsed]

def monitorTexts : List String :=
  if entry.scheduler.binary.hasActiveScheduling then
    (result.monitor.map fun monitor => host.monitorLines monitor merged).toList
  else []

def reproTexts : List String :=
  if entry.scheduler.binary.hasActiveScheduling then (host.repro result.output).toList else []

def failedTexts : List String :=
  check.details.map AssertDetail.message ++ statsTexts host check.stats ++
    (if (check.details.any fun d => d.kind == .schedulerDied) || host.verbose then consoleTexts host result else []) ++
    (host.timeline entry result topo).toList ++ periodicTexts host result ++ temporalTexts check ++
    schedLogTexts host result ++ monitorTexts host entry result merged ++ (extractSchedExtDump result.stderr).toList ++
    reproTexts host entry result

def overturnedTexts (monitor : MonitorReport) : List String :=
  (evaluate host.hz merged.monitorThresholds (trimSettleSamples monitor)).details.map host.detailText ++
    (host.timeline entry result topo).toList ++ host.monitorLines monitor merged::schedLogTexts host result ++
    (extractSchedExtDump result.stderr).toList

def exitTexts (event : String × String) : List String := if event.2 = "" then [event.1] else [event.2]

def timeoutTexts : List String :=
  ((host.lastScxExit result.stderr).map exitTexts).getD [] ++
    [host.debugDuration result.duration,host.debugDuration (vmTimeoutFromEntry entry),
      host.debugDuration entry.watchdogTimeout,host.debugDuration entry.duration] ++ result.crashMessage.toList

def crashTexts : List String :=
  match result.crashMessage,extractPanicMessage result.output with
  | some crash,_ => [crash]
  | none,some panic => [panic]
  | none,none =>
    if entry.scheduler.binary.hasActiveScheduling then
      match host.lastScxExit result.stderr with
      | some event => exitTexts event
      | none => (extractExitFromDumpTrace result.stderr).toList
    else []

def closingTexts : List String :=
  (if !(contains result.output schedOutputStart ||
        contains (concatSchedLogChunks host result.guestMessages) schedOutputStart) || host.verbose ||
      entry.scheduler.binary.hasActiveScheduling then consoleTexts host result else []) ++
    (host.timeline entry result topo).toList ++ schedLogTexts host result ++ (extractSchedExtDump result.stderr).toList ++
    monitorTexts host entry result merged ++ reproTexts host entry result

def quoted : List String :=
  headerTexts host entry result topo ++
    match parseAssertResultFromDrain host result.guestMessages with
    | some guest =>
      let check := foldedResult host entry result hostExtractFailures guest
      if !check.passed then failedTexts host entry result merged topo check
      else (result.monitor.map (overturnedTexts host entry result merged topo)).getD []
    | none =>
      (if result.timedOut then timeoutTexts host entry result else crashTexts host entry result) ++
        closingTexts host entry result merged topo

@[simp] theorem insertions_titled (title : String) (body : Option String) :
    insertions (titled title body) = body.toList := by
  cases body <;> rfl

@[simp] theorem insertions_header :
    insertions (header host entry result topo) = headerTexts host entry result topo := by
  have printed : insertions (fingerprintLine host result) =
      (schedLogFingerprint (schedLogInput host result)).toList := by
    unfold fingerprintLine
    split
    · next absent => simp [absent]
    · next found => split <;> simp [found]
  have label : insertions (schedulerLabel entry.scheduler.binary) =
      if entry.scheduler.binary = .eevdf then [] else [entry.scheduler.binary.displayName] := by
    unfold schedulerLabel
    split <;> simp
  simp [header,headerTexts,printed,label]

@[simp] theorem insertions_console : insertions (consoleSection host result) = consoleTexts host result := by
  have exited : insertions (exitLabel host result.exitCode) = toString result.exitCode::
      (if result.exitCode < 0 then host.errnoName (-result.exitCode) else none).toList := by
    unfold exitLabel
    cases if result.exitCode < 0 then host.errnoName (-result.exitCode) else none <;> simp
  have shown (trimmed : List Char) : insertions (consoleTail result.stderr trimmed) =
      tailTexts (lines (String.ofList trimmed)) := by
    unfold consoleTail
    rw [insertions_fill,take_of_length_le (by simp)]
    rfl
  unfold consoleSection formatConsoleDiagnostics consoleTexts
  dsimp only
  split
  · rfl
  · split <;> simp [exited,shown]

@[simp] theorem insertions_periodic :
    insertions (formatPeriodicSamplesSection host result) = periodicTexts host result := by
  unfold formatPeriodicSamplesSection periodicTexts missingSamples
  dsimp only
  split
  · rfl
  · split <;> simp

@[simp] theorem insertions_temporal : insertions (formatTemporalAssertionsSection check) = temporalTexts check := by
  unfold formatTemporalAssertionsSection temporalTexts
  dsimp only
  split
  · rfl
  · simp [map_eq_flatMap]

@[simp] theorem insertions_stats : insertions (statsSection host check) = statsTexts host check.stats := by
  unfold statsSection statsTexts
  split
  · rfl
  · have each : (fun entry => insertions (cgroupLine host entry)) = cgroupTexts host :=
      funext fun _ => insertions_fill
    simp [totalsLine,each]

@[simp] theorem insertions_schedLog : insertions (schedLogSection host result) = schedLogTexts host result := by
  unfold schedLogSection schedLogTexts
  cases parseSchedOutput (schedLogInput host result) with
  | none => rfl
  | some log =>
    unfold schedLogTail
    dsimp only
    split <;> simp

@[simp] theorem insertions_monitor :
    insertions (monitorSection host entry result merged) = monitorTexts host entry result merged := by
  unfold monitorSection monitorTexts
  split <;> simp

@[simp] theorem insertions_repro : insertions (reproSection host entry result) = reproTexts host entry result := by
  unfold reproSection reproTexts
  split <;> simp

theorem insertions_timeout :
    insertions (timeoutReason host result) = ((host.lastScxExit result.stderr).map exitTexts).getD [] := by
  unfold timeoutReason exitTexts
  split
  · next found => split <;> simp_all
  · next absent => simp [absent]

theorem insertions_noResult : insertions (noResultReason host entry result) = crashTexts host entry result := by
  unfold noResultReason crashTexts
  cases result.crashMessage with
  | some crash => simp
  | none =>
    cases extractPanicMessage result.output with
    | some panic => simp
    | none =>
      dsimp only
      split
      · cases host.lastScxExit result.stderr with
        | some event =>
          unfold exitTexts
          dsimp only
          split <;> simp
        | none => cases extractExitFromDumpTrace result.stderr <;> simp
      · simp

variable {report : List Piece}

theorem insertions_report
    (failed : (evaluateReport host entry result merged hostExtractFailures topo).1 = .error report) :
    insertions report = quoted host entry result merged hostExtractFailures topo := by
  unfold evaluateReport at failed
  unfold quoted
  cases parsed : parseAssertResultFromDrain host result.guestMessages with
  | some guest =>
    rw [parsed] at failed
    dsimp only at failed ⊢
    split at failed
    · next bad =>
      obtain rfl := error.inj failed
      rw [if_pos bad]
      simp [failedReport,failedTexts,timelineSection,dumpSection,apply_ite insertions]
    · next good =>
      rw [if_neg good]
      split at failed
      · next monitor verdict judged =>
        split at failed
        · obtain rfl := error.inj failed
          unfold monitorVerdict at judged
          split at judged
          · obtain ⟨found,present,same⟩ := Option.map_eq_some_iff.mp judged
            obtain ⟨rfl,rfl⟩ := Prod.mk.inj same
            simp [present,monitorReport,overturnedTexts,timelineSection,dumpSection]
          · exact absurd judged (by simp)
        · exact absurd failed (by simp)
      · exact absurd failed (by simp)
  | none =>
    rw [parsed] at failed
    dsimp only at failed ⊢
    split at failed
    · next late =>
      obtain rfl := error.inj failed
      rw [if_pos late]
      simp [timeoutReport,timeoutTexts,closingTexts,timelineSection,dumpSection,watchdogSection,insertions_timeout,
        apply_ite insertions]
    · next early =>
      obtain rfl := error.inj failed
      rw [if_neg early]
      simp [noResultReport,closingTexts,timelineSection,dumpSection,insertions_noResult,apply_ite insertions]

def timedOutWithoutResult : Bool := (parseAssertResultFromDrain host result.guestMessages).isNone && result.timedOut

/-- A quoted text names a CPU or an LLC, and a text speaks of need: one that is quoted, or the hint of a timeout. -/
def ReadsAsSkip : Prop :=
  (timedOutWithoutResult host result = true ∨
    ∃ text ∈ quoted host entry result merged hostExtractFailures topo, contains text "need" = true) ∧
  ∃ text ∈ quoted host entry result merged hostExtractFailures topo,
    contains text "LLC" = true ∨ contains text "CPU" = true

theorem over_marks {word : String} (listed : word ∈ words) : (∀ c ∈ word.toList, c ∈ marks) ∧ word ≠ "" := by
  have all : (words.all fun word => word.toList.all marks.contains && word != "") := by decide
  simpa using all_eq_true.mp all word listed

theorem insufficient_iff (whole : Report ["LLC","CPU"] report) : isTopologyInsufficient (bail report) ↔
      (fixedContains "need" report ∨ ∃ text ∈ insertions report, contains text "need") ∧
        ∃ text ∈ insertions report, contains text "LLC" ∨ contains text "CPU" := by
  have rendered : (bail report).rendered = render report := rfl
  have found (word : String) (listed : word ∈ words) := contains_render_iff whole.seams
    (over_marks listed).1 (over_marks listed).2
  rw [isTopologyInsufficient,rendered,Bool.and_eq_true,Bool.or_eq_true,found "need" (by decide),
    found "LLC" (by decide),found "CPU" (by decide),whole.silent "LLC" (by decide),whole.silent "CPU" (by decide)]
  simp only [Bool.false_eq_true,false_or,and_or_left,exists_or]

theorem Report.fewer (whole : Report words report) : Report ["LLC","CPU"] report :=
  ⟨whole.seams,fun word listed => whole.silent word (by revert listed; simp [words]; tauto)⟩

theorem report_of_evaluation
    (failed : (evaluateReport host entry result merged hostExtractFailures topo).1 = .error report) :
    Report ["LLC","CPU"] report ∧ fixedContains "need" report = timedOutWithoutResult host result := by
  unfold evaluateReport at failed
  unfold timedOutWithoutResult
  split at failed
  · next guest parsed =>
    rw [parsed]
    dsimp only at failed
    split at failed
    · obtain rfl := error.inj failed
      have whole := report_failed host entry result merged topo (foldedResult host entry result hostExtractFailures guest)
      exact ⟨whole.fewer,whole.silent "need" (by decide)⟩
    · split at failed
      · next monitor verdict judged =>
        split at failed
        · obtain rfl := error.inj failed
          have whole := report_monitor host entry result merged topo monitor verdict.details
          exact ⟨whole.fewer,whole.silent "need" (by decide)⟩
        · exact absurd failed (by simp)
      · exact absurd failed (by simp)
  · next unparsed =>
    rw [unparsed]
    have shown (on : Bool) : Block words (if on then consoleSection host result else []) := by
      cases on with
      | true => exact (sections host entry result merged topo).console _ _ _
      | false => exact Block.nil
    split at failed
    · next late =>
      obtain rfl := error.inj failed
      rw [late,timeout_hints]
      exact ⟨report_timeout host entry result merged topo (shown _),rfl⟩
    · next early =>
      obtain rfl := error.inj failed
      have whole (on : Bool) := report_noResult host entry result merged topo (shown on)
      rw [Bool.not_eq_true] at early
      rw [early]
      exact ⟨(whole _).fewer,(whole _).silent "need" (by decide)⟩

theorem error_of_evaluation (e : AnyhowError)
    (failed : (evaluateVmResult host entry result merged hostExtractFailures topo).1 = .error e) :
    isResourceContention e = false ∧
      (isTopologyInsufficient e ↔ ReadsAsSkip host entry result merged hostExtractFailures topo) := by
  cases outcome : (evaluateReport host entry result merged hostExtractFailures topo).1 with
  | ok verdict =>
    simp only [evaluateVmResult,outcome,Except.mapError] at failed
    exact absurd failed (by simp)
  | error report =>
    simp only [evaluateVmResult,outcome] at failed
    obtain rfl := error.inj failed
    obtain ⟨whole,hint⟩ := report_of_evaluation host entry result merged hostExtractFailures topo outcome
    refine ⟨rfl,?_⟩
    rw [insufficient_iff whole,hint,insertions_report host entry result merged hostExtractFailures topo outcome,
      ReadsAsSkip]

/-- A failed run exits with one, whatever the skip mode, exactly when its texts do not read as a host topology error. -/
theorem failed_run_exits_one_iff (e : AnyhowError) (plain : entry.expectErr = false)
    (failed : (evaluateVmResult host entry result merged hostExtractFailures topo).1 = .error e) :
    (∀ noSkip, resultToExitCode noSkip (.error e) entry.expectErr = 1) ↔
      ¬ ReadsAsSkip host entry result merged hostExtractFailures topo := by
  obtain ⟨uncontended,told⟩ := error_of_evaluation host entry result merged hostExtractFailures topo e failed
  rw [← told,plain]
  cases insufficient : isTopologyInsufficient e with
  | false => simp [resultToExitCode,uncontended,insufficient]
  | true => simp [resultToExitCode,insufficient]

end

/-- A host that renders nothing of its own and decodes every payload as a failed check. -/
def plainHost : Host where
  verbose := false
  stderrColor := false
  hz := 1000
  workType := "SpinWait"
  decodeResult _ := some (AssertResult.fail ⟨.starved,"worker starved"⟩)
  fromUtf8Lossy _ := ""
  fixedPoint _ _ := "0"
  debugDuration _ := "0ns"
  errnoName _ := none
  collapseCycles log := log
  lastScxExit _ := none
  timeline _ _ _ := none
  monitorLines _ _ := ""
  detailText _ := ""
  repro _ := none

def oneCpu : Topology := { llcs := 1, coresPerLlc := 1, threadsPerCore := 1, numaNodes := 1 }

def lockupTest : KtstrTestEntry where
  name := "lockup"
  topology := oneCpu
  memoryMb := 256
  scheduler := ⟨"eevdf",.eevdf,[],[]⟩
  watchdogTimeout := 1
  duration := 1

def lockup : VmResult := { timedOut := true, crashMessage := some "soft lockup - CPU#0 stuck" }

def starved : VmResult := { guestMessages := some [⟨msgTypeTestResult,[],true⟩] }

theorem starved_run_exits_one : ∃ e, (evaluateVmResult plainHost lockupTest starved {} [] oneCpu).1 = .error e ∧
    ∀ noSkip, resultToExitCode noSkip (.error e) lockupTest.expectErr = 1 := by
  refine ⟨_,rfl,(failed_run_exits_one_iff plainHost lockupTest starved {} [] oneCpu _ rfl rfl).mpr ?_⟩
  rintro ⟨-,names⟩
  revert names
  decide +kernel

/-- A guest that locks up until the watchdog ends the run: the crash names a CPU, the hint of the report speaks of
need, and the run is taken for a host that is too small. -/
theorem lockup_exits_zero : ∃ e, (evaluateVmResult plainHost lockupTest lockup {} [] oneCpu).1 = .error e ∧
    lockupTest.expectErr = false ∧ resultToExitCode false (.error e) lockupTest.expectErr = 0 := by
  refine ⟨_,rfl,rfl,?_⟩
  obtain ⟨uncontended,told⟩ := error_of_evaluation plainHost lockupTest lockup {} [] oneCpu _ rfl
  have crash : "soft lockup - CPU#0 stuck" ∈ quoted plainHost lockupTest lockup {} [] oneCpu := by
    simp [quoted,parseAssertResultFromDrain,lockup,timeoutTexts]
  have skips := told.mpr ⟨Or.inl rfl,_,crash,Or.inr (by decide +kernel)⟩
  simp only [resultToExitCode,skips]
  rfl

end Ktstr.ExitCodes
