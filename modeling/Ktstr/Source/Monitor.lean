import Ktstr.Library.Machine
import Mathlib.Data.Rat.Floor

/-! Threshold evaluation of `monitor/mod.rs` and the stuck test of `monitor/reader.rs`.
Ratios and rates are exact rationals; counters are 64-bit and wrap. -/
namespace Ktstr.Source.Monitor
open Library.Machine

structure ScxEventCounters where
  selectCpuFallback : Int := 0
  dispatchLocalDsqOffline : Int := 0
  dispatchKeepLast : Int := 0
  enqSkipExiting : Int := 0
  enqSkipMigrationDisabled : Int := 0
  reenqImmed : Int := 0
  reenqLocalRepeat : Int := 0
  refillSliceDfl : Int := 0
  bypassDuration : Int := 0
  bypassDispatch : Int := 0
  bypassActivate : Int := 0
  insertNotOwned : Int := 0
  subBypassDispatch : Int := 0
deriving DecidableEq

structure CpuSnapshot where
  nrRunning : Nat := 0
  localDsqDepth : Nat := 0
  rqClock : Nat := 0
  eventCounters : Option ScxEventCounters := none
  vcpuCpuTimeNs : Option Nat := none
deriving DecidableEq

structure MonitorSample where
  elapsedMs : Nat
  cpus : List CpuSnapshot
deriving DecidableEq

structure MonitorReport where
  samples : List MonitorSample
  preemptionThresholdNs : Nat

structure MonitorThresholds where
  maxImbalanceRatio : ℚ
  maxLocalDsqDepth : Nat
  failOnStall : Bool
  sustainedSamples : Nat
  maxFallbackRate : ℚ
  maxKeepLastRate : ℚ
  enforce : Bool

structure SustainedViolationTracker where
  consecutive : Nat := 0
  worstRun : Nat := 0
  worstValue : ℚ := 0
  worstAt : Nat := 0

def SustainedViolationTracker.record (self : SustainedViolationTracker) (violated : Bool) (value : ℚ) (index : Nat) :
    SustainedViolationTracker :=
  if violated then
    let consecutive := self.consecutive + 1
    if consecutive > self.worstRun then ⟨consecutive,consecutive,value,index⟩
    else {self with consecutive := consecutive}
  else {self with consecutive := 0}

def SustainedViolationTracker.sustained (self : SustainedViolationTracker) (threshold : Nat) : Bool :=
  decide (self.worstRun ≥ threshold)

def u32Max : Nat := 4294967295

def imbalanceRatio (self : MonitorSample) : ℚ :=
  if self.cpus.isEmpty then 1
  else
    let minNr := self.cpus.foldl (fun least cpu => min least cpu.nrRunning) u32Max
    let maxNr := self.cpus.foldl (fun most cpu => max most cpu.nrRunning) 0
    (maxNr : ℚ) / (max minNr 1 : Nat)

def sumEventField (self : MonitorSample) (field : ScxEventCounters → Int) : Option Int :=
  let (total,any) := self.cpus.foldl (fun acc cpu =>
    match cpu.eventCounters with
    | some counters => (wrapI64 (acc.1 + field counters),true)
    | none => acc) ((0 : Int),false)
  if any then some total else none

def evaluatePreempted (prev curr : Option Nat) (thresholdNs : Nat) : Bool :=
  match prev,curr with
  | some p,some c => decide (c - p < thresholdNs)
  | _,_ => false

def isCpuStuck (prev curr : CpuSnapshot) (preemptionThresholdNs : Nat) : Bool :=
  if curr.rqClock = 0 ∨ curr.rqClock ≠ prev.rqClock then false
  else if curr.nrRunning = 0 ∧ prev.nrRunning = 0 then false
  else !evaluatePreempted prev.vcpuCpuTimeNs curr.vcpuCpuTimeNs preemptionThresholdNs

def preemptionTickMultiple : Nat := 10

variable (hz : Nat) (field : ScxEventCounters → Int)

/-- `hz` is the tick rate of the host kernel, which stands in for the guest's. -/
def vcpuPreemptionThresholdNs : Nat := 1000000000 / hz * preemptionTickMultiple

def dsqPlausibilityCeiling : Nat := 10000

def sampleLooksValid (sample : MonitorSample) : Bool :=
  sample.cpus.all fun cpu => decide (cpu.localDsqDepth ≤ dsqPlausibilityCeiling)

variable (samples : List MonitorSample)

/-- Implausible depths, or more than one clock reading and all of them equal, mean that
the guest has not initialised the memory yet. -/
def dataLooksValid : Bool :=
  let clocks := samples.flatMap fun sample => sample.cpus.map CpuSnapshot.rqClock
  samples.all sampleLooksValid &&
    match clocks with
    | [] => true
    | first::rest => !(rest.all (· == first) && decide (clocks.length > 1))

inductive Detail
  | imbalance (worstValue threshold : ℚ) (worstRun worstAt : Nat)
  | localDsq (depth cpu threshold worstRun worstAt : Nat)
  | stall (cpu worstRun worstAt clock : Nat)
  | fallbackRate (worstValue threshold : ℚ) (worstRun worstAt : Nat)
  | keepLastRate (worstValue threshold : ℚ) (worstRun worstAt : Nat)
deriving DecidableEq

structure MonitorVerdict where
  passed : Bool
  details : List Detail
  summary : String

def intervals : List ((MonitorSample × MonitorSample) × Nat) :=
  (samples.zip samples.tail).zipIdx 1

def worstDsq (maxDepth : Nat) (cpus : List CpuSnapshot) : Bool × Nat × Nat :=
  cpus.zipIdx.foldl (fun acc entry =>
    if entry.1.localDsqDepth > maxDepth ∧ entry.1.localDsqDepth > acc.2.1 then
      (true,entry.1.localDsqDepth,entry.2)
    else acc) (false,0,0)

structure DepthTrackers where
  imbalance : SustainedViolationTracker := {}
  dsq : SustainedViolationTracker := {}
  worstDsqCpu : Nat := 0

variable (thresholds : MonitorThresholds)

def recordSample (self : DepthTrackers) (entry : MonitorSample × Nat) : DepthTrackers :=
  let (sample,i) := entry
  if sample.cpus.isEmpty then
    {self with imbalance := self.imbalance.record false 0 i,dsq := self.dsq.record false 0 i}
  else
    let ratio := imbalanceRatio sample
    let (violated,depth,cpu) := worstDsq thresholds.maxLocalDsqDepth sample.cpus
    let dsq := self.dsq.record violated depth i
    { imbalance := self.imbalance.record (decide (ratio > thresholds.maxImbalanceRatio)) ratio i
      dsq := dsq
      worstDsqCpu := if violated ∧ dsq.worstValue = depth then cpu else self.worstDsqCpu }

/-- One interval of the stall loop: the CPUs that both samples have are recorded, the
trackers of the others are left as they are. -/
def recordStalls (threshold : Nat) (stall : List SustainedViolationTracker)
    (interval : (MonitorSample × MonitorSample) × Nat) : List SustainedViolationTracker :=
  let ((prev,curr),i) := interval
  let cpuCount := min prev.cpus.length curr.cpus.length
  stall.zipIdx.map fun entry =>
    if entry.2 < cpuCount then
      let before := prev.cpus[entry.2]?.getD {}
      let after := curr.cpus[entry.2]?.getD {}
      entry.1.record (isCpuStuck before after threshold) after.rqClock i
    else entry.1

variable (report : MonitorReport)

def stallThreshold : Nat :=
  if report.preemptionThresholdNs > 0 then report.preemptionThresholdNs else vcpuPreemptionThresholdNs hz

def numCpus : Nat := (samples.map fun sample => sample.cpus.length).foldl max 0

def stallTrackers : List SustainedViolationTracker :=
  (intervals report.samples).foldl (recordStalls (stallThreshold hz report))
    (List.replicate (numCpus report.samples) {})

def eventRate (prev curr : MonitorSample) : Option ℚ :=
  let elapsedMs := curr.elapsedMs - prev.elapsedMs
  if elapsedMs = 0 then none
  else
    match sumEventField prev field,sumEventField curr field with
    | some before,some after => some ((wrapI64 (after - before) : ℚ) / ((elapsedMs : ℚ) / 1000))
    | _,_ => none

def recordRate (limit : ℚ) (tracker : SustainedViolationTracker) (interval : (MonitorSample × MonitorSample) × Nat) :
    SustainedViolationTracker :=
  match eventRate field interval.1.1 interval.1.2 with
  | some rate => tracker.record (decide (rate > limit)) rate interval.2
  | none => tracker.record false 0 interval.2

def rateTracker (limit : ℚ) (samples : List MonitorSample) : SustainedViolationTracker :=
  (intervals samples).foldl (recordRate field limit) {}

def stallDetails (k : Nat) (stall : List SustainedViolationTracker) : List Detail :=
  stall.zipIdx.filterMap fun entry =>
    if entry.1.sustained k then
      some (.stall entry.2 entry.1.worstRun entry.1.worstAt entry.1.worstValue.floor.toNat)
    else none

def evaluateDetails : List Detail :=
  let k := thresholds.sustainedSamples
  let depth := report.samples.zipIdx.foldl (recordSample thresholds) {}
  let fallback := rateTracker ScxEventCounters.selectCpuFallback thresholds.maxFallbackRate report.samples
  let keepLast := rateTracker ScxEventCounters.dispatchKeepLast thresholds.maxKeepLastRate report.samples
  (if depth.imbalance.sustained k then
      [.imbalance depth.imbalance.worstValue thresholds.maxImbalanceRatio depth.imbalance.worstRun
        depth.imbalance.worstAt]
    else []) ++
  (if depth.dsq.sustained k then
      [.localDsq depth.dsq.worstValue.floor.toNat depth.worstDsqCpu thresholds.maxLocalDsqDepth depth.dsq.worstRun
        depth.dsq.worstAt]
    else []) ++
  (if thresholds.failOnStall then stallDetails k (stallTrackers hz report) else []) ++
  (if fallback.sustained k then
      [.fallbackRate fallback.worstValue thresholds.maxFallbackRate fallback.worstRun fallback.worstAt]
    else []) ++
  (if keepLast.sustained k then
      [.keepLastRate keepLast.worstValue thresholds.maxKeepLastRate keepLast.worstRun keepLast.worstAt]
    else [])

/-- `failed` is set exactly where a detail is pushed. -/
def evaluate : MonitorVerdict :=
  if report.samples.isEmpty then ⟨true,[],"no monitor samples"⟩
  else if !dataLooksValid report.samples then ⟨true,[],"monitor data not yet initialized"⟩
  else
    let details := evaluateDetails hz thresholds report
    let failed := !details.isEmpty
    let count := toString details.length
    ⟨!failed || !thresholds.enforce,details,
      if failed then
        if thresholds.enforce then "monitor FAILED: " ++ count ++ " violation(s)"
        else
          "monitor flagged " ++ count ++
            " violation(s) (report-only; pass \x60Assert::with_monitor_defaults\x60 to enforce)"
      else "monitor OK"⟩

def counterDelta (last first : Int) : Int := max (wrapI64 (last - first)) 0

structure ScxEventDeltas where
  totalFallback : Int
  fallbackRate : ℚ
  maxFallbackBurst : Int
  totalDispatchOffline : Int
  totalDispatchKeepLast : Int
  keepLastRate : ℚ
  totalEnqSkipExiting : Int
  totalEnqSkipMigrationDisabled : Int
  totalReenqImmed : Int
  totalReenqLocalRepeat : Int
  totalRefillSliceDfl : Int
  totalBypassDuration : Int
  totalBypassDispatch : Int
  totalBypassActivate : Int
  totalInsertNotOwned : Int
  totalSubBypassDispatch : Int

def hasEvents (sample : MonitorSample) : Bool := sample.cpus.any fun cpu => cpu.eventCounters.isSome

/-- Largest step of the counter between adjacent samples; one without counters reads as zero. -/
def fallbackBurst : Int :=
  (samples.zip samples.tail).foldl (fun burst w =>
    let prevSum := (sumEventField w.1 ScxEventCounters.selectCpuFallback).getD 0
    let currSum := (sumEventField w.2 ScxEventCounters.selectCpuFallback).getD 0
    let delta := counterDelta currSum prevSum
    if delta > burst then delta else burst) 0

def computeEventDeltas : Option ScxEventDeltas :=
  match samples.find? hasEvents,samples.reverse.find? hasEvents with
  | some first,some last =>
    let delta (field : ScxEventCounters → Int) : Int :=
      counterDelta ((sumEventField last field).getD 0) ((sumEventField first field).getD 0)
    let totalFallback := delta ScxEventCounters.selectCpuFallback
    let totalKeepLast := delta ScxEventCounters.dispatchKeepLast
    let durationSecs : ℚ := ((last.elapsedMs - first.elapsedMs : Nat) : ℚ) / 1000
    some
      { totalFallback := totalFallback
        fallbackRate := if durationSecs > 0 then totalFallback / durationSecs else 0
        maxFallbackBurst := fallbackBurst samples
        totalDispatchOffline := delta ScxEventCounters.dispatchLocalDsqOffline
        totalDispatchKeepLast := totalKeepLast
        keepLastRate := if durationSecs > 0 then totalKeepLast / durationSecs else 0
        totalEnqSkipExiting := delta ScxEventCounters.enqSkipExiting
        totalEnqSkipMigrationDisabled := delta ScxEventCounters.enqSkipMigrationDisabled
        totalReenqImmed := delta ScxEventCounters.reenqImmed
        totalReenqLocalRepeat := delta ScxEventCounters.reenqLocalRepeat
        totalRefillSliceDfl := delta ScxEventCounters.refillSliceDfl
        totalBypassDuration := delta ScxEventCounters.bypassDuration
        totalBypassDispatch := delta ScxEventCounters.bypassDispatch
        totalBypassActivate := delta ScxEventCounters.bypassActivate
        totalInsertNotOwned := delta ScxEventCounters.insertNotOwned
        totalSubBypassDispatch := delta ScxEventCounters.subBypassDispatch }
  | some _,none => none
  | none,_ => none

end Ktstr.Source.Monitor
