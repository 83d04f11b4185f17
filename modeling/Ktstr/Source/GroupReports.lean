import Ktstr.Source.Collect

/-! Reports of `stop_and_collect` and the groups they are filed under, from `workload/spawn/mod.rs`: forked workers, threads
of the process itself, and a container that sends the reports of its threads as one list, in the order they ended. -/
namespace Ktstr.Source.GroupReports
open Collect

inductive WorkerExitInfo
  | exited (code : Int)
  | signaled (signal : Int)
  | timedOut
  | waitFailed (message : String)
  | panicked (message : String)

structure WorkerReport where
  tid : Int := 0
  completed : Bool := false
  exitInfo : Option WorkerExitInfo := none
  groupIdx : Nat := 0

/-- The end of a worker thread: its report, or the message of its panic. -/
abbrev Joined := Except String WorkerReport

def reportFormat (codecs : Format WorkerReport WorkerExitInfo) : Format WorkerReport WorkerExitInfo :=
  {codecs with sentinel := fun pid groupIdx exitInfo => {tid := pid,groupIdx := groupIdx,exitInfo := some exitInfo}}

def containerReport : Joined → WorkerReport
  | .ok report => report
  | .error message => {completed := false,exitInfo := some (.panicked message)}

/-- A thread that does not end in time has no result. -/
def threadReport (tid : Int) : Option Joined → WorkerReport
  | some (.ok report) => report
  | some (.error message) => {tid := tid,completed := false,exitInfo := some (.panicked message)}
  | none => {tid := tid,completed := false,exitInfo := some .timedOut}

/-- The groups of the workers, in the order they are started. -/
def workers (groups : List (Nat × Nat)) : List Nat := groups.flatMap fun (gi,n) => List.replicate n gi

theorem workers_length (groups : List (Nat × Nat)) : (workers groups).length = (groups.map Prod.snd).sum := by
  simp [workers]

/-- A forked worker, what was read from its pipe and how it ended. -/
structure ForkedWorker where
  groupIdx : Nat
  pid : Int
  report : WorkerReport
  buf : List UInt8
  exitInfo : WorkerExitInfo

variable (codecs : Format WorkerReport WorkerExitInfo) (groups : List (Nat × Nat))

/-- What became of the workers of one handle. A report that was delivered carries the group its worker was started for; a
list that was decoded, be it short or long, agrees with the container's as far as both go. -/
inductive Workload
  | fork (children : List ForkedWorker) (started : children.map ForkedWorker.groupIdx = workers groups)
    (carried : ∀ child ∈ children, ∀ report, codecs.decodeOne (stripReady child.buf) = some report →
      report.groupIdx = child.groupIdx)
  | thread (threads : List (Nat × Int × Option Joined)) (started : threads.map Prod.fst = workers groups)
    (carried : ∀ thread ∈ threads, ∀ report, thread.2.2 = some (.ok report) → report.groupIdx = thread.1)
  | container (pid : Int) (exits : List (Nat × Joined)) (buf : List UInt8) (exitInfo : WorkerExitInfo)
    (started : (exits.map Prod.fst).Perm (workers groups))
    (carried : ∀ exit ∈ exits, ∀ report, exit.2 = .ok report → report.groupIdx = exit.1)
    (sent : ∀ decoded, codecs.decodeAll (stripReady buf) = some decoded →
      decoded.take exits.length = (exits.take decoded.length).map (containerReport ·.2))

variable {codecs groups}

def Workload.stopAndCollect : Workload codecs groups → List WorkerReport
  | .fork children _ _ => children.flatMap fun child =>
    (ForkedChild.decode (reportFormat codecs) ⟨child.pid,.worker child.groupIdx child.report⟩ child.buf child.exitInfo).reports
  | .thread threads _ _ => threads.map fun (_,tid,joined) => threadReport tid joined
  | .container pid exits buf exitInfo started _ _ =>
    (ForkedChild.decode (reportFormat codecs) ⟨pid,.pcommContainer ⟨groups,exits.map (containerReport ·.2),by
      rw [← workers_length,← started.length_eq,List.length_map,List.length_map]⟩⟩ buf exitInfo).reports

end Ktstr.Source.GroupReports
