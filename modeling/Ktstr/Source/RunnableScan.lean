import Ktstr.Source.BpfMaps

/-! The scan for the longest waiting task, from `monitor/runnable_scan.rs`: the list of all tasks, the list of each run
queue and the watchdog's timestamp. -/
namespace Ktstr.Source.RunnableScan
open Library.Words Reader BpfMaps

structure RunnableScanOffsets where
  taskStructScx : Nat
  tasksNode : Nat
  flags : Nat
  runnableAt : Nat
  runnableNode : Nat
  rqScx : Nat
  runnableList : Nat

def scxTaskQueued : Nat := 1 <<< 0
def scxTaskResetRunnableAt : Nat := 1 <<< 2
def scxTaskCursor : Nat := 1 <<< 31

def maxNodes : Nat := 65536

def sanityCapJiffies : Nat := 86400000

/-- The guest's memory with the `WalkContext` its addresses are translated in. -/
structure Guest where
  arch : Arch
  mem : GuestMem
  cr3Pa : Nat
  pageOffset : Nat
  l5 : Bool
  tcrEl1 : Nat

variable (guest : Guest) (offsets : RunnableScanOffsets) (jiffies : Nat)

def Guest.translate (kva : Nat) : Option Nat :=
  translateAnyKva guest.arch guest.mem guest.cr3Pa guest.pageOffset kva guest.l5 guest.tcrEl1

/-- The age of the task whose embedded node is at the given offset. -/
def taskAge (nodeOff nodeKva : Nat) : Nat :=
  let taskKva := wrappingSub nodeKva (offsets.taskStructScx + nodeOff)
  match guest.translate (wrappingAdd taskKva (offsets.taskStructScx + offsets.runnableAt)) with
  | some pa => if readU64 guest.mem pa 0 = 0 then 0 else jiffies - readU64 guest.mem pa 0
  | none => 0

def globalAge (nodeKva : Nat) : Nat :=
  match guest.translate (wrappingSub nodeKva offsets.tasksNode) with
  | some seePa =>
    let flags := readU32 guest.mem seePa offsets.flags
    if flags &&& scxTaskCursor = 0 ∧ flags &&& scxTaskQueued ≠ 0 ∧ flags &&& scxTaskResetRunnableAt = 0 then
      taskAge guest offsets jiffies offsets.tasksNode nodeKva
    else 0
  | none => 0

def nextNode (nodeKva : Nat) : Option Nat :=
  (guest.translate nodeKva).bind fun pa => if readU64 guest.mem pa 0 = 0 then none else some (readU64 guest.mem pa 0)

/-- The loop of both lists, with what is left of `MAX_NODES`. -/
def walkNodes (age : Nat → Nat) (headKva : Nat) : Nat → Nat → Nat → Nat
  | 0,_,maxAge => maxAge
  | left + 1,nodeKva,maxAge =>
    if nodeKva = headKva then maxAge
    else
      (nextNode guest nodeKva).elim (max maxAge (age nodeKva)) fun next =>
        walkNodes age headKva left next (max maxAge (age nodeKva))

def walkFrom (age : Nat → Nat) (headPa headKva : Nat) : Nat :=
  if readU64 guest.mem headPa 0 = 0 then 0 else walkNodes guest age headKva maxNodes (readU64 guest.mem headPa 0) 0

def maxRunnableAgeGlobal (scxTasksKva startKernelMap physBase : Nat) : Nat :=
  if scxTasksKva = 0 then 0
  else walkFrom guest (globalAge guest offsets jiffies) (textKvaToPaWithBase scxTasksKva startKernelMap physBase) scxTasksKva

def rqHeadPa (rqPa : Nat) : Nat := wrappingAdd rqPa (offsets.rqScx + offsets.runnableList)

def maxRunnableAgePerRq (rqPa : Nat) : Nat :=
  if rqPa = 0 then 0
  else
    walkFrom guest (taskAge guest offsets jiffies offsets.runnableNode) (rqHeadPa offsets rqPa)
      (wrappingAdd (rqHeadPa offsets rqPa) guest.pageOffset)

def watchdogAge : Option Nat → Nat
  | some pa =>
    let timestamp := readU64 guest.mem pa 0
    if timestamp = 0 then 0 else if jiffies - timestamp > sanityCapJiffies then 0 else jiffies - timestamp
  | none => 0

def maxRunnableAge (scxTasksKva : Nat) (rqPas : List Nat) (watchdogTimestampPa : Option Nat)
    (startKernelMap physBase : Nat) : Nat :=
  let perRqMax := rqPas.foldl (fun age rqPa => max age (maxRunnableAgePerRq guest offsets jiffies rqPa)) 0
  max (max (maxRunnableAgeGlobal guest offsets jiffies scxTasksKva startKernelMap physBase) perRqMax)
    (watchdogAge guest jiffies watchdogTimestampPa)

end Ktstr.Source.RunnableScan
