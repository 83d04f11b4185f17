import Mathlib.Algebra.Order.Ring.Int
import Mathlib.Data.Finset.Card
import Mathlib.Data.List.Sort

/-! Planning of LLC reservations, from `vmm/host_topology/mod.rs`: which LLCs a run looks at,
which it selects for a CPU budget, and the CPUs it takes from them. A hash map iterates in
an order of its own; every iteration of one takes that order as an argument. -/
namespace Ktstr.Source.Topology
open Std

structure LlcGroup where
  cpus : List Nat

structure HostTopology where
  llcGroups : List LlcGroup
  cpuToNode : Nat → Option Nat
  hostNodeLlcs : ExtTreeMap Nat (List Nat)

abbrev Iteration := List (Nat × Nat) → List (Nat × Nat)

def nodeOfCpu (cpuToNode : Nat → Option Nat) (cpu : Nat) : Nat := (cpuToNode cpu).getD 0

def nodeCounts (cpuToNode : Nat → Option Nat) (group : LlcGroup) : List (Nat × Nat) :=
  let nodes := group.cpus.map (nodeOfCpu cpuToNode)
  nodes.dedup.map fun node => (node,nodes.count node)

def maxByKey (entries : List (Nat × Nat)) : Option (Nat × Nat) :=
  entries.foldl (fun best entry =>
    match best with
    | none => some entry
    | some held => if held.2 ≤ entry.2 then some entry else some held) none

def majorityNode (order : Iteration) (counts : List (Nat × Nat)) : Nat :=
  ((maxByKey (order counts)).map Prod.fst).getD 0

def computeHostNodeLlcs (orders : Nat → Iteration) (llcGroups : List LlcGroup) (cpuToNode : Nat → Option Nat) :
    ExtTreeMap Nat (List Nat) :=
  llcGroups.zipIdx.foldl (fun nodeLlcs entry =>
    nodeLlcs.alter (majorityNode (orders entry.2) (nodeCounts cpuToNode entry.1)) fun llcs =>
      -- Indices arrive in ascending order, as the final sort of each list leaves them.
      some (llcs.getD [] ++ [entry.2])) ∅

def HostTopology.build (orders : Nat → Iteration) (llcGroups : List LlcGroup) (cpuToNode : Nat → Option Nat) :
    HostTopology :=
  ⟨llcGroups,cpuToNode,computeHostNodeLlcs orders llcGroups cpuToNode⟩

section
variable (topo : HostTopology)

def groupAt (llcIdx : Nat) : LlcGroup := topo.llcGroups.getD llcIdx ⟨[]⟩

def llcNumaNode (order : Iteration) (llcIdx : Nat) : Nat :=
  majorityNode order (nodeCounts topo.cpuToNode (groupAt topo llcIdx))

def nearer (first second : Nat × Nat) : Bool :=
  match first.2 == 255,second.2 == 255 with
  | true,false => false
  | false,true => true
  | _,_ => first.2 ≤ second.2

def numaNodesSortedByDistance (anchor : Nat) (distance : Nat → Nat → Nat) : List Nat :=
  ((topo.hostNodeLlcs.keys.map fun node => (node,distance anchor node)).mergeSort nearer).map Prod.fst

structure LlcSnapshot where
  llcIdx : Nat
  holderCount : Nat
deriving DecidableEq

variable (allowed : Finset Nat)

def discoverLlcSnapshots (holders : Nat → Nat) : List LlcSnapshot :=
  ((List.range topo.llcGroups.length).filter fun llcIdx =>
    (groupAt topo llcIdx).cpus.any fun cpu => cpu ∈ allowed).map fun llcIdx => ⟨llcIdx,holders llcIdx⟩

def allowedCpus (llcIdx : Nat) : List Nat := (groupAt topo llcIdx).cpus.filter fun cpu => cpu ∈ allowed

def llcAllowedCpus (llcIdx : Nat) : Nat := (allowedCpus topo allowed llcIdx).length

def busier (first second : LlcSnapshot) : Bool :=
  second.holderCount < first.holderCount ∨
    (second.holderCount = first.holderCount ∧ first.llcIdx ≤ second.llcIdx)

def ranked (snapshots : List LlcSnapshot) : List LlcSnapshot :=
  let eligible := fun snap : LlcSnapshot => decide (llcAllowedCpus topo allowed snap.llcIdx > 0)
  let consolidation := (snapshots.filter fun snap => snap.holderCount > 0).filter eligible
  let fresh := (snapshots.filter fun snap => snap.holderCount = 0).filter eligible
  consolidation.mergeSort busier ++ fresh.mergeSort fun first second => first.llcIdx ≤ second.llcIdx

inductive Site
  | seed
  | visit (node llcIdx : Nat)

structure Walk where
  selected : List Nat := []
  picked : Finset Nat := ∅
  accumulated : Nat := 0

variable (orders : Site → Iteration) (target : Nat)

def visitSnapshot (node : Nat) (walk : Walk) (snap : LlcSnapshot) : Walk :=
  if walk.accumulated ≥ target then walk
  else if snap.llcIdx ∈ walk.picked then walk
  else if llcNumaNode topo (orders (.visit node snap.llcIdx)) snap.llcIdx ≠ node then walk
  else {
    selected := walk.selected ++ [snap.llcIdx]
    picked := insert snap.llcIdx walk.picked
    accumulated := walk.accumulated + llcAllowedCpus topo allowed snap.llcIdx }

def visitNode (candidates : List LlcSnapshot) (walk : Walk) (node : Nat) : Walk :=
  if walk.accumulated ≥ target then walk
  else candidates.foldl (visitSnapshot topo allowed orders target node) walk

def planFromSnapshots (snapshots : List LlcSnapshot) (distance : Nat → Nat → Nat) : List Nat :=
  if target = 0 then []
  else
    let totalAllowedInLlcs := ((List.range snapshots.length).map (llcAllowedCpus topo allowed)).sum
    if target ≥ totalAllowedInLlcs then
      ((List.range snapshots.length).filter fun idx => llcAllowedCpus topo allowed idx > 0).mergeSort (· ≤ ·)
    else
      let candidates := ranked topo allowed snapshots
      match candidates with
      | [] => []
      | seed::_ =>
        let seedNode := llcNumaNode topo (orders .seed) seed.llcIdx
        let nodeOrder := numaNodesSortedByDistance topo seedNode distance
        (nodeOrder.foldl (visitNode topo allowed orders target candidates) {}).selected.mergeSort (· ≤ ·)

def takeCpu (cpus : List Nat) (cpu : Nat) : List Nat :=
  if cpu ∉ allowed then cpus
  -- Once the budget is filled it stays so for the rest of the loops.
  else if cpus.length ≥ target then cpus
  else cpus ++ [cpu]

def materialise (selected : List Nat) : List Nat :=
  selected.foldl (fun cpus idx => (groupAt topo idx).cpus.foldl (takeCpu allowed target) cpus) []

def takeCpuNode (taken : List Nat × Finset Nat) (cpu : Nat) : List Nat × Finset Nat :=
  if cpu ∉ allowed then taken
  else if taken.1.length ≥ target then taken
  else (taken.1 ++ [cpu],insert (nodeOfCpu topo.cpuToNode cpu) taken.2)

structure LlcPlan where
  lockedLlcs : List Nat
  cpus : List Nat
  mems : Finset Nat
  snapshot : List LlcSnapshot

def materialisePlan (selected : List Nat) (snapshots : List LlcSnapshot) : LlcPlan :=
  let (cpus,mems) :=
    selected.foldl (fun taken idx => (groupAt topo idx).cpus.foldl (takeCpuNode topo allowed target) taken) ([],∅)
  ⟨selected,cpus,mems,snapshots⟩

end

inductive ResourceContention
  | noAllowedSet
  | capExceedsAllowed (cap allowedCpus : Nat)
  | zeroBudget
  | mountinfo
  | discover
  | noOverlap (allowedCpus : Nat)
  | acquire
  | exhausted (targetCpus attempts : Nat) (held : List Nat)
deriving DecidableEq

abbrev CpuCap := {n : Nat // 0 < n}

def effectiveCount (cap : CpuCap) (allowedCpus : Nat) : Except ResourceContention Nat :=
  if cap.1 > allowedCpus then .error (.capExceedsAllowed cap.1 allowedCpus) else .ok cap.1

def defaultCpuBudget (allowedCpus : Nat) : Nat := max 1 ((min (allowedCpus * 30) (2 ^ 64 - 1) + 99) / 100)

/-- What one attempt meets: the holders it discovers (or a failure), the orders its hash maps iterate in, and the answer to
the locks (held, refused or a failure). -/
structure Attempt where
  holders : Option (Nat → Nat)
  orders : Site → Iteration
  acquired : Option Bool

def acquireMaxToctouRetries : Nat := 3

section
variable (topo : HostTopology) (allowed : Finset Nat) (target : Nat) (distance : Nat → Nat → Nat)

/-- Discover, plan and lock once; locks that a peer holds leave no plan. -/
def tryAttempt (attempt : Attempt) : Except ResourceContention (Option LlcPlan) :=
  match attempt.holders with
  | none => .error .discover
  | some holders =>
    let snapshots := discoverLlcSnapshots topo allowed holders
    let selected := planFromSnapshots topo allowed attempt.orders target snapshots distance
    if selected = [] then .error (.noOverlap allowed.card)
    else
      match attempt.acquired with
      | none => .error .acquire
      | some true => .ok (some (materialisePlan topo allowed target selected snapshots))
      | some false => .ok none

def giveUp (final : Attempt) : Except ResourceContention LlcPlan :=
  match final.holders with
  | none => .error .discover
  | some holders =>
    .error (.exhausted target (acquireMaxToctouRetries + 1)
      (((discoverLlcSnapshots topo allowed holders).filter fun snap => snap.holderCount > 0).map LlcSnapshot.llcIdx))

def acquireLoop (attempts : Nat → Attempt) (attempt : Nat) : (retries : Nat) → Except ResourceContention LlcPlan
  | 0 =>
    match tryAttempt topo allowed target distance (attempts attempt) with
    | .error reason => .error reason
    | .ok (some plan) => .ok plan
    | .ok none => giveUp topo allowed target (attempts (attempt + 1))
  | retries + 1 =>
    match tryAttempt topo allowed target distance (attempts attempt) with
    | .error reason => .error reason
    | .ok (some plan) => .ok plan
    | .ok none => acquireLoop attempts (attempt + 1) retries

end

def targetCpus (allowed : Finset Nat) : Option CpuCap → Except ResourceContention Nat
  | some cap => effectiveCount cap allowed.card
  | none => .ok (defaultCpuBudget allowed.card)

def acquireLlcPlanWithAcquireFn (topo : HostTopology) (allowed : Finset Nat) (cpuCap : Option CpuCap) (mountinfo : Bool)
    (distance : Nat → Nat → Nat) (attempts : Nat → Attempt) : Except ResourceContention LlcPlan :=
  if allowed = ∅ then .error .noAllowedSet
  else
    match targetCpus allowed cpuCap with
    | .error reason => .error reason
    | .ok target =>
      if target = 0 then .error .zeroBudget
      else if !mountinfo then .error .mountinfo
      else acquireLoop topo allowed target distance attempts 0 acquireMaxToctouRetries

end Ktstr.Source.Topology
