import Mathlib.Data.List.Destutter
import Ktstr.Source.Topology
import Ktstr.Source.VmTopology

/-! Pinning of vCPUs, from `vmm/host_topology/mod.rs`: the host LLC of each virtual LLC, and the CPUs its vCPUs take. -/
namespace Ktstr.Source.Pinning
open Std Source.Topology Source.VmTopology

def usizeSpan : Nat := 2 ^ 64

structure Host where
  llcGroups : List LlcGroup
  onlineCpus : List Nat
  cpuToNode : ExtTreeMap Nat Nat
  hostNodeLlcs : ExtTreeMap Nat (List Nat)

def Host.build (orders : Nat → Iteration) (llcGroups : List LlcGroup) (onlineCpus : List Nat)
    (cpuToNode : ExtTreeMap Nat Nat) : Host :=
  ⟨llcGroups,onlineCpus,cpuToNode,computeHostNodeLlcs orders llcGroups fun cpu => cpuToNode[cpu]?⟩

structure PinningPlan where
  assignments : List (Nat × Nat)
  serviceCpu : Option Nat
  llcIndices : List Nat
deriving DecidableEq

inductive Refusal
  | panics
  | error (message : String)
deriving DecidableEq

section
variable (host : Host)

def Host.totalCpus : Nat := host.onlineCpus.length

def numaNodesWithCapacity (minLlcs : Nat) : List (Nat × List Nat) :=
  host.hostNodeLlcs.toList.filter fun entry => entry.2.length ≥ minLlcs

def sequentialFallback (llcs llcOffset : Nat) : Option (List Nat) :=
  let numHostLlcs := host.llcGroups.length
  if numHostLlcs = 0 ∧ 0 < llcs then none
  else some ((List.range llcs).map fun i => (i + llcOffset) % usizeSpan % numHostLlcs)

def guestNodeCount (basePerNode remainder guestNode : Nat) : Nat :=
  if guestNode < remainder then basePerNode + 1 else basePerNode

def guestNodeLlcs (eligibleNodes : List (Nat × List Nat)) (llcOffset nodeOffset basePerNode remainder guestNode : Nat) :
    List Nat :=
  let hostIdx := (guestNode + nodeOffset) % usizeSpan % eligibleNodes.length
  let hostLlcs := (eligibleNodes.getD hostIdx (0,[])).2
  let withinOffset := llcOffset % hostLlcs.length
  (List.range (guestNodeCount basePerNode remainder guestNode)).map fun i =>
    -- Two lengths of vectors: their sum does not wrap.
    hostLlcs.getD ((i + withinOffset) % hostLlcs.length) 0

def numaAwareLlcOrder (numaNodes llcs llcOffset : Nat) : Option (List Nat) :=
  if numaNodes = 0 ∨ numaNodes = 1 ∨ host.cpuToNode.isEmpty then sequentialFallback host llcs llcOffset
  else if llcs < numaNodes then sequentialFallback host llcs llcOffset
  else
    let basePerNode := llcs / numaNodes
    let remainder := llcs % numaNodes
    let maxPerNode := basePerNode + if remainder > 0 then 1 else 0
    let eligibleNodes := numaNodesWithCapacity host maxPerNode
    if eligibleNodes.length < numaNodes then sequentialFallback host llcs llcOffset
    else
      let nodeOffset := llcOffset / max maxPerNode 1
      some ((List.range numaNodes).flatMap (guestNodeLlcs eligibleNodes llcOffset nodeOffset basePerNode remainder))

structure Pinned where
  assignments : List (Nat × Nat) := []
  usedCpus : Finset Nat := ∅

def pinVcpu (vcpusPerLlc llc : Nat) (available : List Nat) (pinned : Pinned) (vcpuInLlc : Nat) : Pinned :=
  let vcpuId := wrapU32 (wrapU32 (llc * vcpusPerLlc) + vcpuInLlc)
  let hostCpu := available.getD vcpuInLlc 0
  ⟨pinned.assignments ++ [(vcpuId,hostCpu)],insert hostCpu pinned.usedCpus⟩

def pinLlc (llcOrder : List Nat) (vcpusPerLlc : Nat) (pinned : Pinned) (llc : Nat) : Except Refusal Pinned :=
  let llcIdx := llcOrder.getD llc 0
  let available := (host.llcGroups.getD llcIdx ⟨[]⟩).cpus.filter fun cpu => cpu ∉ pinned.usedCpus
  if available.length < vcpusPerLlc then
    .error (.error ("performance_mode: LLC group " ++ toString llcIdx ++ " has " ++ toString available.length ++
      " available CPUs, need " ++ toString vcpusPerLlc ++ " for virtual LLC " ++ toString llc))
  else .ok ((List.range vcpusPerLlc).foldl (pinVcpu vcpusPerLlc llc available) pinned)

def findServiceCpu (reserveServiceCpu : Bool) (totalVcpus : Nat) (usedCpus : Finset Nat) : Except Refusal (Option Nat) :=
  if reserveServiceCpu then
    match host.onlineCpus.find? fun cpu => cpu ∉ usedCpus with
    | some cpu => .ok (some cpu)
    | none =>
      .error (.error ("performance_mode: no free host CPU for service threads after assigning " ++ toString totalVcpus ++
        " vCPUs"))
  else .ok none

def computePinning (topo : VmTopology.Topology) (reserveServiceCpu : Bool) (llcOffset : Nat) :
    Except Refusal PinningPlan :=
  let vcpusPerLlc := wrapU32 (topo.coresPerLlc * topo.threadsPerCore)
  let totalVcpus := wrapU32 (topo.llcs * vcpusPerLlc)
  let service := if reserveServiceCpu then 1 else 0
  let totalNeeded := totalVcpus + service
  if totalNeeded > host.totalCpus then
    .error (.error ("performance_mode: need " ++ toString totalNeeded ++ " CPUs (" ++ toString totalVcpus ++ " vCPUs + " ++
      toString service ++ " service) but only " ++ toString host.totalCpus ++ " host CPUs available"))
  else if topo.llcs > host.llcGroups.length then
    .error (.error ("performance_mode: need " ++ toString topo.llcs ++ " LLCs for " ++ toString topo.llcs ++
      " virtual LLCs, but host has " ++ toString host.llcGroups.length ++ " LLC groups"))
  else
    match numaAwareLlcOrder host topo.numaNodes topo.llcs llcOffset with
    | none => .error .panics
    | some llcOrder => do
      let pinned ← (List.range topo.llcs).foldlM (pinLlc host llcOrder vcpusPerLlc) {}
      let serviceCpu ← findServiceCpu host reserveServiceCpu totalVcpus pinned.usedCpus
      return ⟨pinned.assignments,serviceCpu,(llcOrder.insertionSort (· ≤ ·)).destutter (· ≠ ·)⟩

end

end Ktstr.Source.Pinning
