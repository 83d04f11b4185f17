import Mathlib.Data.Finset.Range
import Ktstr.Source.Cpuid

/-! The topology that tests are scripted against, from `topology.rs`, built from that of the VM. A failed
assertion and a division by zero have no result. -/
namespace Ktstr.Source.TestTopology
open Std VmTopology Cpuid

structure LlcInfo where
  cpus : List Nat
  numaNode : Nat
  cacheSizeKb : Option Nat := none
  cores : ExtTreeMap Nat (List Nat)

structure NodeMemInfo where
  totalKb : Nat
  freeKb : Nat
deriving DecidableEq

structure TestTopology where
  cpus : List Nat
  llcs : List LlcInfo
  numaNodes : Finset Nat
  numaDistances : List Nat
  nodeMem : ExtTreeMap Nat NodeMemInfo
  memoryOnlyNodes : Finset Nat

def siblings (threads start c : Nat) : List Nat := List.range' (start + c * threads) threads

def llcInfo (topo : Topology) (l : Nat) : Option LlcInfo :=
  let cpusPerLlc := wrapU32 (topo.coresPerLlc * topo.threadsPerCore)
  let start := l * cpusPerLlc
  (owningNodeId topo l).map fun node =>
    { cpus := List.range' start cpusPerLlc
      numaNode := node
      cores := ExtTreeMap.ofList ((List.range topo.coresPerLlc).map fun c => (c,siblings topo.threadsPerCore start c)) }

def memInfo (mb : Nat) : NodeMemInfo := ⟨mb * 1024,mb * 1024⟩

def nodeMemEntries (topo : Topology) (totalMemoryMb : Option Nat) : List (Nat × NodeMemInfo) :=
  match topo.nodes,totalMemoryMb with
  | some nodes,_ =>
    (nodes.zipIdx.filter fun entry => entry.1.memoryMb > 0).map fun entry => (entry.2,memInfo entry.1.memoryMb)
  | none,some totalMb =>
    let perNodeMb := totalMb / topo.numaNodes
    (List.range topo.numaNodes).map fun i =>
      (i,memInfo (if i = topo.numaNodes - 1 then totalMb - perNodeMb * (topo.numaNodes - 1) else perNodeMb))
  | none,none => []

def memoryOnlyIds (topo : Topology) : List Nat :=
  match topo.nodes with
  | some nodes => (nodes.zipIdx.filter fun entry => entry.1.isMemoryOnly).map Prod.snd
  | none => []

def fromVmTopologyWithMemory (topo : Topology) (totalMemoryMb : Option Nat) : Option TestTopology :=
  if topo.llcs = 0 ∨ topo.coresPerLlc = 0 ∨ topo.threadsPerCore = 0 ∨ topo.numaNodes = 0 then none
  else
    ((List.range topo.llcs).mapM (llcInfo topo)).map fun llcs =>
      { cpus := List.range topo.totalCpus
        llcs := llcs
        numaNodes := Finset.range topo.numaNodes
        numaDistances := (List.range topo.numaNodes).flatMap fun i =>
          (List.range topo.numaNodes).map fun j => topo.distance i j
        nodeMem := ExtTreeMap.ofList (nodeMemEntries topo totalMemoryMb)
        memoryOnlyNodes := (memoryOnlyIds topo).toFinset }

end Ktstr.Source.TestTopology
