import Ktstr.Library.Words
import Ktstr.Source.VmTopology

/-! Guest physical memory on x86_64: the memory slots of `vmm/numa_mem.rs`, the constants of
`vmm/x86_64/kvm.rs` and the e820 table that `vmm/x86_64/boot.rs` writes. -/
namespace Ktstr.Source.GuestLayout
open Library.Words VmTopology

def ebdaStart : Nat := 0x9FC00

def himemStart : Nat := 0x100000

def mmioGapStart : Nat := 0xC0000000

def mmioGapEnd : Nat := 0x100000000

structure NodeRegion where
  nodeId : Nat
  gpaStart : Nat
  size : Nat
  slot : Nat
deriving DecidableEq

def mbBytes (mb : Nat) : Nat := mb <<< 20

def stackRegions (gpa slot : Nat) : List (Nat × Nat) → List NodeRegion
  | [] => []
  | (nodeId,size)::rest => ⟨nodeId,gpa,size,slot⟩::stackRegions (wrappingAdd gpa size) (slot + 1) rest

def nodeSizes (nodes : List NumaNode) : List (Nat × Nat) :=
  (nodes.zipIdx.map fun entry => (entry.2,mbBytes entry.1.memoryMb)).filter fun entry => entry.2 != 0

def evenSizes (numaNodes totalMemoryMb : Nat) : List (Nat × Nat) :=
  let perNodeMb := totalMemoryMb / numaNodes
  (List.range numaNodes).map fun i =>
    (i,mbBytes (if i = numaNodes - 1 then totalMemoryMb - perNodeMb * (numaNodes - 1) else perNodeMb))

def compute (topo : Topology) (totalMemoryMb dramBase : Nat) : Except String (List NodeRegion) :=
  match topo.nodes with
  | some nodes =>
    let nodeTotalMb := wrapU32 (nodes.map NumaNode.memoryMb).sum
    if totalMemoryMb ≠ nodeTotalMb then
      .error ("total_memory_mb (" ++ toString totalMemoryMb ++ ") must equal sum of node memory_mb (" ++
        toString nodeTotalMb ++ ")")
    else
      let regions := stackRegions dramBase 0 (nodeSizes nodes)
      if regions.isEmpty then .error "at least one node must have non-zero memory" else .ok regions
  | none =>
    if topo.numaNodes ≤ 1 then .ok [⟨0,dramBase,mbBytes totalMemoryMb,0⟩]
    else .ok (stackRegions dramBase 0 (evenSizes topo.numaNodes totalMemoryMb))

/-- `partition_point`, of a slice with the elements that satisfy the predicate in front. -/
def partitionPoint {α : Type} (pred : α → Bool) (slice : List α) : Nat := (slice.takeWhile pred).length

def regionForGpa (regions : List NodeRegion) (gpa : Nat) : Option NodeRegion :=
  match partitionPoint (fun r => r.gpaStart ≤ gpa) regions with
  | 0 => none
  | idx + 1 => regions[idx]?.bind fun r => if gpa < wrappingAdd r.gpaStart r.size then some r else none

structure BootE820Entry where
  addr : Nat
  size : Nat
deriving DecidableEq

def e820Table (memoryMb : Nat) : List BootE820Entry :=
  let usableSize := mbBytes memoryMb
  ⟨0,ebdaStart⟩::
    if usableSize ≤ mmioGapStart then [⟨himemStart,wrappingSub usableSize himemStart⟩]
    else
      ⟨himemStart,mmioGapStart - himemStart⟩::
        if usableSize > mmioGapEnd then [⟨mmioGapEnd,usableSize - mmioGapEnd⟩] else []

end Ktstr.Source.GuestLayout
