import Ktstr.Library.Fallible
import Ktstr.Library.Maps
import Ktstr.NodeMemory
import Ktstr.Source.TestTopology

/-! The topology that tests see is the one the VM was built with: CPU numbering, NUMA nodes and memory. -/
namespace Ktstr.GuestTopology
open List Std Library.Maps Library.Fallible Source.VmTopology Source.GuestLayout Source.Cpuid Source.TestTopology
open MemoryMap GuestShapes NodeMemory

/-- The CPUs of an LLC, and core by core the threads in order, are those the VM's numbering puts there. -/
structure LlcMirrors (topo : Topology) (l : Nat) (info : LlcInfo) : Prop where
  cpus : ∀ cpu, cpu ∈ info.cpus ↔ (topo.decompose cpu).1 = l
  ascending : info.cpus.Pairwise (· < ·)
  node : info.numaNode = topo.numaNodeOf l
  cores : ∀ c < topo.coresPerLlc, ∃ threads, info.cores[c]? = some threads ∧
    threads.map topo.decompose = (List.range topo.threadsPerCore).map (fun t => (l,c,t)) ∧
    ∀ cpu, cpu ∈ threads ↔ (topo.decompose cpu).1 = l ∧ (topo.decompose cpu).2.1 = c
  noMore : ∀ c ≥ topo.coresPerLlc, info.cores[c]? = none

structure Mirrors (topo : Topology) (regions : List NodeRegion) (test : TestTopology) : Prop where
  count : test.llcs.length = topo.llcs
  llcs : ∀ l info, test.llcs[l]? = some info → LlcMirrors topo l info
  memory : ∀ region ∈ regions, ∃ info, test.nodeMem[region.nodeId]? = some info ∧ info.totalKb = region.size / 1024
  bare : ∀ node, (∀ region ∈ regions, region.nodeId ≠ node) → test.nodeMem[node]? = none

section Numbering

variable {topo : Topology} (accepted : Accepted topo)
include accepted

theorem perLlc_eq : wrapU32 (topo.coresPerLlc * topo.threadsPerCore) = topo.coresPerLlc * topo.threadsPerCore :=
  Nat.mod_eq_of_lt accepted.perLlc

theorem decompose_eq (cpu : Nat) : topo.decompose cpu =
    (cpu / topo.threadsPerCore / topo.coresPerLlc,cpu / topo.threadsPerCore % topo.coresPerLlc,
      cpu % topo.threadsPerCore) := by
  rw [Topology.decompose,Nat.mul_comm topo.threadsPerCore,perLlc_eq accepted,Nat.mul_comm,Nat.div_div_eq_div_mul]

theorem llc_iff (l cpu : Nat) : (topo.decompose cpu).1 = l ↔
    cpu ∈ List.range' (l * (topo.coresPerLlc * topo.threadsPerCore)) (topo.coresPerLlc * topo.threadsPerCore) := by
  rw [decompose_eq accepted,Nat.div_div_eq_div_mul,Nat.mul_comm topo.threadsPerCore,
    Nat.div_eq_iff (Nat.mul_pos accepted.cores accepted.threads),mem_range'_1]
  have positive := Nat.mul_pos accepted.cores accepted.threads
  omega

theorem core_iff {l c cpu : Nat} (inside : c < topo.coresPerLlc) :
    (topo.decompose cpu).1 = l ∧ (topo.decompose cpu).2.1 = c ↔
      cpu ∈ siblings topo.threadsPerCore (l * (topo.coresPerLlc * topo.threadsPerCore)) c := by
  have place : cpu ∈ siblings topo.threadsPerCore (l * (topo.coresPerLlc * topo.threadsPerCore)) c ↔
      cpu / topo.threadsPerCore = l * topo.coresPerLlc + c := by
    rw [siblings,mem_range'_1,Nat.div_eq_iff accepted.threads,← Nat.mul_assoc,← Nat.add_mul]
    have positive := accepted.threads
    omega
  rw [place,decompose_eq accepted]
  constructor
  · intro ⟨llc,core⟩
    rw [← llc,← core]
    exact (Nat.div_add_mod' _ _).symm
  · intro here
    simp only [here]
    rw [Nat.mul_comm,Nat.mul_add_div accepted.cores,Nat.mul_add_mod,Nat.div_eq_of_lt inside,Nat.mod_eq_of_lt inside]
    exact ⟨rfl,rfl⟩

theorem siblings_decompose {l c : Nat} (inside : c < topo.coresPerLlc) :
    (siblings topo.threadsPerCore (l * (topo.coresPerLlc * topo.threadsPerCore)) c).map topo.decompose =
      (List.range topo.threadsPerCore).map (fun t => (l,c,t)) := by
  rw [siblings,range'_eq_map_range,map_map]
  apply map_congr_left
  intro t thread
  have small := List.mem_range.mp thread
  have member : l * (topo.coresPerLlc * topo.threadsPerCore) + c * topo.threadsPerCore + t ∈
      siblings topo.threadsPerCore (l * (topo.coresPerLlc * topo.threadsPerCore)) c :=
    mem_range'_1.mpr ⟨Nat.le_add_right _ _,Nat.add_lt_add_left small _⟩
  obtain ⟨llc,core⟩ := (core_iff accepted inside).mpr member
  refine Prod.ext llc (Prod.ext core ?_)
  change (l * (topo.coresPerLlc * topo.threadsPerCore) + c * topo.threadsPerCore + t) % topo.threadsPerCore = t
  rw [← Nat.mul_assoc,← Nat.add_mul,Nat.mul_add_mod',Nat.mod_eq_of_lt small]

theorem owningNodeId_eq (l : Nat) : owningNodeId topo l = some (topo.numaNodeOf l) := by
  cases kind : topo.nodes with
  | none =>
    have divides := accepted.shape
    simp only [Topology.shapeError,kind,ite_eq_right_iff,reduceCtorEq,imp_false,not_not] at divides
    have some := Nat.div_pos (Nat.le_of_dvd accepted.llcs (Nat.dvd_of_mod_eq_zero divides)) accepted.nodes
    simp only [owningNodeId,Topology.numaNodeOf,kind]
    exact if_neg (not_or.mpr ⟨accepted.nodes.ne',some.ne'⟩)
  | some nodes =>
    have length := accepted.length_nodes nodes kind
    have positive := accepted.nodes
    have bound := topo.numaNodes_u32
    simp only [owningNodeId,Topology.numaNodeOf,kind]
    cases owner : Topology.owningNode l 0 0 nodes with
    | none =>
      have wraps : nodes.length + u32Span - 1 = nodes.length - 1 + u32Span := by omega
      rw [Option.getD_none,Option.getD_none,wraps,wrapU32,Nat.add_mod_right,Nat.mod_eq_of_lt (by omega)]
    | some node =>
      have below := owningNode_lt l 0 0 nodes node owner
      rw [Option.getD_some,Option.getD_some,wrapU32,Nat.mod_eq_of_lt (by omega)]

theorem llcInfo_mirrors (l : Nat) : ∃ info, llcInfo topo l = some info ∧ LlcMirrors topo l info := by
  refine ⟨_,by rw [llcInfo,owningNodeId_eq accepted,Option.map_some],?_⟩
  have distinct (start : Nat) : ((List.range topo.coresPerLlc).map fun c => (c,siblings topo.threadsPerCore start c)).Pairwise
      fun first second => first.1 ≠ second.1 := by
    rw [pairwise_map]
    exact nodup_range
  constructor
  · intro cpu
    rw [llc_iff accepted,perLlc_eq accepted]
  · exact pairwise_lt_range' 1
  · rfl
  · intro c inside
    refine ⟨_,(getElem?_ofList_iff (distinct _)).mpr (mem_map.mpr ⟨c,List.mem_range.mpr inside,rfl⟩),?_,?_⟩
    · rw [perLlc_eq accepted]
      exact siblings_decompose accepted inside
    · intro cpu
      rw [perLlc_eq accepted,core_iff accepted inside]
  · intro c beyond
    rw [Option.eq_none_iff_forall_not_mem]
    intro threads found
    obtain ⟨core,inside,same⟩ := mem_map.mp ((getElem?_ofList_iff (distinct _)).mp found)
    obtain rfl := congrArg Prod.fst same
    exact absurd (List.mem_range.mp inside) (Nat.not_lt.mpr beyond)

end Numbering

structure Shown (sizes : List (Nat × Nat)) (entries : List (Nat × NodeMemInfo)) : Prop where
  distinct : entries.Pairwise fun first second => first.1 ≠ second.1
  kilobytes : entries.map (fun entry => (entry.1,entry.2.totalKb)) = sizes.map fun entry => (entry.1,entry.2 / 1024)

theorem mbBytes_kb {mb : Nat} : mbBytes mb / 1024 = mb * 1024 := by
  rw [mbBytes_eq]
  omega

variable (topo : Topology) (totalMemoryMb : Nat)

variable {totalMemoryMb}

theorem shown_evenSizes (uniform : topo.nodes = none) :
    Shown (evenSizes topo.numaNodes totalMemoryMb) (nodeMemEntries topo (some totalMemoryMb)) := by
  simp only [nodeMemEntries,uniform]
  constructor
  · rw [pairwise_map]
    exact nodup_range
  · rw [evenSizes,map_map,map_map]
    apply map_congr_left
    intro i _
    exact congrArg (Prod.mk i) mbBytes_kb.symm

theorem shown_nodeSizes {nodes : List NumaNode} (explicit : topo.nodes = some nodes) :
    Shown (nodeSizes nodes) (nodeMemEntries topo (some totalMemoryMb)) := by
  have kept : ((fun entry : Nat × Nat => entry.2 != 0) ∘ fun entry : NumaNode × Nat => (entry.2,mbBytes entry.1.memoryMb)) =
      fun entry => decide (entry.1.memoryMb > 0) := by
    funext entry
    rw [Function.comp_apply,mbBytes_eq,Bool.eq_iff_iff,bne_iff_ne,decide_eq_true_iff]
    omega
  simp only [nodeMemEntries,explicit]
  constructor
  · rw [pairwise_map]
    apply List.Pairwise.filter
    have numbers : (nodes.zipIdx.map Prod.snd).Nodup := by
      rw [zipIdx_map_snd]
      exact nodup_range'
    exact pairwise_map.mp numbers
  · rw [nodeSizes,filter_map,map_map,map_map,kept]
    apply map_congr_left
    intro entry _
    exact congrArg (Prod.mk entry.2) mbBytes_kb.symm

theorem computed_shown {dramBase : Nat} {regions : List NodeRegion} (accepted : Accepted topo)
    (computed : compute topo totalMemoryMb dramBase = .ok regions) :
    Shown (regions.map fun region => (region.nodeId,region.size)) (nodeMemEntries topo (some totalMemoryMb)) := by
  cases kind : topo.nodes with
  | none =>
    rw [compute_uniform topo kind accepted.nodes] at computed
    cases computed
    rw [map_entry_stackRegions]
    exact shown_evenSizes topo kind
  | some nodes =>
    obtain ⟨-,rfl,-⟩ := compute_explicit topo kind computed
    rw [map_entry_stackRegions]
    exact shown_nodeSizes topo kind

variable (totalMemoryMb)

/-- Every VM that has a memory layout has a test topology, and it mirrors the VM's. -/
theorem test_topology_mirrors (topo : Topology) (totalMemoryMb dramBase : Nat) (regions : List NodeRegion)
    (valid : topo.validate = .ok ()) (computed : compute topo totalMemoryMb dramBase = .ok regions) :
    ∃ test, fromVmTopologyWithMemory topo (some totalMemoryMb) = some test ∧ Mirrors topo regions test := by
  have accepted := accepted_of_validate valid
  choose info made mirrors using llcInfo_mirrors accepted
  have shown := computed_shown topo accepted computed
  have llcs : (List.range topo.llcs).mapM (llcInfo topo) = some ((List.range topo.llcs).map info) := by
    have each := mapM_pure (m := Option) id (llcInfo topo) info (List.range topo.llcs) fun l _ => made l
    rwa [map_id] at each
  have counts : ¬ (topo.llcs = 0 ∨ topo.coresPerLlc = 0 ∨ topo.threadsPerCore = 0 ∨ topo.numaNodes = 0) := by
    have := accepted.llcs
    have := accepted.cores
    have := accepted.threads
    have := accepted.nodes
    omega
  refine ⟨_,by rw [fromVmTopologyWithMemory,if_neg counts,llcs,Option.map_some],?_⟩
  constructor
  · exact (length_map _).trans length_range
  · intro l found at_
    obtain ⟨index,inside,rfl⟩ := getElem?_map .. ▸ at_ |> Option.map_eq_some_iff.mp
    obtain ⟨_,rfl⟩ := List.getElem?_eq_some_iff.mp inside
    rw [getElem_range]
    exact mirrors l
  · intro region member
    have entry : (region.nodeId,region.size / 1024) ∈
        (nodeMemEntries topo (some totalMemoryMb)).map fun entry => (entry.1,entry.2.totalKb) := by
      rw [shown.kilobytes,map_map]
      exact mem_map_of_mem member
    obtain ⟨⟨node,mem⟩,among,same⟩ := mem_map.mp entry
    obtain ⟨rfl,kb⟩ := Prod.mk.inj same
    exact ⟨mem,(getElem?_ofList_iff shown.distinct).mpr among,kb⟩
  · intro node without
    rw [Option.eq_none_iff_forall_not_mem]
    intro mem found
    have among := mem_map_of_mem (f := fun entry => (entry.1,entry.2.totalKb))
      ((getElem?_ofList_iff shown.distinct).mp found)
    rw [shown.kilobytes,map_map] at among
    obtain ⟨region,member,same⟩ := mem_map.mp among
    exact without region member (congrArg Prod.fst same)

def memoryBetween : Topology where
  llcs := 2
  coresPerLlc := 3
  threadsPerCore := 2
  numaNodes := 3
  nodes := some [⟨1,1,none,none,none,one_u32,one_u32⟩,⟨0,2,none,none,none,zero_u32,two_u32⟩,
    ⟨1,1,none,none,none,one_u32,one_u32⟩]

theorem memory_between_mirrored : memoryBetween.validate = .ok () ∧
    ∃ test, fromVmTopologyWithMemory memoryBetween (some 4) = some test ∧
      Mirrors memoryBetween [⟨0,0,1048576,0⟩,⟨1,1048576,2097152,1⟩,⟨2,3145728,1048576,2⟩] test :=
  ⟨by decide,test_topology_mirrors memoryBetween 4 0 _ (by decide) rfl⟩

end Ktstr.GuestTopology
