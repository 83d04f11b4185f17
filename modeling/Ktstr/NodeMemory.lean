import Mathlib.Data.List.Chain
import Ktstr.GuestShapes
import Ktstr.MemoryMap

/-! Memory regions of the NUMA nodes: what a computed layout promises to the slots made from it. -/
namespace Ktstr.NodeMemory
open List Library.Packing Library.Words Source.VmTopology Source.GuestLayout MemoryMap GuestShapes Nat

def Holds (region : NodeRegion) (gpa : Nat) : Prop :=
  region.gpaStart ≤ gpa ∧ gpa < region.gpaStart + region.size

/-- The regions divide the memory of the guest, without bound on the sums. -/
structure Laid (topo : Topology) (totalMemoryMb dramBase : Nat) (regions : List NodeRegion) : Prop where
  nonempty : regions ≠ []
  positive : ∀ region ∈ regions, 0 < region.size
  first : regions.head?.map NodeRegion.gpaStart = some dramBase
  contiguous : regions.IsChain fun region next => next.gpaStart = region.gpaStart + region.size
  ascending : regions.Pairwise fun region later => region.gpaStart < later.gpaStart
  total : (regions.map NodeRegion.size).sum = mbBytes totalMemoryMb
  slots : regions.map NodeRegion.slot = List.range regions.length
  ordered : regions.Pairwise fun region later => region.nodeId < later.nodeId
  known : ∀ region ∈ regions, region.nodeId < topo.numaNodes
  located : ∀ gpa, dramBase ≤ gpa → gpa < dramBase + mbBytes totalMemoryMb →
    ∃ region ∈ regions, regionForGpa regions gpa = some region ∧ Holds region gpa ∧
      ∀ other ∈ regions, Holds other gpa → other = region

/-- Explicit nodes whose memory adds up in 32 bits, or a megabyte at least for each node of an even split. -/
def Roomy (topo : Topology) (totalMemoryMb : Nat) : Prop :=
  match topo.nodes with
  | some nodes => (nodes.map NumaNode.memoryMb).sum < u32Span
  | none => topo.numaNodes ≤ totalMemoryMb

section Stacks

variable (gpa slot : Nat) (entries : List (Nat × Nat))

theorem map_entry_stackRegions :
    (stackRegions gpa slot entries).map (fun region => (region.nodeId,region.size)) = entries := by
  induction entries generalizing gpa slot with
  | nil => rfl
  | cons entry entries ih => rw [stackRegions,map_cons,ih]

theorem map_size_stackRegions : (stackRegions gpa slot entries).map NodeRegion.size = entries.map Prod.snd := by
  conv_rhs => rw [← map_entry_stackRegions gpa slot entries]
  rw [map_map]
  rfl

theorem map_nodeId_stackRegions : (stackRegions gpa slot entries).map NodeRegion.nodeId = entries.map Prod.fst := by
  conv_rhs => rw [← map_entry_stackRegions gpa slot entries]
  rw [map_map]
  rfl

theorem map_slot_stackRegions :
    (stackRegions gpa slot entries).map NodeRegion.slot = List.range' slot entries.length := by
  induction entries generalizing gpa slot with
  | nil => rfl
  | cons entry entries ih => rw [stackRegions,map_cons,ih,length_cons,range'_succ]

theorem length_stackRegions : (stackRegions gpa slot entries).length = entries.length := by
  rw [← length_map NodeRegion.size,map_size_stackRegions,length_map]

end Stacks

theorem regionForGpa_split {before after : List NodeRegion} {region : NodeRegion} {gpa : Nat}
    (below : ∀ earlier ∈ before, earlier.gpaStart ≤ gpa) (start : region.gpaStart ≤ gpa)
    (stop : gpa < wrappingAdd region.gpaStart region.size) (above : ∀ later ∈ after, gpa < later.gpaStart) :
    regionForGpa (before ++ region::after) gpa = some region := by
  have tail : after.takeWhile (fun r => decide (r.gpaStart ≤ gpa)) = [] := by
    cases after with
    | nil => rfl
    | cons later after =>
      have beyond := above later mem_cons_self
      exact takeWhile_cons_of_neg (by simpa using beyond)
  have point : partitionPoint (fun r : NodeRegion => decide (r.gpaStart ≤ gpa)) (before ++ region::after) =
      before.length + 1 := by
    rw [partitionPoint,takeWhile_append_of_pos (by simpa using below),
      takeWhile_cons_of_pos (by simpa using start),tail,length_append]
    rfl
  rw [regionForGpa,point]
  simp only [getElem?_append_right (Nat.le_refl _),Nat.sub_self]
  exact if_pos stop

structure Shares (numaNodes totalMemoryMb : Nat) (entries : List (Nat × Nat)) : Prop where
  nonempty : entries ≠ []
  positive : ∀ size ∈ entries.map Prod.snd, 0 < size
  total : (entries.map Prod.snd).sum = mbBytes totalMemoryMb
  ordered : (entries.map Prod.fst).Pairwise (· < ·)
  known : ∀ nodeId ∈ entries.map Prod.fst, nodeId < numaNodes

variable (topo : Topology)

theorem laid_of_shares {totalMemoryMb dramBase : Nat} {entries : List (Nat × Nat)}
    (fits : dramBase + mbBytes totalMemoryMb < wordSpan) (shares : Shares topo.numaNodes totalMemoryMb entries) :
    Laid topo totalMemoryMb dramBase (stackRegions dramBase 0 entries) := by
  have packed := stackRegions_pack dramBase 0 entries (by rw [shares.total]; exact fits)
  have sizes := map_size_stackRegions dramBase 0 entries
  have ids := map_nodeId_stackRegions dramBase 0 entries
  constructor
  · intro empty
    have none := length_stackRegions dramBase 0 entries
    rw [empty] at none
    exact shares.nonempty (eq_nil_of_length_eq_zero none.symm)
  · intro region member
    apply shares.positive
    rw [← sizes]
    exact mem_map_of_mem member
  · obtain ⟨entry,rest,rfl⟩ := exists_cons_of_ne_nil shares.nonempty
    rfl
  · have chain := pack_contiguous dramBase (entries.map Prod.snd)
    rw [← packed] at chain
    exact isChain_of_isChain_map slotExtent (fun _ _ next => next) chain
  · have ascending := pack_ascending dramBase (entries.map Prod.snd) shares.positive
    rw [← packed] at ascending
    exact ascending.of_map slotExtent fun _ _ less => less
  · rw [sizes,shares.total]
  · rw [map_slot_stackRegions,length_stackRegions,range_eq_range']
  · have ordered := shares.ordered
    rw [← ids] at ordered
    exact pairwise_map.mp ordered
  · intro region member
    apply shares.known
    rw [← ids]
    exact mem_map_of_mem member
  · intro gpa low high
    rw [← shares.total] at high
    obtain ⟨before,extent,after,split,start,stop,below,above⟩ := pack_split _ _ low high
    rw [← packed] at split
    obtain ⟨front,back,regionsEq,rfl,behind⟩ := map_eq_append_iff.mp split
    obtain ⟨region,rest,rfl,rfl,rfl⟩ := map_eq_cons_iff.mp behind
    have ends : region.gpaStart + region.size < wordSpan := by
      have member : slotExtent region ∈ pack dramBase (entries.map Prod.snd) := by
        rw [← packed,regionsEq]
        simp
      have bound := pack_below _ _ _ member
      rw [shares.total] at bound
      exact lt_of_le_of_lt bound fits
    have ended (earlier : NodeRegion) (member : earlier ∈ front) : earlier.gpaStart + earlier.size ≤ gpa :=
      below _ (mem_map_of_mem member)
    have ahead (later : NodeRegion) (member : later ∈ rest) : gpa < later.gpaStart :=
      above _ (mem_map_of_mem member)
    refine ⟨region,by rw [regionsEq]; simp,?_,⟨start,stop⟩,?_⟩
    · rw [regionsEq]
      apply regionForGpa_split _ start _ ahead
      · intro earlier member
        exact le_trans (le_add_right _ _) (ended earlier member)
      · rw [wrappingAdd_of_fits ends]
        exact stop
    · intro other member holds
      rw [regionsEq] at member
      rcases mem_append.mp member with earlier | behind
      · exact absurd holds.2 (not_lt.mpr (ended other earlier))
      · rcases mem_cons.mp behind with same | later
        · exact same
        · exact absurd holds.1 (not_le.mpr (ahead other later))

theorem map_fst_nodeSizes {nodes : List NumaNode} :
    ((nodeSizes nodes).map Prod.fst).Sublist (List.range nodes.length) := by
  have numbers : (nodes.zipIdx.map fun entry => (entry.2,mbBytes entry.1.memoryMb)).map Prod.fst =
      List.range nodes.length := by
    rw [map_map,range_eq_range',← zipIdx_map_snd 0 nodes]
    rfl
  rw [← numbers]
  exact filter_sublist.map Prod.fst

theorem shares_nodeSizes {nodes : List NumaNode} {totalMemoryMb : Nat}
    (total : (nodes.map NumaNode.memoryMb).sum = totalMemoryMb) (some : nodeSizes nodes ≠ []) :
    Shares nodes.length totalMemoryMb (nodeSizes nodes) where
  nonempty := some
  positive := by
    intro size member
    obtain ⟨entry,among,rfl⟩ := mem_map.mp member
    have nonzero := (mem_filter.mp among).2
    exact pos_of_ne_zero (by simpa using nonzero)
  total := by rw [nodeSizes_sum,total]
  ordered := pairwise_lt_range.sublist map_fst_nodeSizes
  known := by
    intro nodeId member
    exact List.mem_range.mp (map_fst_nodeSizes.subset member)

variable (numaNodes totalMemoryMb dramBase : Nat)

theorem map_fst_evenSizes : (evenSizes numaNodes totalMemoryMb).map Prod.fst = List.range numaNodes := by
  rw [evenSizes,map_map]
  exact map_id _

theorem share_le_last (nodes : 0 < numaNodes) :
    totalMemoryMb / numaNodes ≤ totalMemoryMb - totalMemoryMb / numaNodes * (numaNodes - 1) := by
  have whole := div_mul_le_self totalMemoryMb numaNodes
  have parts : totalMemoryMb / numaNodes * numaNodes =
      totalMemoryMb / numaNodes * (numaNodes - 1) + totalMemoryMb / numaNodes := by
    rw [← Nat.mul_succ,Nat.succ_eq_add_one,Nat.sub_add_cancel nodes]
  omega

theorem shares_evenSizes (nodes : 0 < numaNodes) (roomy : numaNodes ≤ totalMemoryMb) :
    Shares numaNodes totalMemoryMb (evenSizes numaNodes totalMemoryMb) where
  nonempty := by
    intro empty
    have none := map_fst_evenSizes numaNodes totalMemoryMb
    rw [empty] at none
    have zero := range_eq_nil.mp none.symm
    omega
  positive := by
    intro size member
    obtain ⟨entry,among,rfl⟩ := mem_map.mp member
    obtain ⟨i,inside,rfl⟩ := mem_map.mp among
    have share : 0 < totalMemoryMb / numaNodes := div_pos roomy nodes
    have last := share_le_last numaNodes totalMemoryMb nodes
    simp only [mbBytes_eq]
    split <;> omega
  total := evenSizes_sum nodes
  ordered := by
    rw [map_fst_evenSizes]
    exact pairwise_lt_range
  known := by
    intro nodeId member
    rw [map_fst_evenSizes] at member
    exact List.mem_range.mp member

variable {totalMemoryMb dramBase}

theorem compute_uniform (uniform : topo.nodes = none) (nodes : 0 < topo.numaNodes) :
    compute topo totalMemoryMb dramBase = .ok (stackRegions dramBase 0 (evenSizes topo.numaNodes totalMemoryMb)) := by
  simp only [compute,uniform]
  split
  · next single =>
    have one : topo.numaNodes = 1 := by omega
    simp [one,evenSizes,stackRegions]
  · rfl

theorem compute_explicit {nodes : List NumaNode} {regions : List NodeRegion} (explicit : topo.nodes = some nodes)
    (computed : compute topo totalMemoryMb dramBase = .ok regions) :
    totalMemoryMb = wrapU32 (nodes.map NumaNode.memoryMb).sum ∧ regions = stackRegions dramBase 0 (nodeSizes nodes) ∧
      nodeSizes nodes ≠ [] := by
  simp only [compute,explicit] at computed
  split at computed
  · cases computed
  · next equal =>
    split at computed
    · cases computed
    · next some =>
      refine ⟨not_not.mp equal,(Except.ok.inj computed).symm,?_⟩
      intro none
      rw [none] at some
      exact some rfl

variable (dramBase totalMemoryMb)

theorem no_room (nodes : 0 < numaNodes) (few : totalMemoryMb < numaNodes) :
    ∃ region ∈ stackRegions dramBase 0 (evenSizes numaNodes totalMemoryMb), region.size = 0 := by
  obtain ⟨others,rfl⟩ : ∃ others, numaNodes = others + 1 := ⟨numaNodes - 1,by omega⟩
  have share := div_eq_of_lt few
  have empty : 0 ∈ (evenSizes (others + 1) totalMemoryMb).map Prod.snd := by
    rw [evenSizes,map_map,range_succ_eq_map]
    apply mem_cons.mpr
    simp only [Function.comp_apply,mbBytes_eq]
    split <;> omega
  rw [← map_size_stackRegions dramBase 0] at empty
  exact mem_map.mp empty

/-- A layout divides the memory as promised exactly where every node gets some and the sum does not wrap. -/
theorem node_regions_laid_iff (topo : Topology) (totalMemoryMb dramBase : Nat) (regions : List NodeRegion)
    (valid : topo.validate = .ok ()) (fits : dramBase + mbBytes totalMemoryMb < wordSpan)
    (computed : compute topo totalMemoryMb dramBase = .ok regions) :
    Laid topo totalMemoryMb dramBase regions ↔ Roomy topo totalMemoryMb := by
  have accepted := accepted_of_validate valid
  cases kind : topo.nodes with
  | none =>
    simp only [Roomy,kind]
    rw [compute_uniform topo kind accepted.nodes] at computed
    cases computed
    constructor
    · intro laid
      by_contra few
      obtain ⟨region,member,zero⟩ := no_room _ _ dramBase accepted.nodes (Nat.lt_of_not_le few)
      have positive := laid.positive region member
      omega
    · intro roomy
      exact laid_of_shares _ fits (shares_evenSizes _ _ accepted.nodes roomy)
  | some nodes =>
    simp only [Roomy,kind]
    obtain ⟨asked,rfl,some⟩ := compute_explicit topo kind computed
    constructor
    · intro laid
      have total := laid.total
      rw [map_size_stackRegions,nodeSizes_sum,mbBytes_eq,mbBytes_eq] at total
      rw [wrapU32] at asked
      have bound := mod_lt (nodes.map NumaNode.memoryMb).sum (show 0 < u32Span by decide)
      omega
    · intro roomy
      rw [wrapU32,mod_eq_of_lt roomy] at asked
      have shares := shares_nodeSizes asked.symm some
      rw [accepted.length_nodes nodes kind] at shares
      exact laid_of_shares _ fits shares

def fourNodes : Topology where
  llcs := 4
  coresPerLlc := 1
  threadsPerCore := 1
  numaNodes := 4

/-- The remainder of nine megabytes goes to the last of four nodes. -/
theorem remainder_laid : Laid fourNodes 9 0
    [⟨0,0,2097152,0⟩,⟨1,2097152,2097152,1⟩,⟨2,4194304,2097152,2⟩,⟨3,6291456,3145728,3⟩] :=
  (node_regions_laid_iff fourNodes 9 0 _ (by decide) (by decide) rfl).mpr (show 4 ≤ 9 by decide)

/-- Two megabytes for four nodes: three regions without memory. -/
theorem empty_regions_laid :
    fourNodes.validate = .ok () ∧
      compute fourNodes 2 0 = .ok [⟨0,0,0,0⟩,⟨1,0,0,1⟩,⟨2,0,0,2⟩,⟨3,0,2097152,3⟩] ∧
      ¬ Laid fourNodes 2 0 [⟨0,0,0,0⟩,⟨1,0,0,1⟩,⟨2,0,0,2⟩,⟨3,0,2097152,3⟩] := by
  refine ⟨by decide,rfl,?_⟩
  intro laid
  have positive := laid.positive ⟨0,0,0,0⟩ mem_cons_self
  exact absurd positive (by decide)

end Ktstr.NodeMemory
