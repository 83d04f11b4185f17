import Mathlib.Data.List.GetD
import Mathlib.Data.List.Rotate
import Ktstr.Library.Maps
import Ktstr.Library.Rotations
import Ktstr.Library.Shares
import Ktstr.Source.Pinning

/-! The order in which virtual LLCs take host LLCs: one after another, or guest node by guest node on host nodes of their
own. -/
namespace Ktstr.LlcOrders
open List Library.Maps Library.Rotations Library.Shares Source.Topology Source.VmTopology Source.Pinning

def maxPerNode (numaNodes llcs : Nat) : Nat := llcs / numaNodes + if llcs % numaNodes > 0 then 1 else 0

variable (host : Host) (numaNodes llcs : Nat)

def eligible : List (Nat × List Nat) :=
  numaNodesWithCapacity host (maxPerNode numaNodes llcs)

def Aligns : Prop :=
  2 ≤ numaNodes ∧ ¬ host.cpuToNode.isEmpty ∧ numaNodes ≤ llcs ∧
    numaNodes ≤ (eligible host numaNodes llcs).length

instance (host : Host) (numaNodes llcs : Nat) : Decidable (Aligns host numaNodes llcs) :=
  inferInstanceAs (Decidable (_ ∧ _))

/-- The host LLCs of a guest node, where guest nodes are aligned. -/
def aligned (llcOffset : Nat) : Nat → List Nat :=
  guestNodeLlcs (eligible host numaNodes llcs) llcOffset (llcOffset / max (maxPerNode numaNodes llcs) 1)
    (llcs / numaNodes) (llcs % numaNodes)

theorem order_aligned {host : Host} {numaNodes llcs llcOffset : Nat} (aligns : Aligns host numaNodes llcs) :
    numaAwareLlcOrder host numaNodes llcs llcOffset =
      some ((List.range numaNodes).flatMap (aligned host numaNodes llcs llcOffset)) := by
  obtain ⟨several,known,enough,room⟩ := aligns
  unfold numaAwareLlcOrder
  rw [if_neg (by simp [known]; omega),if_neg (by omega)]
  exact if_neg (Nat.not_lt.mpr room)

theorem order_sequential {host : Host} {numaNodes llcs llcOffset : Nat} (plain : ¬ Aligns host numaNodes llcs) :
    numaAwareLlcOrder host numaNodes llcs llcOffset = sequentialFallback host llcs llcOffset := by
  unfold numaAwareLlcOrder
  split_ifs with degenerate few
  · rfl
  · rfl
  · refine if_pos ?_
    by_contra room
    refine plain ⟨by omega,?_,by omega,Nat.not_lt.mp room⟩
    intro empty
    exact degenerate (Or.inr (Or.inr empty))

section
variable (orders : Nat → Iteration) (groups : List LlcGroup) (cpuToNode : Std.ExtTreeMap Nat Nat)

def hostNode (idx : Nat) : Nat :=
  majorityNode (orders idx) (nodeCounts (fun cpu => cpuToNode[cpu]?) (groups.getD idx ⟨[]⟩))

/-- Each LLC listed for a host node is one of the host, once and on that node. -/
def Grouped (host : Host) (node : Nat → Nat) : Prop :=
  ∀ entry ∈ host.hostNodeLlcs.toList,
    entry.2.Nodup ∧ ∀ idx ∈ entry.2, idx < host.llcGroups.length ∧ node idx = entry.1

variable {orders groups cpuToNode} {online : List Nat}

theorem node_llcs : Grouped (Host.build orders groups online cpuToNode) (hostNode orders groups cpuToNode) := by
  rintro ⟨node,llcs⟩ listed
  have found := Std.ExtTreeMap.mem_toList_iff_getElem?_eq_some.mp listed
  have rows : (Host.build orders groups online cpuToNode).hostNodeLlcs[node]?.getD [] = _ := getElem?_buckets
    Prod.snd groups.zipIdx node
  rw [found] at rows
  subst rows
  constructor
  · refine List.Nodup.sublist (filter_sublist.map Prod.snd) ?_
    rw [zipIdx_map_snd]
    exact nodup_range'
  · intro idx member
    obtain ⟨⟨group,place⟩,kept,rfl⟩ := mem_map.mp member
    obtain ⟨among,same⟩ := mem_filter.mp kept
    obtain ⟨_,inside,here⟩ := mem_zipIdx among
    refine ⟨by simpa [Host.build] using inside,?_⟩
    have held : groups.getD place ⟨[]⟩ = group := by
      simp [here,getElem?_eq_getElem (by simpa using inside)]
    rw [hostNode,held]
    simpa using same

end

section
variable (host : Host) (numaNodes llcs llcOffset : Nat)

def nodeSlot (guestNode : Nat) : Nat :=
  slot usizeSpan (eligible host numaNodes llcs).length (llcOffset / max (maxPerNode numaNodes llcs) 1) guestNode

def landing (guestNode : Nat) : Nat × List Nat :=
  (eligible host numaNodes llcs).getD (nodeSlot host numaNodes llcs llcOffset guestNode) (0,[])

theorem length_aligned (guestNode : Nat) :
    (aligned host numaNodes llcs llcOffset guestNode).length = share (llcs / numaNodes) (llcs % numaNodes) guestNode := by
  rw [aligned,guestNodeLlcs,length_map,length_range]
  rfl

theorem share_le (guestNode : Nat) : share (llcs / numaNodes) (llcs % numaNodes) guestNode ≤ maxPerNode numaNodes llcs := by
  unfold share maxPerNode
  split
  · rw [if_pos (by omega)]
  · omega

variable {host numaNodes llcs} (aligns : Aligns host numaNodes llcs)
include aligns

variable (guestNode : Nat)

theorem nodeSlot_lt : nodeSlot host numaNodes llcs llcOffset guestNode < (eligible host numaNodes llcs).length :=
  slot_lt _ _ _ (Nat.lt_of_lt_of_le Nat.zero_lt_two (aligns.1.trans aligns.2.2.2))

theorem landing_eq_getElem : landing host numaNodes llcs llcOffset guestNode =
      (eligible host numaNodes llcs).get ⟨_,nodeSlot_lt llcOffset aligns guestNode⟩ :=
  getD_eq_getElem _ _ _

theorem landing_listed : landing host numaNodes llcs llcOffset guestNode ∈ host.hostNodeLlcs.toList ∧
      maxPerNode numaNodes llcs ≤ (landing host numaNodes llcs llcOffset guestNode).2.length := by
  have member : landing host numaNodes llcs llcOffset guestNode ∈ eligible host numaNodes llcs := by
    rw [landing_eq_getElem llcOffset aligns]
    exact get_mem _ _
  obtain ⟨listed,capacity⟩ := mem_filter.mp member
  exact ⟨listed,by simpa using capacity⟩

variable {llcOffset guestNode}

theorem aligned_eq : aligned host numaNodes llcs llcOffset guestNode =
      ((landing host numaNodes llcs llcOffset guestNode).2.rotate llcOffset).take
        (share (llcs / numaNodes) (llcs % numaNodes) guestNode) := by
  have capacity := (landing_listed llcOffset aligns guestNode).2
  have bound := share_le numaNodes llcs guestNode
  have counted := length_aligned host numaNodes llcs llcOffset guestNode
  rw [← rotate_mod]
  refine ext_getElem ?_ ?_
  · rw [length_take,length_rotate,Nat.min_eq_left (by omega),counted]
  · intro place inside _
    have positive : 0 < (landing host numaNodes llcs llcOffset guestNode).2.length := by omega
    rw [getElem_take,getElem_rotate]
    refine (getElem_map _).trans ?_
    rw [getElem_range]
    exact getD_eq_getElem _ _ (Nat.mod_lt _ positive)

theorem mem_landing {idx : Nat} (member : idx ∈ aligned host numaNodes llcs llcOffset guestNode) :
    idx ∈ (landing host numaNodes llcs llcOffset guestNode).2 := by
  rw [aligned_eq aligns] at member
  exact mem_rotate.mp (mem_of_mem_take member)

theorem landing_eq_iff {first second : Nat} :
    (landing host numaNodes llcs llcOffset first).1 = (landing host numaNodes llcs llcOffset second).1 ↔
      nodeSlot host numaNodes llcs llcOffset first = nodeSlot host numaNodes llcs llcOffset second := by
  have keys : ((eligible host numaNodes llcs).map Prod.fst).Nodup := by
    refine List.Nodup.sublist (filter_sublist.map Prod.fst) ?_
    rw [Std.ExtTreeMap.map_fst_toList_eq_keys]
    exact keys_nodup
  constructor
  · intro same
    rw [landing_eq_getElem llcOffset aligns,landing_eq_getElem llcOffset aligns] at same
    have inside (guestNode : Nat) : nodeSlot host numaNodes llcs llcOffset guestNode <
        ((eligible host numaNodes llcs).map Prod.fst).length := by
      rw [length_map]
      exact nodeSlot_lt llcOffset aligns guestNode
    have equal : (⟨_,inside first⟩ : Fin _) = ⟨_,inside second⟩ :=
      nodup_iff_injective_get.mp keys (by simpa using same)
    exact Fin.mk.inj equal
  · intro same
    rw [landing,landing,same]

theorem length_order : ((List.range numaNodes).flatMap (aligned host numaNodes llcs llcOffset)).length = llcs := by
  rw [length_flatMap_range (llcs / numaNodes) (llcs % numaNodes) _ _ fun guestNode _ => length_aligned _ _ _ _ guestNode]
  exact start_total llcs (Nat.lt_of_lt_of_le Nat.zero_lt_two aligns.1)

theorem order_at {place : Nat} (inside : guestNode < numaNodes)
    (within : place < share (llcs / numaNodes) (llcs % numaNodes) guestNode) :
    ∃ idx ∈ (landing host numaNodes llcs llcOffset guestNode).2,
      ((List.range numaNodes).flatMap (aligned host numaNodes llcs llcOffset))[
        start (llcs / numaNodes) (llcs % numaNodes) guestNode + place]? = some idx := by
  rw [getElem?_flatMap_range _ _ _ _ _ _ (fun guestNode _ => length_aligned _ _ _ _ guestNode) inside within]
  have present : place < (aligned host numaNodes llcs llcOffset guestNode).length := by
    rw [length_aligned]
    exact within
  refine ⟨_,?_,getElem?_eq_getElem present⟩
  exact mem_landing aligns (getElem_mem present)

end

end Ktstr.LlcOrders
