import Ktstr.Library.Packing
import Ktstr.Source.GuestLayout
import Mathlib.Algebra.BigOperators.Ring.List
import Mathlib.Tactic.Ring

/-! Memory slots, e820 table and device window of a VM against each other. -/
namespace Ktstr.MemoryMap
open List Library.Scatter Library.Packing Library.Words Source.VmTopology Source.GuestLayout Nat

def slotExtent (region : NodeRegion) : Extent := (region.gpaStart,region.size)

def entryExtent (entry : BootE820Entry) : Extent := (entry.addr,entry.size)

def deviceWindow : Extent := (mmioGapStart,mmioGapEnd - mmioGapStart)

/-- Slots, e820 table and device window describe one physical address space. -/
structure MapAgrees (regions : List NodeRegion) (memoryMb : Nat) : Prop where
  unshadowed : ∀ region ∈ regions, Apart (slotExtent region) deviceWindow
  backed : ∀ entry ∈ e820Table memoryMb, ∀ address, entry.addr ≤ address → address < entry.addr + entry.size →
    Covered (regions.map slotExtent) address
  apart : ((e820Table memoryMb).map entryExtent).Pairwise Apart
  reported : ∀ address, Covered (regions.map slotExtent) address →
    ¬ (ebdaStart ≤ address ∧ address < himemStart) → Covered ((e820Table memoryMb).map entryExtent) address

/-- Memory the slots hold: that of the explicit nodes, summed without wrapping, or the even split. -/
def slotMb (topo : Topology) (memoryMb : Nat) : Nat :=
  match topo.nodes with
  | some nodes => (nodes.map NumaNode.memoryMb).sum
  | none => memoryMb

theorem mbBytes_eq {mb : Nat} : mbBytes mb = mb * 1048576 := shiftLeft_eq mb 20

theorem stackRegions_pack (gpa slot : Nat) (entries : List (Nat × Nat))
    (fits : gpa + (entries.map Prod.snd).sum < wordSpan) :
    (stackRegions gpa slot entries).map slotExtent = pack gpa (entries.map Prod.snd) := by
  induction entries generalizing gpa slot with
  | nil => rfl
  | cons entry entries ih =>
    obtain ⟨nodeId,size⟩ := entry
    rw [map_cons,sum_cons,← add_assoc] at fits
    have here : gpa + size < wordSpan := (le_add_right _ _).trans_lt fits
    rw [stackRegions,map_cons,map_cons,wrappingAdd_of_fits here,ih _ _ fits]
    rfl

theorem stackRegions_covers (gpa slot : Nat) {entries : List (Nat × Nat)} {address : Nat}
    (low : gpa ≤ address) (high : address < gpa + (entries.map Prod.snd).sum) (inSpace : address < wordSpan) :
    Covered ((stackRegions gpa slot entries).map slotExtent) address := by
  induction entries generalizing gpa slot with
  | nil =>
    rw [map_nil,sum_nil] at high
    omega
  | cons entry entries ih =>
    obtain ⟨nodeId,size⟩ := entry
    rw [map_cons,sum_cons,← add_assoc] at high
    rw [stackRegions,map_cons,covered_cons]
    rcases lt_or_ge address (gpa + size) with here | later
    · exact Or.inl ⟨low,here⟩
    · refine Or.inr ?_
      rw [wrappingAdd_of_fits (later.trans_lt inSpace)]
      exact ih (gpa + size) (slot + 1) later high

theorem sum_filter_nonzero (entries : List (Nat × Nat)) :
    ((entries.filter fun entry => entry.2 != 0).map Prod.snd).sum = (entries.map Prod.snd).sum := by
  induction entries with
  | nil => rfl
  | cons entry entries ih =>
    rcases Nat.eq_zero_or_pos entry.2 with zero | positive
    · rw [filter_cons_of_neg (by simp [zero]),map_cons,sum_cons,zero,zero_add,ih]
    · rw [filter_cons_of_pos (by simp; omega),map_cons,map_cons,sum_cons,sum_cons,ih]

theorem nodeSizes_sum (nodes : List NumaNode) :
    ((nodeSizes nodes).map Prod.snd).sum = mbBytes (nodes.map NumaNode.memoryMb).sum := by
  rw [nodeSizes,sum_filter_nonzero,map_map,mbBytes_eq,← sum_map_mul_right]
  have pointwise : (nodes.zipIdx.map (Prod.snd ∘ fun entry => (entry.2,mbBytes entry.1.memoryMb))) =
      (nodes.zipIdx.map Prod.fst).map fun node => node.memoryMb * 1048576 := by
    rw [map_map]
    exact map_congr_left fun entry _ => mbBytes_eq
  rw [pointwise,zipIdx_map_fst]

theorem evenSizes_sum {numaNodes totalMemoryMb : Nat} (positive : 0 < numaNodes) :
    ((evenSizes numaNodes totalMemoryMb).map Prod.snd).sum = mbBytes totalMemoryMb := by
  obtain ⟨others,rfl⟩ : ∃ others, numaNodes = others + 1 := ⟨numaNodes - 1,by omega⟩
  have share : totalMemoryMb / (others + 1) * others ≤ totalMemoryMb :=
    (mul_le_mul_left _ (le_succ others)).trans (div_mul_le_self _ _)
  have leading : (List.range others).map (Prod.snd ∘ fun i => (i,mbBytes (if i = others then
      totalMemoryMb - totalMemoryMb / (others + 1) * others else totalMemoryMb / (others + 1)))) =
      List.replicate others (mbBytes (totalMemoryMb / (others + 1))) := by
    refine eq_replicate_iff.mpr ⟨by simp,?_⟩
    intro size member
    obtain ⟨i,inside,rfl⟩ := mem_map.mp member
    have below : i ≠ others := (List.mem_range.mp inside).ne
    simp [below]
  rw [evenSizes]
  simp only [Nat.add_sub_cancel]
  rw [map_map,range_succ,map_append,leading,sum_append,sum_replicate]
  simp only [map_cons,map_nil,Function.comp_apply,sum_singleton,mbBytes_eq,nsmul_eq_mul]
  have whole := Nat.add_sub_cancel' share
  calc others * (totalMemoryMb / (others + 1) * 1048576) +
        (totalMemoryMb - totalMemoryMb / (others + 1) * others) * 1048576
      = (totalMemoryMb / (others + 1) * others + (totalMemoryMb - totalMemoryMb / (others + 1) * others)) * 1048576 := by
        ring
    _ = totalMemoryMb * 1048576 := by rw [whole]

theorem compute_stack {topo : Topology} {memoryMb : Nat} {regions : List NodeRegion}
    (computed : compute topo memoryMb 0 = .ok regions) :
    ∃ entries, regions = stackRegions 0 0 entries ∧ (entries.map Prod.snd).sum = mbBytes (slotMb topo memoryMb) ∧
      (memoryMb = slotMb topo memoryMb ∨ u32Span ≤ slotMb topo memoryMb) := by
  cases kind : topo.nodes with
  | some nodes =>
    simp only [compute,kind] at computed
    split at computed
    · exact absurd computed (by simp)
    · next equal =>
      split at computed
      · exact absurd computed (by simp)
      · refine ⟨nodeSizes nodes,(Except.ok.inj computed).symm,?_,?_⟩
        · rw [nodeSizes_sum,slotMb,kind]
        · simp only [slotMb,kind]
          rw [wrapU32,u32Span] at equal
          rw [u32Span]
          omega
  | none =>
    have total : slotMb topo memoryMb = memoryMb := by rw [slotMb,kind]
    simp only [compute,kind] at computed
    rw [total]
    split at computed
    · exact ⟨[(0,mbBytes memoryMb)],(Except.ok.inj computed).symm,by simp,Or.inl rfl⟩
    · next several =>
      exact ⟨_,(Except.ok.inj computed).symm,evenSizes_sum (by omega),Or.inl rfl⟩

theorem gap_hit {topo : Topology} {memoryMb : Nat} {entries : List (Nat × Nat)}
    (whole : (entries.map Prod.snd).sum = mbBytes (slotMb topo memoryMb)) (large : 3072 < slotMb topo memoryMb) :
    ∃ region ∈ stackRegions 0 0 entries, ¬ Apart (slotExtent region) deviceWindow := by
  have beyond : mmioGapStart < 0 + (entries.map Prod.snd).sum := by
    rw [whole,mbBytes_eq,mmioGapStart]
    omega
  obtain ⟨extent,member,low,high⟩ :=
    stackRegions_covers 0 0 (zero_le _) beyond (by decide)
  obtain ⟨region,among,rfl⟩ := mem_map.mp member
  refine ⟨region,among,?_⟩
  simp only [Apart,deviceWindow,mmioGapStart,mmioGapEnd] at low high ⊢
  omega

theorem e820Table_below {memoryMb : Nat} (some : 0 < memoryMb) (small : memoryMb ≤ 3072) :
    e820Table memoryMb = [⟨0,ebdaStart⟩,⟨himemStart,memoryMb * 1048576 - himemStart⟩] := by
  have below : memoryMb * 1048576 ≤ mmioGapStart := by
    rw [mmioGapStart]
    omega
  have sub : wrappingSub (memoryMb * 1048576) himemStart = memoryMb * 1048576 - himemStart := by
    simp only [wrappingSub,wordSpan,himemStart]
    omega
  simp only [e820Table,mbBytes_eq,if_pos below,sub]

/-- Slots, e820 table and device window agree exactly for the sizes that end below the window. -/
theorem memory_map_agrees_iff (topo : Topology) (memoryMb : Nat) (regions : List NodeRegion)
    (computed : compute topo memoryMb 0 = .ok regions) :
    MapAgrees regions memoryMb ↔ 0 < memoryMb ∧ slotMb topo memoryMb ≤ 3072 := by
  obtain ⟨entries,rfl,whole,wrapped⟩ := compute_stack computed
  rw [u32Span] at wrapped
  constructor
  · intro agrees
    have small : slotMb topo memoryMb ≤ 3072 := by
      by_contra large
      obtain ⟨region,among,shadows⟩ := gap_hit whole (Nat.lt_of_not_le large)
      exact shadows (agrees.unshadowed region among)
    refine ⟨pos_of_ne_zero ?_,small⟩
    intro none
    have empty : slotMb topo memoryMb = 0 := by omega
    have covered := agrees.backed ⟨0,ebdaStart⟩ mem_cons_self 0 (zero_le _) (by decide)
    rw [stackRegions_pack 0 0 entries (by rw [whole,empty]; decide),covered_pack,whole,empty] at covered
    exact absurd covered.2 (by decide)
  · rintro ⟨positive,small⟩
    have same : slotMb topo memoryMb = memoryMb := by omega
    rw [same] at whole small
    rw [mbBytes_eq] at whole
    have slots := stackRegions_pack 0 0 entries (by rw [wordSpan]; omega)
    have ram (address : Nat) :
        Covered ((stackRegions 0 0 entries).map slotExtent) address ↔ address < memoryMb * 1048576 := by
      rw [slots,covered_pack,whole,zero_add]
      exact and_iff_right (zero_le _)
    have table := e820Table_below positive small
    refine ⟨?_,?_,?_,?_⟩
    · intro region among
      rcases Nat.eq_zero_or_pos region.size with zero | filled
      · exact Or.inl zero
      · have top := (ram (region.gpaStart + region.size - 1)).mp
          ⟨slotExtent region,mem_map_of_mem among,by simp only [slotExtent]; omega⟩
        simp only [Apart,slotExtent,deviceWindow,mmioGapStart]
        omega
    · intro entry listed address low high
      rw [table] at listed
      rw [ram]
      simp only [mem_cons,not_mem_nil,or_false] at listed
      rcases listed with rfl | rfl <;> simp only [ebdaStart] at low high <;> omega
    · rw [table]
      simp [entryExtent,Apart,ebdaStart,himemStart]
    · intro address covered outside
      rw [ram] at covered
      rw [table]
      simp only [map_cons,covered_cons,entryExtent] at outside ⊢
      omega

def twoNodes : Topology where
  llcs := 2
  coresPerLlc := 2
  threadsPerCore := 1
  numaNodes := 2

theorem one_gigabyte_map_agrees : MapAgrees [⟨0,0,536870912,0⟩,⟨1,536870912,536870912,1⟩] 1024 :=
  (memory_map_agrees_iff twoNodes 1024 _ rfl).mpr (by decide)

/-- With four gigabytes the slot of the second node lies over the device window. -/
theorem device_window_shadowed :
    twoNodes.validate = .ok () ∧ compute twoNodes 4096 0 = .ok [⟨0,0,2147483648,0⟩,⟨1,2147483648,2147483648,1⟩] ∧
      ¬ MapAgrees [⟨0,0,2147483648,0⟩,⟨1,2147483648,2147483648,1⟩] 4096 := by
  refine ⟨by decide,rfl,?_⟩
  intro agrees
  have apart := agrees.unshadowed ⟨1,2147483648,2147483648,1⟩ (by simp)
  exact absurd apart (by decide)

end Ktstr.MemoryMap
