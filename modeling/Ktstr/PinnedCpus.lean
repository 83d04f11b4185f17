import Ktstr.GuestShapes
import Ktstr.Library.Fallible
import Ktstr.LlcOrders

/-! Pinned vCPUs have host CPUs of their own, and virtual LLCs host LLCs of their own unless the rotation wraps. -/
namespace Ktstr.PinnedCpus
open Library.Fallible Library.Rotations Library.Shares Source.Topology Source.VmTopology Source.Pinning GuestShapes
  LlcOrders Nat List
open List

/-- When the rotation, by node or by LLC, does not come back to where it began. -/
def Distinct (host : Host) (numaNodes llcs llcOffset : Nat) : Prop :=
  if Aligns host numaNodes llcs then
    Spread usizeSpan (eligible host numaNodes llcs).length (llcOffset / max (maxPerNode numaNodes llcs) 1) numaNodes
  else Spread usizeSpan host.llcGroups.length llcOffset llcs

instance (host : Host) (numaNodes llcs llcOffset : Nat) : Decidable (Distinct host numaNodes llcs llcOffset) :=
  inferInstanceAs (Decidable (if Aligns host numaNodes llcs then Spread _ _ _ _ else Spread _ _ _ _))

section
variable {host : Host} {node : Nat → Nat} {numaNodes llcs llcOffset : Nat} (grouped : Grouped host node)
  (aligns : Aligns host numaNodes llcs)
include grouped aligns

theorem nodup_aligned {guestNode : Nat} : (aligned host numaNodes llcs llcOffset guestNode).Nodup := by
  rw [aligned_eq aligns]
  refine List.Nodup.sublist (take_sublist _ _) (nodup_rotate.mpr ?_)
  exact (grouped _ (landing_listed llcOffset aligns guestNode).1).1

theorem disjoint_aligned_iff {first second : Nat} :
    List.Disjoint (aligned host numaNodes llcs llcOffset first)
        (aligned host numaNodes llcs llcOffset second) ↔
      nodeSlot host numaNodes llcs llcOffset first ≠
        nodeSlot host numaNodes llcs llcOffset second := by
  constructor
  · intro disjoint same
    have base : 0 < llcs / numaNodes := Nat.div_pos aligns.2.2.1 (Nat.lt_of_lt_of_le Nat.zero_lt_two aligns.1)
    have nonempty (guestNode : Nat) : 0 < share (llcs / numaNodes) (llcs % numaNodes) guestNode := by
      unfold share
      split <;> omega
    have enough := (landing_listed llcOffset aligns first).2
    have bound := share_le numaNodes llcs first
    have landed : landing host numaNodes llcs llcOffset second =
        landing host numaNodes llcs llcOffset first := by
      rw [landing,landing,same]
    rw [aligned_eq aligns,aligned_eq aligns,landed] at disjoint
    cases llcsOf : (landing host numaNodes llcs llcOffset first).2.rotate llcOffset with
    | nil =>
      have empty := congrArg length llcsOf
      rw [length_rotate,length_nil] at empty
      have := nonempty first
      omega
    | cons idx rest =>
      rw [llcsOf] at disjoint
      obtain ⟨less,firstIs⟩ := exists_eq_succ_of_ne_zero (nonempty first).ne'
      obtain ⟨more,secondIs⟩ := exists_eq_succ_of_ne_zero (nonempty second).ne'
      rw [firstIs,secondIs] at disjoint
      exact disjoint mem_cons_self mem_cons_self
  · intro apart idx inFirst inSecond
    have inFirst := mem_landing aligns inFirst
    have inSecond := mem_landing aligns inSecond
    have llcsOn (guestNode : Nat) := (grouped _ (landing_listed llcOffset aligns guestNode).1).2
    refine apart ((landing_eq_iff aligns).mp ?_)
    rw [← (llcsOn first idx inFirst).2,← (llcsOn second idx inSecond).2]

theorem nodup_order_aligned_iff (narrow : numaNodes < u32Span) (fits : llcOffset < usizeSpan) :
    ((range numaNodes).flatMap (aligned host numaNodes llcs llcOffset)).Nodup ↔
      Spread usizeSpan (eligible host numaNodes llcs).length
        (llcOffset / max (maxPerNode numaNodes llcs) 1) numaNodes := by
  have wide : u32Span ≤ usizeSpan := by decide
  have below : llcOffset / max (maxPerNode numaNodes llcs) 1 < usizeSpan := (div_le_self _ _).trans_lt fits
  rw [← nodup_slots_iff usizeSpan _ _ below aligns.2.2.2 (by omega),nodup_flatMap,
    and_iff_right fun guestNode _ => nodup_aligned grouped aligns]
  refine Iff.trans ?_ pairwise_map.symm
  exact List.Pairwise.iff fun first second => disjoint_aligned_iff grouped aligns

end

/-- What is wanted of the order: an LLC of the host for each virtual one, no two the same where there are enough. -/
def OrderSound (host : Host) (numaNodes llcs llcOffset : Nat) : Prop :=
  ∃ order, numaAwareLlcOrder host numaNodes llcs llcOffset = some order ∧ order.length = llcs ∧
    (∀ idx ∈ order, idx < host.llcGroups.length) ∧ (llcs ≤ host.llcGroups.length → order.Nodup)

section
variable {host : Host} {node : Nat → Nat} {numaNodes llcOffset : Nat} (llcs : Nat) (grouped : Grouped host node)
include grouped

theorem order_spec (order : List Nat) (narrow : numaNodes < u32Span) (few : llcs < u32Span)
    (fits : llcOffset < usizeSpan)
    (made : numaAwareLlcOrder host numaNodes llcs llcOffset = some order) :
    order.length = llcs ∧ (∀ idx ∈ order, idx < host.llcGroups.length) ∧
      (llcs ≤ host.llcGroups.length → (order.Nodup ↔ Distinct host numaNodes llcs llcOffset)) := by
  have wide : u32Span ≤ usizeSpan := by decide
  by_cases aligns : Aligns host numaNodes llcs
  · rw [order_aligned aligns,Option.some.injEq] at made
    subst made
    refine ⟨length_order aligns,fun idx member => ?_,fun _ => ?_⟩
    · obtain ⟨guestNode,_,member⟩ := mem_flatMap.mp member
      exact ((grouped _ (landing_listed llcOffset aligns guestNode).1).2 idx (mem_landing aligns member)).1
    · rw [Distinct,if_pos aligns]
      exact nodup_order_aligned_iff grouped aligns narrow fits
  · rw [order_sequential aligns,sequentialFallback] at made
    split_ifs at made with bare
    rw [Option.some.injEq] at made
    subst made
    refine ⟨by simp,?_,fun room => ?_⟩
    · intro idx member
      obtain ⟨i,inside,rfl⟩ := mem_map.mp member
      have some := mem_range.mp inside
      exact Nat.mod_lt _ (Nat.pos_of_ne_zero fun zero => bare ⟨zero,by omega⟩)
    · rw [Distinct,if_neg aligns]
      exact nodup_slots_iff usizeSpan host.llcGroups.length llcOffset fits room (by omega)

theorem order_exists_iff :
    (∃ order, numaAwareLlcOrder host numaNodes llcs llcOffset = some order) ↔
      (llcs = 0 ∨ host.llcGroups ≠ []) := by
  by_cases aligns : Aligns host numaNodes llcs
  · refine iff_of_true ⟨_,order_aligned aligns⟩ (Or.inr ?_)
    have base : 0 < llcs / numaNodes := Nat.div_pos aligns.2.2.1 (Nat.lt_of_lt_of_le Nat.zero_lt_two aligns.1)
    obtain ⟨listed,enough⟩ := landing_listed llcOffset aligns 0
    have nonempty := base.trans_le ((le_add_right _ _).trans enough)
    have first := (grouped _ listed).2 _ (getElem_mem nonempty)
    exact ne_nil_of_length_pos ((zero_le _).trans_lt first.1)
  · rw [order_sequential aligns,sequentialFallback]
    simp only [length_eq_zero_iff]
    split_ifs with bare
    · simp [bare]
      omega
    · refine iff_of_true ⟨_,rfl⟩ ?_
      by_cases empty : host.llcGroups = []
      · exact Or.inl (by simpa [empty] using bare)
      · exact Or.inr empty

theorem order_sound_iff_distinct (narrow : numaNodes < u32Span) (few : llcs < u32Span) (fits : llcOffset < usizeSpan) :
    OrderSound host numaNodes llcs llcOffset ↔
      (llcs = 0 ∨ host.llcGroups ≠ []) ∧
        (llcs ≤ host.llcGroups.length → Distinct host numaNodes llcs llcOffset) := by
  have spec order := order_spec llcs grouped order narrow few fits
  rw [← order_exists_iff llcs grouped]
  constructor
  · rintro ⟨order,made,_,_,distinct⟩
    exact ⟨⟨order,made⟩,fun room => ((spec order made).2.2 room).mp (distinct room)⟩
  · rintro ⟨⟨order,made⟩,distinct⟩
    obtain ⟨length,inside,nodup⟩ := spec order made
    exact ⟨order,made,length,inside,fun room => (nodup room).mpr (distinct room)⟩

end

/-! vCPUs -/

structure Pins (host : Host) (order : List Nat) (vcpusPerLlc llcs : Nat) (pinned : Pinned) : Prop where
  ids : pinned.assignments.map Prod.fst = List.range (llcs * vcpusPerLlc)
  cpus : (∀ group ∈ host.llcGroups, group.cpus.Nodup) → (pinned.assignments.map Prod.snd).Nodup
  used : ∀ cpu, cpu ∈ pinned.usedCpus ↔ cpu ∈ pinned.assignments.map Prod.snd
  inside : ∀ pair ∈ pinned.assignments,
    pair.2 ∈ (host.llcGroups.getD (order.getD (pair.1 / vcpusPerLlc) 0) ⟨[]⟩).cpus

theorem foldl_pinVcpu (vcpusPerLlc llc : Nat) (available : List Nat) (pinned : Pinned) (count : Nat) :
    (range count).foldl (pinVcpu vcpusPerLlc llc available) pinned =
      ⟨pinned.assignments ++ (range count).map fun vcpu =>
          (wrapU32 (wrapU32 (llc * vcpusPerLlc) + vcpu),available.getD vcpu 0),
        pinned.usedCpus ∪ ((range count).map fun vcpu => available.getD vcpu 0).toFinset⟩ := by
  induction count with
  | zero => simp
  | succ count ih =>
    rw [range_succ,foldl_concat,ih,pinVcpu]
    rw [Pinned.mk.injEq]
    constructor
    · simp
    · simp only [map_append,toFinset_append,map_cons,map_nil,toFinset_cons,toFinset_nil]
      rw [← Finset.union_assoc,Finset.union_insert,Finset.union_empty]

theorem map_getD_range (cpus : List Nat) (count : Nat) (enough : count ≤ cpus.length) :
    ((range count).map fun vcpu => cpus.getD vcpu 0) = cpus.take count := by
  refine ext_getElem (by simp [enough]) fun place inside _ => ?_
  have bound : place < cpus.length := by
    rw [length_map,length_range] at inside
    omega
  simp [bound]

section
variable {host : Host} {order : List Nat} {vcpusPerLlc : Nat}

theorem pinLlc_pins (positive : 0 < vcpusPerLlc) (llcs : Nat) (pinned next : Pinned)
    (small : (llcs + 1) * vcpusPerLlc < u32Span) (pins : Pins host order vcpusPerLlc llcs pinned) (done : pinLlc host order vcpusPerLlc pinned llcs = .ok next) :
    Pins host order vcpusPerLlc (llcs + 1) next := by
  simp only [pinLlc] at done
  split_ifs at done with short
  have next_eq := (Except.ok.inj done).symm
  generalize groupIs : host.llcGroups.getD (order.getD llcs 0) ⟨[]⟩ = group at next_eq short
  generalize availableIs : (group.cpus.filter fun cpu => decide (cpu ∉ pinned.usedCpus)) = available at next_eq short
  have groupUnique (unique : ∀ group ∈ host.llcGroups, group.cpus.Nodup) : group.cpus.Nodup := by
    rw [← groupIs]
    by_cases listed : order.getD llcs 0 < host.llcGroups.length
    · rw [getD_eq_getElem _ _ listed]
      exact unique _ (getElem_mem listed)
    · rw [getD_eq_default _ _ (by omega)]
      exact nodup_nil
  have taken := map_getD_range available vcpusPerLlc (by omega)
  have takenFree (cpu : Nat) (member : cpu ∈ available.take vcpusPerLlc) : cpu ∈ group.cpus ∧ cpu ∉ pinned.usedCpus := by
    have among := mem_of_mem_take member
    rw [← availableIs,mem_filter] at among
    exact ⟨among.1,by simpa using among.2⟩
  rw [succ_mul] at small
  have identity (vcpu : Nat) (below : vcpu < vcpusPerLlc) :
      wrapU32 (wrapU32 (llcs * vcpusPerLlc) + vcpu) = llcs * vcpusPerLlc + vcpu := by
    have first : llcs * vcpusPerLlc < u32Span := by omega
    rw [wrapU32,wrapU32,mod_eq_of_lt first,mod_eq_of_lt (by omega)]
  rw [foldl_pinVcpu,taken] at next_eq
  subst next_eq
  have snds : ((range vcpusPerLlc).map fun vcpu =>
      (wrapU32 (wrapU32 (llcs * vcpusPerLlc) + vcpu),available.getD vcpu 0)).map Prod.snd = available.take vcpusPerLlc := by
    rw [map_map]
    exact taken
  constructor
  · rw [map_append,pins.ids,map_map,succ_mul,range_add]
    congr 1
    refine map_congr_left fun vcpu inside => identity vcpu (mem_range.mp inside)
  · intro unique
    rw [map_append,snds]
    refine List.Nodup.append (pins.cpus unique) ?_ ?_
    · rw [← availableIs]
      exact ((groupUnique unique).filter _).sublist (take_sublist _ _)
    · intro cpu before after
      exact (takenFree cpu after).2 ((pins.used cpu).mpr before)
  · intro cpu
    rw [map_append,snds,Finset.mem_union,mem_append,pins.used,mem_toFinset]
  · intro pair member
    rcases mem_append.mp member with before | after
    · exact pins.inside pair before
    · obtain ⟨vcpu,inside,rfl⟩ := mem_map.mp after
      have below := mem_range.mp inside
      have place : (llcs * vcpusPerLlc + vcpu) / vcpusPerLlc = llcs := by
        rw [mul_comm,mul_add_div positive,div_eq_of_lt below,add_zero]
      rw [identity vcpu below,place,groupIs]
      refine (takenFree _ ?_).1
      rw [← taken]
      exact mem_map.mpr ⟨vcpu,inside,rfl⟩

theorem foldlM_pins (positive : 0 < vcpusPerLlc) {llcs : Nat} {pinned : Pinned} (small : llcs * vcpusPerLlc < u32Span)
    (done : (range llcs).foldlM (pinLlc host order vcpusPerLlc) {} = .ok pinned) :
    Pins host order vcpusPerLlc llcs pinned := by
  refine foldlM_range_ok {} pinned llcs ?_ ?_ done
  · exact ⟨by simp,fun _ => nodup_nil,by simp,by simp⟩
  · intro llc state next below pins stepped
    have room : (llc + 1) * vcpusPerLlc ≤ llcs * vcpusPerLlc := mul_le_mul_right vcpusPerLlc below
    exact pinLlc_pins positive llc state next (by omega) pins stepped

end

theorem Pins.llc {host : Host} {order : List Nat} {topo : Topology} {pinned : Pinned}
    (pins : Pins host order (topo.coresPerLlc * topo.threadsPerCore) topo.llcs pinned) (accepted : Accepted topo)
    (pair : Nat × Nat) (member : pair ∈ pinned.assignments) :
    (topo.decompose pair.1).1 = pair.1 / (topo.coresPerLlc * topo.threadsPerCore) ∧
      (topo.decompose pair.1).1 < topo.llcs := by
  have known : pair.1 ∈ pinned.assignments.map Prod.fst := mem_map_of_mem member
  rw [pins.ids,mem_range,mul_comm] at known
  have llc : (topo.decompose pair.1).1 = pair.1 / (topo.coresPerLlc * topo.threadsPerCore) := by
    rw [Topology.decompose,wrapU32,mul_comm topo.threadsPerCore,mod_eq_of_lt accepted.perLlc]
  rw [llc]
  exact ⟨rfl,Nat.div_lt_of_lt_mul known⟩

variable (host : Host) (topo : Topology)

theorem plan_pins {reserve : Bool} {llcOffset : Nat} {plan : PinningPlan} (accepted : Accepted topo)
    (made : computePinning host topo reserve llcOffset = .ok plan) :
    ∃ order pinned, topo.llcs ≤ host.llcGroups.length ∧
      numaAwareLlcOrder host topo.numaNodes topo.llcs llcOffset = some order ∧
      Pins host order (topo.coresPerLlc * topo.threadsPerCore) topo.llcs pinned ∧
      plan.assignments = pinned.assignments ∧ (∀ cpu, plan.serviceCpu = some cpu → cpu ∉ pinned.usedCpus) ∧
      plan.llcIndices = (order.insertionSort (· ≤ ·)).destutter (· ≠ ·) := by
  have perLlc := mod_eq_of_lt accepted.perLlc
  unfold computePinning at made
  extract_lets vcpusPerLlc totalVcpus service totalNeeded at made
  split_ifs at made with cpus llcs
  cases ordered : numaAwareLlcOrder host topo.numaNodes topo.llcs llcOffset with
  | none =>
    rw [ordered] at made
    cases made
  | some order =>
    rw [ordered] at made
    obtain ⟨pinned,done,made⟩ := bind_ok _ _ _ made
    obtain ⟨serviceCpu,served,made⟩ := bind_ok _ _ _ made
    obtain rfl := Except.ok.inj made
    rw [show vcpusPerLlc = _ from perLlc] at done
    have pins := foldlM_pins (Nat.mul_pos accepted.cores accepted.threads) accepted.total done
    refine ⟨order,pinned,by omega,rfl,pins,rfl,?_,rfl⟩
    rintro cpu rfl
    rw [findServiceCpu] at served
    split at served
    · split at served
      · next found =>
        obtain rfl := Option.some.inj (Except.ok.inj served)
        simpa using find?_some found
      · cases served
    · cases served

theorem plan_follows_order {reserve : Bool} {llcOffset : Nat} {plan : PinningPlan} (accepted : Accepted topo)
    (made : computePinning host topo reserve llcOffset = .ok plan) :
    ∃ order, numaAwareLlcOrder host topo.numaNodes topo.llcs llcOffset = some order ∧
      ∀ pair ∈ plan.assignments, (topo.decompose pair.1).1 < topo.llcs ∧
        pair.2 ∈ (host.llcGroups.getD (order.getD (topo.decompose pair.1).1 0) ⟨[]⟩).cpus := by
  obtain ⟨order,pinned,_,ordered,pins,assigned,_,_⟩ := plan_pins host topo accepted made
  refine ⟨order,ordered,fun pair member => ?_⟩
  rw [assigned] at member
  obtain ⟨llc,below⟩ := pins.llc accepted pair member
  refine ⟨below,?_⟩
  rw [llc]
  exact pins.inside pair member

/-- What is wanted of a plan: every vCPU in order on a CPU of its own, and every virtual LLC inside a host LLC of its own. -/
structure PlanSound (host : Host) (topo : Topology) (plan : PinningPlan) : Prop where
  vcpus : plan.assignments.map Prod.fst = List.range topo.totalCpus
  distinct : (plan.assignments.map Prod.snd).Nodup
  apart : ∀ cpu, plan.serviceCpu = some cpu → cpu ∉ plan.assignments.map Prod.snd
  placed : ∃ groupOf : Nat → Nat,
    (∀ pair ∈ plan.assignments, ∃ group, host.llcGroups[groupOf (topo.decompose pair.1).1]? = some group ∧
      pair.2 ∈ group.cpus) ∧
    (∀ first < topo.llcs, ∀ second < topo.llcs, groupOf first = groupOf second → first = second) ∧
    plan.llcIndices.Pairwise (· < ·) ∧ ∀ idx, idx ∈ plan.llcIndices ↔ ∃ llc < topo.llcs, groupOf llc = idx

variable (order : List Nat)

theorem mem_sorted_set (idx : Nat) : idx ∈ (order.insertionSort (· ≤ ·)).destutter (· ≠ ·) ↔ idx ∈ order := by
  rw [(pairwise_insertionSort (· ≤ ·) order).destutter_eq_dedup,mem_dedup,mem_insertionSort]

theorem sorted_set : ((order.insertionSort (· ≤ ·)).destutter (· ≠ ·)).Pairwise (· < ·) := by
  have sorted := pairwise_insertionSort (· ≤ ·) order
  rw [sorted.destutter_eq_dedup]
  refine ((sorted.sublist (dedup_sublist _)).and (nodup_dedup _)).imp ?_
  rintro first second ⟨le,ne⟩
  exact lt_of_le_of_ne le ne

theorem nodup_of_placed {groupOf : Nat → Nat}
    (injective : ∀ first < order.length, ∀ second < order.length, groupOf first = groupOf second → first = second)
    (listed : ∀ idx, idx ∈ order ↔ ∃ llc < order.length, groupOf llc = idx) : order.Nodup := by
  have image : order.toFinset = (Finset.range order.length).image groupOf := by
    ext idx
    simp [listed]
  have card : order.toFinset.card = order.length := by
    rw [image,Finset.card_image_of_injOn,Finset.card_range]
    intro first firstIn second secondIn
    exact injective first (by simpa using firstIn) second (by simpa using secondIn)
  exact Multiset.toFinset_card_eq_card_iff_nodup.mp card

theorem mem_iff_getD {idx : Nat} : idx ∈ order ↔ ∃ llc < order.length, order.getD llc 0 = idx := by
  rw [mem_iff_getElem]
  constructor
  · rintro ⟨llc,inside,rfl⟩
    exact ⟨llc,inside,getD_eq_getElem _ _ inside⟩
  · rintro ⟨llc,inside,rfl⟩
    exact ⟨llc,inside,(getD_eq_getElem _ _ inside).symm⟩

theorem plan_sound_iff_nodup {plan : PinningPlan} {order : List Nat} {pinned : Pinned}
    (accepted : Accepted topo) (unique : ∀ group ∈ host.llcGroups, group.cpus.Nodup)
    (length : order.length = topo.llcs) (inside : ∀ idx ∈ order, idx < host.llcGroups.length)
    (pins : Pins host order (topo.coresPerLlc * topo.threadsPerCore) topo.llcs pinned)
    (assigned : plan.assignments = pinned.assignments)
    (apart : ∀ cpu, plan.serviceCpu = some cpu → cpu ∉ pinned.usedCpus)
    (indices : plan.llcIndices = (order.insertionSort (· ≤ ·)).destutter (· ≠ ·)) :
    PlanSound host topo plan ↔ order.Nodup := by
  constructor
  · intro sound
    obtain ⟨groupOf,_,injective,_,listed⟩ := sound.placed
    rw [← length] at injective listed
    refine nodup_of_placed order injective fun idx => ?_
    rw [← listed,indices,mem_sorted_set]
  · intro distinct
    refine ⟨?_,?_,?_,fun llc => order.getD llc 0,?_,?_,?_,?_⟩
    · rw [assigned,pins.ids,accepted.counted,mul_assoc]
    · rw [assigned]
      exact pins.cpus unique
    · intro cpu served
      rw [assigned,← pins.used]
      exact apart cpu served
    · intro pair member
      rw [assigned] at member
      have llc := (pins.llc accepted pair member).2
      have among := inside _ ((mem_iff_getD order).mpr ⟨_,llc.trans_eq length.symm,rfl⟩)
      have placed := pins.inside pair member
      rw [← (pins.llc accepted pair member).1,getD_eq_getElem _ _ among] at placed
      exact ⟨_,getElem?_eq_getElem among,placed⟩
    · rw [← length]
      intro first firstIn second secondIn same
      simp only [getD_eq_getElem _ _ firstIn,getD_eq_getElem _ _ secondIn] at same
      exact distinct.getElem_inj_iff.mp same
    · rw [indices]
      exact sorted_set order
    · intro idx
      rw [indices,mem_sorted_set,mem_iff_getD,length]

/-- Whatever the host and the guest: the order has an LLC for each virtual one unless the host has none, and it and every
plan made keep them distinct exactly if the rotation does not come back to where it began. -/
theorem pinning_sound_iff (orders : Nat → Iteration) (groups : List LlcGroup) (online : List Nat)
    (cpuToNode : Std.ExtTreeMap Nat Nat) (unique : ∀ group ∈ groups, group.cpus.Nodup) (llcOffset : Nat)
    (fits : llcOffset < usizeSpan) :
    (∀ numaNodes llcs, numaNodes < u32Span → llcs < u32Span →
      (OrderSound (Host.build orders groups online cpuToNode) numaNodes llcs llcOffset ↔ (llcs = 0 ∨ groups ≠ []) ∧
          (llcs ≤ groups.length → Distinct (Host.build orders groups online cpuToNode) numaNodes llcs llcOffset))) ∧
    ∀ topo reserve plan, topo.validate = .ok () →
      computePinning (Host.build orders groups online cpuToNode) topo reserve llcOffset = .ok plan →
      (PlanSound (Host.build orders groups online cpuToNode) topo plan ↔
        Distinct (Host.build orders groups online cpuToNode) topo.numaNodes topo.llcs llcOffset) := by
  refine ⟨fun numaNodes llcs narrow few =>
    order_sound_iff_distinct llcs node_llcs narrow few fits,?_⟩
  intro topo reserve plan valid made
  have accepted := accepted_of_validate valid
  obtain ⟨order,pinned,room,ordered,pins,assigned,apart,indices⟩ := plan_pins _ topo accepted made
  obtain ⟨length,inside,nodup⟩ := order_spec topo.llcs node_llcs order topo.numaNodes_u32 topo.llcs_u32 fits ordered
  rw [plan_sound_iff_nodup _ topo accepted unique length inside pins assigned apart indices]
  exact nodup room

def threeLlcs : Host := Host.build (fun _ => id) [⟨[0,1]⟩,⟨[2]⟩,⟨[3]⟩] [0,1,2,3] ∅

def twoVcpus : Topology := {llcs := 2,coresPerLlc := 1,threadsPerCore := 1,numaNodes := 1}

theorem rotated_pinning_sound :
    computePinning threeLlcs twoVcpus true 1 = .ok ⟨[(0,2),(1,3)],some 0,[1,2]⟩ ∧
      PlanSound threeLlcs twoVcpus ⟨[(0,2),(1,3)],some 0,[1,2]⟩ ∧ OrderSound threeLlcs 1 2 1 := by
  have both := pinning_sound_iff (fun _ => id) [⟨[0,1]⟩,⟨[2]⟩,⟨[3]⟩] [0,1,2,3] ∅ (by decide) 1 (by decide)
  have made : computePinning threeLlcs twoVcpus true 1 = .ok ⟨[(0,2),(1,3)],some 0,[1,2]⟩ := by decide +kernel
  have distinct : Distinct threeLlcs 1 2 1 := by decide +kernel
  refine ⟨made,?_,?_⟩
  · exact (both.2 twoVcpus true _ (by decide) made).mpr distinct
  · exact (both.1 1 2 (by decide) (by decide)).mpr ⟨Or.inr (by decide),fun _ => distinct⟩

/-- At the last offset the second virtual LLC comes back to the first host LLC. -/
theorem last_offset_shares_llc :
    computePinning threeLlcs twoVcpus false (2 ^ 64 - 1) = .ok ⟨[(0,0),(1,1)],none,[0]⟩ ∧
      ¬ PlanSound threeLlcs twoVcpus ⟨[(0,0),(1,1)],none,[0]⟩ ∧ ¬ OrderSound threeLlcs 1 2 (2 ^ 64 - 1) := by
  refine ⟨by decide +kernel,?_,?_⟩
  · rintro ⟨_,_,_,groupOf,_,injective,_,listed⟩
    have zero (llc : Nat) (inside : llc < 2) : groupOf llc = 0 := by
      have := (listed (groupOf llc)).mpr ⟨llc,inside,rfl⟩
      simpa using this
    have := injective 0 (by decide) 1 (by decide) (by rw [zero 0 (by decide),zero 1 (by decide)])
    omega
  · rintro ⟨order,made,_,_,distinct⟩
    have is : numaAwareLlcOrder threeLlcs 1 2 (2 ^ 64 - 1) = some [0,0] := by decide +kernel
    rw [is,Option.some.injEq] at made
    subst made
    exact absurd (distinct (by decide)) (by decide)

end Ktstr.PinnedCpus
