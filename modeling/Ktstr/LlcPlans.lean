import Ktstr.Source.Topology
import Mathlib.Algebra.BigOperators.Fin
import Mathlib.Algebra.Order.BigOperators.Group.Finset

/-! The planner sums the first LLCs of the host where it means those with a snapshot, and asks
for an LLC's majority node anew at every node it visits. The plan has the CPUs it should
exactly when the budget avoids the short cut's wrong total and LLCs without a majority. -/
namespace Ktstr.LlcPlans
open Std (ExtTreeMap)
open List Source.Topology

theorem take_append_take (limit : Nat) (first second : List Nat) :
    (first.take limit ++ second).take limit = (first ++ second).take limit := by
  rw [take_append,take_append,take_take,Nat.min_self,length_take]
  congr 2
  omega

section
variable (topo : HostTopology) (allowed : Finset Nat)

theorem foldl_takeCpu {target : Nat} (cpus taken : List Nat) (room : taken.length ≤ target) :
    cpus.foldl (takeCpu allowed target) taken =
      (taken ++ cpus.filter fun cpu => cpu ∈ allowed).take target := by
  induction cpus generalizing taken with
  | nil => simp [take_of_length_le room]
  | cons cpu cpus ih =>
    rw [foldl_cons,takeCpu]
    by_cases free : cpu ∈ allowed
    · rw [if_neg (not_not.mpr free)]
      by_cases full : taken.length ≥ target
      · rw [if_pos full,ih taken room]
        have exact : taken.length = target := Nat.le_antisymm room full
        simp [exact]
      · rw [if_neg full,ih (taken ++ [cpu]) (by simp; omega)]
        simp [free]
    · rw [if_pos free,ih taken room]
      simp [free]

theorem materialise_eq (target : Nat) (selected : List Nat) :
    materialise topo allowed target selected = (selected.flatMap (allowedCpus topo allowed)).take target := by
  have general (taken : List Nat) (room : taken.length ≤ target) :
      selected.foldl (fun cpus idx => (groupAt topo idx).cpus.foldl (takeCpu allowed target) cpus) taken =
        (taken ++ selected.flatMap (allowedCpus topo allowed)).take target := by
    induction selected generalizing taken with
    | nil => simp [take_of_length_le room]
    | cons idx selected ih =>
      rw [foldl_cons,foldl_takeCpu allowed _ taken room,ih _ (by simp),flatMap_cons]
      exact (take_append_take target (taken ++ allowedCpus topo allowed idx) _).trans (by rw [append_assoc])
  exact general [] (Nat.zero_le target)

theorem materialise_length (target : Nat) (selected : List Nat) :
    (materialise topo allowed target selected).length =
      min target (selected.map (llcAllowedCpus topo allowed)).sum := by
  rw [materialise_eq,length_take,length_flatMap]
  rfl

end

section
variable (groups : List LlcGroup) (cpuToNode : Nat → Option Nat)

/-- No two of the group's nodes share the highest number of its CPUs. -/
def Undisputed (llcIdx : Nat) : Prop :=
  ∀ first ∈ nodeCounts cpuToNode (groups.getD llcIdx ⟨[]⟩), ∀ second ∈ nodeCounts cpuToNode (groups.getD llcIdx ⟨[]⟩),
    (∀ entry ∈ nodeCounts cpuToNode (groups.getD llcIdx ⟨[]⟩), entry.2 ≤ first.2) →
    (∀ entry ∈ nodeCounts cpuToNode (groups.getD llcIdx ⟨[]⟩), entry.2 ≤ second.2) → first = second

instance (llcIdx : Nat) : Decidable (Undisputed groups cpuToNode llcIdx) := by
  unfold Undisputed
  infer_instance

end

theorem maxByKey_held (entries : List (Nat × Nat)) (held : Nat × Nat) :
    ∃ best, entries.foldl (fun best entry =>
      match best with
      | none => some entry
      | some held => if held.2 ≤ entry.2 then some entry else some held) (some held) = some best ∧
      best ∈ held::entries ∧ ∀ entry ∈ held::entries, entry.2 ≤ best.2 := by
  induction entries generalizing held with
  | nil => exact ⟨held,rfl,mem_cons_self,by simp⟩
  | cons entry entries ih =>
    by_cases above : held.2 ≤ entry.2
    · obtain ⟨best,found,member,highest⟩ := ih entry
      refine ⟨best,by simpa [above] using found,mem_cons_of_mem held member,?_⟩
      intro other among
      rcases mem_cons.mp among with rfl | among
      · exact above.trans (highest entry mem_cons_self)
      · exact highest other among
    · obtain ⟨best,found,member,highest⟩ := ih held
      refine ⟨best,by simpa [above] using found,?_,?_⟩
      · rcases mem_cons.mp member with rfl | later
        · exact mem_cons_self
        · exact mem_cons_of_mem held (mem_cons_of_mem entry later)
      · intro other among
        rcases mem_cons.mp among with rfl | among
        · exact highest other mem_cons_self
        · rcases mem_cons.mp among with rfl | among
          · exact (Nat.lt_of_not_le above).le.trans (highest held mem_cons_self)
          · exact highest other (mem_cons_of_mem held among)

theorem maxByKey_spec {entries : List (Nat × Nat)} (nonempty : entries ≠ []) :
    ∃ best ∈ entries, maxByKey entries = some best ∧ ∀ entry ∈ entries, entry.2 ≤ best.2 := by
  cases entries with
  | nil => exact absurd rfl nonempty
  | cons entry entries =>
    obtain ⟨best,found,member,highest⟩ := maxByKey_held entries entry
    exact ⟨best,member,found,highest⟩

theorem maxByKey_last {entries : List (Nat × Nat)} {last : Nat × Nat}
    (highest : ∀ entry ∈ entries, entry.2 ≤ last.2) : maxByKey (entries ++ [last]) = some last := by
  rw [maxByKey,foldl_append]
  change (match maxByKey entries with
    | none => some last
    | some held => if held.2 ≤ last.2 then some last else some held) = _
  by_cases empty : entries = []
  · rw [empty]
    rfl
  · obtain ⟨best,member,found,-⟩ := maxByKey_spec empty
    rw [found]
    exact if_pos (highest best member)

theorem majority_highest {order : Iteration} {counts : List (Nat × Nat)} (same : (order counts).Perm counts)
    (nonempty : counts ≠ []) :
    ∃ best ∈ counts, majorityNode order counts = best.1 ∧ ∀ entry ∈ counts, entry.2 ≤ best.2 := by
  have some : order counts ≠ [] := fun empty => nonempty (nil_perm.mp (empty ▸ same))
  obtain ⟨best,member,found,highest⟩ := maxByKey_spec some
  refine ⟨best,same.mem_iff.mp member,?_,fun entry among => highest entry (same.mem_iff.mpr among)⟩
  rw [majorityNode,found]
  rfl

theorem nodeCounts_nonempty (cpuToNode : Nat → Option Nat) {group : LlcGroup} (populated : group.cpus ≠ []) :
    nodeCounts cpuToNode group ≠ [] := by
  simpa [nodeCounts] using populated

theorem undisputed_node {groups : List LlcGroup} {cpuToNode : Nat → Option Nat} {llcIdx : Nat}
    (undisputed : Undisputed groups cpuToNode llcIdx) (populated : (groups.getD llcIdx ⟨[]⟩).cpus ≠ [])
    {first second : Iteration} (firstPerm : ∀ entries, (first entries).Perm entries)
    (secondPerm : ∀ entries, (second entries).Perm entries) :
    majorityNode first (nodeCounts cpuToNode (groups.getD llcIdx ⟨[]⟩)) =
      majorityNode second (nodeCounts cpuToNode (groups.getD llcIdx ⟨[]⟩)) := by
  have nonempty := nodeCounts_nonempty cpuToNode populated
  obtain ⟨one,oneIn,oneIs,oneTop⟩ := majority_highest (firstPerm _) nonempty
  obtain ⟨other,otherIn,otherIs,otherTop⟩ := majority_highest (secondPerm _) nonempty
  rw [oneIs,otherIs,undisputed one oneIn other otherIn oneTop otherTop]

theorem mem_foldl_alter {entries : List (LlcGroup × Nat)} (key : LlcGroup × Nat → Nat)
    (nodes : ExtTreeMap Nat (List Nat)) (node : Nat)
    (known : node ∈ nodes ∨ ∃ entry ∈ entries, key entry = node) :
    node ∈ entries.foldl (fun nodes entry => nodes.alter (key entry) fun llcs =>
      some (llcs.getD [] ++ [entry.2])) nodes := by
  induction entries generalizing nodes with
  | nil => simpa using known
  | cons entry entries ih =>
    apply ih
    rcases known with held | ⟨other,among,same⟩
    · left
      rw [ExtTreeMap.mem_alter]
      split
      · rfl
      · exact held
    · rcases mem_cons.mp among with rfl | later
      · left
        rw [ExtTreeMap.mem_alter,if_pos (by simp [same])]
        rfl
      · exact Or.inr ⟨other,later,same⟩

theorem majority_known {build : Nat → Iteration} {groups : List LlcGroup} {cpuToNode : Nat → Option Nat}
    {llcIdx : Nat} (inside : llcIdx < groups.length) :
    majorityNode (build llcIdx) (nodeCounts cpuToNode (groups.getD llcIdx ⟨[]⟩)) ∈
      computeHostNodeLlcs build groups cpuToNode := by
  apply mem_foldl_alter fun entry =>
    majorityNode (build entry.2) (nodeCounts cpuToNode entry.1)
  refine Or.inr ⟨(groups[llcIdx],llcIdx),?_,?_⟩
  · rw [mem_iff_getElem?]
    exact ⟨llcIdx,by simp [inside]⟩
  · simp [inside]

section
variable (topo : HostTopology) (allowed : Finset Nat)

theorem ranked_perm (snapshots : List LlcSnapshot) :
    (ranked topo allowed snapshots).Perm
      (snapshots.filter fun snap => llcAllowedCpus topo allowed snap.llcIdx > 0) := by
  refine ((mergeSort_perm _ _).append (mergeSort_perm _ _)).trans ?_
  rw [← filter_append]
  refine List.Perm.filter _ ?_
  have complement : (fun snap : LlcSnapshot => decide (snap.holderCount = 0)) =
      fun snap => !decide (snap.holderCount > 0) := by
    funext snap
    cases snap.holderCount <;> simp
  rw [complement]
  exact filter_append_perm _ snapshots

variable (orders : Site → Iteration) (target : Nat) (candidates : List LlcSnapshot)

/-- What the walk keeps at every step: its list and its set agree, hold only candidates, and
the count is the sum over them. -/
structure Steady (walk : Walk) : Prop where
  same : walk.picked = walk.selected.toFinset
  distinct : walk.selected.Nodup
  known : ∀ idx ∈ walk.selected, ∃ node, ∃ snap ∈ candidates, snap.llcIdx = idx ∧
    llcNumaNode topo (orders (.visit node idx)) idx = node
  counted : walk.accumulated = ∑ idx ∈ walk.picked, llcAllowedCpus topo allowed idx

variable (node : Nat) (walk : Walk) (snap : LlcSnapshot)

theorem visitSnapshot_steady (among : snap ∈ candidates) (steady : Steady topo allowed orders candidates walk) :
    Steady topo allowed orders candidates (visitSnapshot topo allowed orders target node walk snap) := by
  unfold visitSnapshot
  split_ifs with full taken elsewhere
  · exact steady
  · exact steady
  · exact steady
  · have fresh : snap.llcIdx ∉ walk.selected := by
      rw [steady.same,mem_toFinset] at taken
      exact taken
    refine ⟨?_,?_,?_,?_⟩
    · ext idx
      simp [steady.same]
    · exact List.Nodup.append steady.distinct (nodup_singleton _) (by simpa using fresh)
    · intro idx member
      rcases mem_append.mp member with before | now
      · exact steady.known idx before
      · obtain rfl := mem_singleton.mp now
        exact ⟨node,snap,among,rfl,not_not.mp elsewhere⟩
    · rw [Finset.sum_insert taken,← steady.counted,Nat.add_comm]

theorem walk_steady (nodeOrder : List Nat) :
    Steady topo allowed orders candidates (nodeOrder.foldl (visitNode topo allowed orders target candidates) {}) := by
  apply List.foldlRecOn nodeOrder
  · exact ⟨rfl,nodup_nil,fun idx member => absurd member not_mem_nil,rfl⟩
  · intro walk steady node _
    unfold visitNode
    split_ifs with full
    · exact steady
    · apply List.foldlRecOn candidates _ steady
      intro walk steady snap among
      exact visitSnapshot_steady topo allowed orders target candidates node walk snap among steady

def Gains (walk later : Walk) : Prop := walk.picked ⊆ later.picked ∧ walk.accumulated ≤ later.accumulated

theorem visitSnapshot_gains : Gains walk (visitSnapshot topo allowed orders target node walk snap) := by
  unfold visitSnapshot
  split_ifs
  · exact ⟨Finset.Subset.refl _,Nat.le_refl _⟩
  · exact ⟨Finset.Subset.refl _,Nat.le_refl _⟩
  · exact ⟨Finset.Subset.refl _,Nat.le_refl _⟩
  · exact ⟨Finset.subset_insert _ _,Nat.le_add_right _ _⟩

theorem foldl_gains {α : Type} (step : Walk → α → Walk) (gains : ∀ walk item, Gains walk (step walk item))
    (items : List α) (walk : Walk) : Gains walk (items.foldl step walk) := by
  induction items generalizing walk with
  | nil => exact ⟨Finset.Subset.refl _,Nat.le_refl _⟩
  | cons item items ih =>
    obtain ⟨picked,accumulated⟩ := gains walk item
    obtain ⟨more,further⟩ := ih (step walk item)
    exact ⟨picked.trans more,accumulated.trans further⟩

theorem visitNode_gains (node : Nat) : Gains walk (visitNode topo allowed orders target candidates walk node) := by
  unfold visitNode
  split_ifs
  · exact ⟨Finset.Subset.refl _,Nat.le_refl _⟩
  · exact foldl_gains _ (visitSnapshot_gains topo allowed orders target node) candidates walk

private def Settled (llcIdx : Nat) (walk : Walk) : Prop := walk.accumulated ≥ target ∨ llcIdx ∈ walk.picked

theorem Settled.mono {llcIdx : Nat} {walk later : Walk} (settled : Settled target llcIdx walk)
    (gains : Gains walk later) : Settled target llcIdx later :=
  settled.imp (fun full => full.trans gains.2) (fun taken => gains.1 taken)

theorem foldl_settles {α : Type} (step : Walk → α → Walk) (gains : ∀ walk item, Gains walk (step walk item))
    {llcIdx : Nat} {item : α} (settles : ∀ walk, Settled target llcIdx (step walk item)) {items : List α}
    (among : item ∈ items) (walk : Walk) : Settled target llcIdx (items.foldl step walk) := by
  induction items generalizing walk with
  | nil => cases among
  | cons first rest ih =>
    rcases mem_cons.mp among with rfl | later
    · exact (settles walk).mono target (foldl_gains step gains rest _)
    · exact ih later (step walk first)

theorem visitSnapshot_settles
    (here : llcNumaNode topo (orders (.visit node snap.llcIdx)) snap.llcIdx = node) (walk : Walk) :
    Settled target snap.llcIdx (visitSnapshot topo allowed orders target node walk snap) := by
  unfold visitSnapshot
  split_ifs with full taken elsewhere
  · exact Or.inl full
  · exact Or.inr taken
  · exact absurd here elsewhere
  · exact Or.inr (Finset.mem_insert_self _ _)

variable {topo}

theorem walk_settles {nodeOrder : List Nat} {node : Nat} (listed : node ∈ nodeOrder) {snap : LlcSnapshot}
    (among : snap ∈ candidates) (here : llcNumaNode topo (orders (.visit node snap.llcIdx)) snap.llcIdx = node) :
    Settled target snap.llcIdx (nodeOrder.foldl (visitNode topo allowed orders target candidates) {}) := by
  apply foldl_settles target _ (visitNode_gains topo allowed orders target candidates) _ listed
  intro walk
  unfold visitNode
  split_ifs with full
  · exact Or.inl full
  · exact foldl_settles target _ (visitSnapshot_gains topo allowed orders target node)
      (visitSnapshot_settles topo allowed orders target node snap here) among walk

end

section
variable (groups : List LlcGroup) (cpuToNode : Nat → Option Nat) (allowed : Finset Nat)

theorem allowed_populated {topo : HostTopology} {llcIdx : Nat} (some : 0 < llcAllowedCpus topo allowed llcIdx) :
    (groupAt topo llcIdx).cpus ≠ [] := by
  intro empty
  simp [llcAllowedCpus,allowedCpus,empty] at some

variable {allowed}

theorem allowed_inside {topo : HostTopology} {llcIdx : Nat} (some : 0 < llcAllowedCpus topo allowed llcIdx) :
    llcIdx < topo.llcGroups.length := by
  by_contra beyond
  apply allowed_populated allowed some
  simp [groupAt,getElem?_eq_none (Nat.not_lt.mp beyond)]

variable (allowed)

theorem mem_snapshots {topo : HostTopology} {holders : Nat → Nat} {llcIdx : Nat} :
    llcIdx ∈ (discoverLlcSnapshots topo allowed holders).map LlcSnapshot.llcIdx ↔
      0 < llcAllowedCpus topo allowed llcIdx := by
  have overlap : ((groupAt topo llcIdx).cpus.any fun cpu => cpu ∈ allowed) ↔
      0 < llcAllowedCpus topo allowed llcIdx := by
    simp [llcAllowedCpus,allowedCpus]
  simp only [discoverLlcSnapshots,map_map,Function.comp_def,map_id',mem_filter,List.mem_range,overlap]
  exact ⟨fun both => both.2,fun some => ⟨allowed_inside some,some⟩⟩

def contribution (llcIdx : Nat) : Nat := ((groups.getD llcIdx ⟨[]⟩).cpus.filter fun cpu => cpu ∈ allowed).length

def overlapping : Nat := (List.range groups.length).countP fun llcIdx => 0 < contribution groups allowed llcIdx

def reachable : Finset Nat := allowed.filter fun cpu => ∃ group ∈ groups, cpu ∈ group.cpus

/-- The planner's total, over as many groups from the start as there are snapshots, is no
larger than the budget and yet right, or it is larger and the groups with a single
majority node fill the budget. -/
def BudgetSound (target : Nat) : Prop :=
  let counted := ∑ llcIdx ∈ Finset.range (overlapping groups allowed), contribution groups allowed llcIdx
  (counted ≤ target ∧ (counted = target ∨ counted = (reachable groups allowed).card)) ∨
    (target < counted ∧ target ≤
      ∑ llcIdx ∈ (Finset.range groups.length).filter (Undisputed groups cpuToNode), contribution groups allowed llcIdx)

/-- The plan a run makes and the CPUs it takes are the ones the budget asks for. -/
structure PlanExact (topo : HostTopology) (snapshots : List LlcSnapshot) (target : Nat) (selected : List Nat) : Prop where
  known : ∀ idx ∈ selected, idx ∈ snapshots.map LlcSnapshot.llcIdx
  ascending : selected.Pairwise (· < ·)
  filled : (materialise topo allowed target selected).length = min target (reachable topo.llcGroups allowed).card
  inhabited : snapshots ≠ [] → selected ≠ []

theorem snapshots_length (topo : HostTopology) (holders : Nat → Nat) :
    (discoverLlcSnapshots topo allowed holders).length = overlapping topo.llcGroups allowed := by
  rw [discoverLlcSnapshots,length_map,overlapping,countP_eq_length_filter]
  congr 1
  apply filter_congr
  intro llcIdx _
  rw [Bool.eq_iff_iff]
  simp [contribution,groupAt]

theorem sum_contributions (unique : ∀ group ∈ groups, group.cpus.Nodup)
    (disjoint : groups.Pairwise fun first second => first.cpus.Disjoint second.cpus) :
    ∑ llcIdx ∈ Finset.range groups.length, contribution groups allowed llcIdx = (reachable groups allowed).card := by
  have listed : reachable groups allowed =
      (groups.flatMap fun group => group.cpus.filter fun cpu => cpu ∈ allowed).toFinset := by
    ext cpu
    simp only [reachable,Finset.mem_filter,mem_toFinset,mem_flatMap,mem_filter,decide_eq_true_eq]
    constructor
    · rintro ⟨free,group,among,member⟩
      exact ⟨group,among,member,free⟩
    · rintro ⟨group,among,member,free⟩
      exact ⟨free,group,among,member⟩
  have distinct : (groups.flatMap fun group => group.cpus.filter fun cpu => cpu ∈ allowed).Nodup := by
    rw [nodup_flatMap]
    refine ⟨fun group among => (unique group among).filter _,disjoint.imp ?_⟩
    intro first second apart cpu inFirst inSecond
    exact apart (mem_of_mem_filter inFirst) (mem_of_mem_filter inSecond)
  rw [listed,toFinset_card_of_nodup distinct,length_flatMap,Finset.sum_range]
  rw [← sum_ofFn]
  congr 1
  apply ext_getElem
  · simp
  · intro i first second
    simp [contribution]

theorem sum_selected {selected : List Nat} {count : Nat → Nat} (distinct : selected.Nodup) :
    (selected.map count).sum = ∑ llcIdx ∈ selected.toFinset, count llcIdx :=
  (sum_toFinset count distinct).symm

theorem sorted_ascending {selected : List Nat} (distinct : selected.Nodup) :
    (selected.mergeSort (· ≤ ·)).Pairwise (· < ·) := by
  have ordered : (selected.mergeSort (· ≤ ·)).Pairwise (· ≤ ·) := by
    simpa using @List.pairwise_mergeSort Nat (fun first second => decide (first ≤ second))
      (by simp; omega) (by simp; omega) selected
  have apart : (selected.mergeSort (· ≤ ·)).Nodup := (mergeSort_perm selected _).nodup_iff.mpr distinct
  apply (ordered.and apart).imp
  rintro first second ⟨below,different⟩
  exact lt_of_le_of_ne below different

end

section
variable {groups : List LlcGroup} {cpuToNode : Nat → Option Nat} {allowed : Finset Nat}

private abbrev counted (groups : List LlcGroup) (allowed : Finset Nat) : Nat :=
  ∑ idx ∈ Finset.range (overlapping groups allowed), contribution groups allowed idx

theorem sum_positive (limit : Nat) :
    (((List.range limit).filter fun idx => 0 < contribution groups allowed idx).map
      (contribution groups allowed)).sum = ∑ idx ∈ Finset.range limit, contribution groups allowed idx := by
  rw [sum_selected (nodup_range.filter _),toFinset_filter,toFinset_range]
  refine Finset.sum_filter_of_ne fun idx _ some => ?_
  simpa using Nat.pos_of_ne_zero some

section
variable {topo : HostTopology} {holders : Nat → Nat} {distance : Nat → Nat → Nat} {target : Nat}
  {orders : Site → Iteration} {snapshots : List LlcSnapshot} {plan : List Nat}
  (found : discoverLlcSnapshots topo allowed holders = snapshots)
  (made : planFromSnapshots topo allowed orders target snapshots distance = plan) (positive : 0 < target)
include found

theorem snapshots_total :
    ((List.range snapshots.length).map (llcAllowedCpus topo allowed)).sum = counted topo.llcGroups allowed := by
  rw [← found,snapshots_length,counted,← toFinset_range,sum_toFinset _ nodup_range]
  rfl

theorem ranked_of_some {idx : Nat} (some : 0 < llcAllowedCpus topo allowed idx) :
    ∃ snap ∈ ranked topo allowed snapshots, snap.llcIdx = idx := by
  have seen := some
  rw [← mem_snapshots allowed,found] at seen
  obtain ⟨snap,among,rfl⟩ := mem_map.mp seen
  exact ⟨snap,(ranked_perm _ _ _).mem_iff.mpr (mem_filter.mpr ⟨among,by simpa using some⟩),rfl⟩

include made positive

theorem plan_short (short : counted topo.llcGroups allowed ≤ target) :
    plan = (List.range (overlapping topo.llcGroups allowed)).filter fun idx =>
      0 < contribution topo.llcGroups allowed idx := by
  rw [← made,planFromSnapshots,if_neg (by omega),if_pos (by rw [snapshots_total found]; exact short),← found,
    snapshots_length]
  apply mergeSort_of_pairwise
  have ordered := (pairwise_le_range (n := overlapping topo.llcGroups allowed)).filter fun idx =>
    decide (llcAllowedCpus topo allowed idx > 0)
  simpa using ordered

theorem plan_scored (long : target < counted topo.llcGroups allowed) :
    ∃ nodeOrder : List Nat, (∀ node, node ∈ nodeOrder ↔ node ∈ topo.hostNodeLlcs) ∧
      plan = (nodeOrder.foldl (visitNode topo allowed orders target (ranked topo allowed snapshots))
        {}).selected.mergeSort (· ≤ ·) := by
  rw [← made,planFromSnapshots,if_neg (by omega),if_neg (by rw [snapshots_total found]; omega)]
  cases listed : ranked topo allowed snapshots with
  | nil =>
    obtain ⟨idx,_,some⟩ := Finset.exists_ne_zero_of_sum_ne_zero (Nat.ne_of_gt (positive.trans long))
    obtain ⟨snap,among,_⟩ := ranked_of_some found (Nat.pos_of_ne_zero some)
    rw [listed] at among
    cases among
  | cons seed rest => exact ⟨_,fun node => by simp [numaNodesSortedByDistance],rfl⟩

theorem plan_known : (∀ idx ∈ plan, idx ∈ snapshots.map LlcSnapshot.llcIdx) ∧ plan.Pairwise (· < ·) := by
  rcases Nat.lt_or_ge target (counted topo.llcGroups allowed) with long | short
  · obtain ⟨nodeOrder,-,rfl⟩ := plan_scored found made positive long
    have steady := walk_steady topo allowed orders target (ranked topo allowed snapshots) nodeOrder
    refine ⟨fun idx member => ?_,sorted_ascending steady.distinct⟩
    obtain ⟨_,snap,among,rfl,-⟩ := steady.known idx ((mergeSort_perm _ _).mem_iff.mp member)
    have eligible := (ranked_perm topo allowed _).mem_iff.mp among
    exact mem_map_of_mem (mem_of_mem_filter eligible)
  · obtain rfl := plan_short found made positive short
    refine ⟨fun idx member => ?_,pairwise_lt_range.filter _⟩
    rw [← found,mem_snapshots]
    exact of_decide_eq_true (mem_filter.mp member).2

theorem filled_short (short : counted topo.llcGroups allowed ≤ target) :
    (materialise topo allowed target plan).length = counted topo.llcGroups allowed := by
  rw [plan_short found made positive short,materialise_length]
  change min target ((List.filter _ _).map (contribution topo.llcGroups allowed)).sum = _
  rw [sum_positive]
  exact Nat.min_eq_right short

end

section
variable {build : Nat → Iteration} {holders : Nat → Nat} {distance : Nat → Nat → Nat} {target : Nat}
  {orders : Site → Iteration} {snapshots : List LlcSnapshot} {plan : List Nat}
  (found : discoverLlcSnapshots (.build build groups cpuToNode) allowed holders = snapshots)
  (made : planFromSnapshots (.build build groups cpuToNode) allowed orders target snapshots distance = plan)
  (positive : 0 < target) (long : target < counted groups allowed)
include found made positive long

theorem filled_scored (buildPerm : ∀ idx entries, (build idx entries).Perm entries)
    (ordersPerm : ∀ site entries, (orders site entries).Perm entries)
    (enough : target ≤ ∑ idx ∈ (Finset.range groups.length).filter (Undisputed groups cpuToNode),
      contribution groups allowed idx) :
    (materialise (.build build groups cpuToNode) allowed target plan).length = target := by
  obtain ⟨nodeOrder,nodes,rfl⟩ := plan_scored found made positive long
  have steady := walk_steady (.build build groups cpuToNode) allowed orders target
    (ranked (.build build groups cpuToNode) allowed snapshots) nodeOrder
  rw [materialise_length,((mergeSort_perm _ _).map _).sum_eq,sum_selected steady.distinct,← steady.same,← steady.counted]
  apply Nat.min_eq_left
  by_contra left
  -- With budget left, every group with one majority node has been taken.
  refine left (enough.trans ?_)
  rw [steady.counted]
  refine Finset.sum_le_sum_of_ne_zero fun idx member nonzero => ?_
  obtain ⟨inside,undisputed⟩ : idx < groups.length ∧ Undisputed groups cpuToNode idx := by simpa using member
  have some : 0 < llcAllowedCpus (.build build groups cpuToNode) allowed idx := Nat.pos_of_ne_zero nonzero
  obtain ⟨snap,listed,rfl⟩ := ranked_of_some found some
  have populated := allowed_populated allowed some
  let node := llcNumaNode (.build build groups cpuToNode) (build snap.llcIdx) snap.llcIdx
  have here : llcNumaNode (.build build groups cpuToNode) (orders (.visit node snap.llcIdx)) snap.llcIdx = node :=
    undisputed_node undisputed populated (ordersPerm _) (buildPerm _)
  have settled := walk_settles allowed orders target _ ((nodes node).mpr (majority_known inside)) listed here
  exact settled.resolve_left left

end

def dodge (node : Nat) : Iteration := fun entries =>
  match entries.find? fun entry => entry.1 ≠ node ∧ ∀ other ∈ entries, other.2 ≤ entry.2 with
  | some entry => entries.erase entry ++ [entry]
  | none => entries

theorem dodge_perm {node : Nat} {entries : List (Nat × Nat)} : (dodge node entries).Perm entries := by
  unfold dodge
  split
  next entry found =>
    have member := mem_of_find?_eq_some found
    exact perm_append_comm.trans (perm_cons_erase member).symm
  next => exact List.Perm.refl entries

theorem dodge_elsewhere {idx node : Nat} (disputed : ¬ Undisputed groups cpuToNode idx) :
    majorityNode (dodge node) (nodeCounts cpuToNode (groups.getD idx ⟨[]⟩)) ≠ node := by
  have byNode : ∀ first ∈ nodeCounts cpuToNode (groups.getD idx ⟨[]⟩),
      ∀ second ∈ nodeCounts cpuToNode (groups.getD idx ⟨[]⟩), first.1 = second.1 → first = second := by
    simp only [nodeCounts,mem_map]
    rintro _ ⟨first,_,rfl⟩ _ ⟨second,_,rfl⟩ same
    rw [show first = second from same]
  unfold Undisputed at disputed
  push Not at disputed
  obtain ⟨first,firstIn,second,secondIn,firstTop,secondTop,different⟩ := disputed
  have other : ∃ entry ∈ nodeCounts cpuToNode (groups.getD idx ⟨[]⟩), entry.1 ≠ node ∧
      ∀ rival ∈ nodeCounts cpuToNode (groups.getD idx ⟨[]⟩), rival.2 ≤ entry.2 := by
    by_cases here : first.1 = node
    · refine ⟨second,secondIn,fun same => different ?_,secondTop⟩
      exact byNode first firstIn second secondIn (here.trans same.symm)
    · exact ⟨first,firstIn,here,firstTop⟩
  unfold majorityNode dodge
  split
  next entry found =>
    obtain ⟨elsewhere,highest⟩ : entry.1 ≠ node ∧
      ∀ rival ∈ nodeCounts cpuToNode (groups.getD idx ⟨[]⟩), rival.2 ≤ entry.2 := by
        simpa using find?_some found
    rw [maxByKey_last fun rival among => highest rival (mem_of_mem_erase among)]
    exact elsewhere
  next none =>
    obtain ⟨entry,among,elsewhere,highest⟩ := other
    have never := find?_eq_none.mp none entry among
    exact absurd (decide_eq_true ⟨elsewhere,highest⟩) never

def dodging : Site → Iteration
  | .seed => id
  | .visit node _ => dodge node

theorem dodging_perm (site : Site) (entries : List (Nat × Nat)) : (dodging site entries).Perm entries := by
  cases site with
  | seed => exact List.Perm.refl entries
  | visit node idx => exact dodge_perm

theorem dodging_filled {build : Nat → Iteration} {holders : Nat → Nat} {distance : Nat → Nat → Nat} {target : Nat}
    {snapshots : List LlcSnapshot} {plan : List Nat}
    (found : discoverLlcSnapshots (.build build groups cpuToNode) allowed holders = snapshots)
    (made : planFromSnapshots (.build build groups cpuToNode) allowed dodging target snapshots distance = plan)
    (positive : 0 < target) (long : target < counted groups allowed) :
    (materialise (.build build groups cpuToNode) allowed target plan).length ≤
      ∑ idx ∈ (Finset.range groups.length).filter (Undisputed groups cpuToNode), contribution groups allowed idx := by
  obtain ⟨nodeOrder,-,rfl⟩ := plan_scored found made positive long
  have steady := walk_steady (.build build groups cpuToNode) allowed dodging target
    (ranked (.build build groups cpuToNode) allowed snapshots) nodeOrder
  rw [materialise_length,((mergeSort_perm _ _).map _).sum_eq,sum_selected steady.distinct]
  refine (Nat.min_le_right _ _).trans (Finset.sum_le_sum_of_subset fun idx member => ?_)
  obtain ⟨node,snap,among,rfl,here⟩ := steady.known idx (mem_toFinset.mp member)
  have eligible := (mem_filter.mp ((ranked_perm _ allowed _).mem_iff.mp among)).2
  have inside := allowed_inside (of_decide_eq_true eligible)
  rw [Finset.mem_filter,Finset.mem_range]
  refine ⟨inside,?_⟩
  by_contra disputed
  exact dodge_elsewhere disputed here

variable (allowed)

theorem counted_le (unique : ∀ group ∈ groups, group.cpus.Nodup)
    (disjoint : groups.Pairwise fun first second => first.cpus.Disjoint second.cpus) :
    counted groups allowed ≤ (reachable groups allowed).card := by
  rw [← sum_contributions groups allowed unique disjoint]
  apply Finset.sum_le_sum_of_subset
  apply Finset.range_subset_range.mpr
  exact countP_le_length.trans (length_range).le

theorem plan_inhabited {topo : HostTopology} {holders : Nat → Nat} {target : Nat} (positive : 0 < target)
    {selected : List Nat}
    (filled : (materialise topo allowed target selected).length = min target (reachable topo.llcGroups allowed).card)
    (seen : discoverLlcSnapshots topo allowed holders ≠ []) : selected ≠ [] := by
  rintro rfl
  obtain ⟨snap,among⟩ := exists_mem_of_ne_nil _ seen
  have some := (mem_snapshots allowed).mp (mem_map_of_mem among)
  obtain ⟨cpu,member⟩ := length_pos_iff_exists_mem.mp some
  obtain ⟨inGroup,free⟩ := mem_filter.mp member
  have listed : groupAt topo snap.llcIdx ∈ topo.llcGroups := by
    simp [groupAt,allowed_inside some]
  have reached : cpu ∈ reachable topo.llcGroups allowed :=
    Finset.mem_filter.mpr ⟨of_decide_eq_true free,_,listed,inGroup⟩
  have inhabited := Finset.card_pos.mpr ⟨cpu,reached⟩
  have none : (materialise topo allowed target []).length = 0 := rfl
  omega

end

/-- Whatever the iteration orders of the hash maps, the plan and its CPUs are exactly the ones
the budget asks for, if and only if the budget is sound for the host. -/
theorem plan_exact_iff (groups : List LlcGroup) (cpuToNode : Nat → Option Nat) (allowed : Finset Nat)
    (holders : Nat → Nat) (distance : Nat → Nat → Nat) (target : Nat) (positive : 0 < target)
    (unique : ∀ group ∈ groups, group.cpus.Nodup)
    (disjoint : groups.Pairwise fun first second => first.cpus.Disjoint second.cpus) :
    (∀ (build : Nat → Iteration) (orders : Site → Iteration), (∀ idx entries, (build idx entries).Perm entries) →
      (∀ site entries, (orders site entries).Perm entries) →
      let topo := HostTopology.build build groups cpuToNode
      let snapshots := discoverLlcSnapshots topo allowed holders
      PlanExact allowed topo snapshots target (planFromSnapshots topo allowed orders target snapshots distance)) ↔
    BudgetSound groups cpuToNode allowed target := by
  have most := counted_le allowed unique disjoint
  constructor
  · intro exact
    rcases Nat.lt_or_ge target (counted groups allowed) with long | short
    · refine Or.inr ⟨long,?_⟩
      have filled := (exact (fun _ => id) dodging (fun _ _ => List.Perm.refl _) dodging_perm).filled
      refine (Nat.le_min.mpr ⟨Nat.le_refl target,(long.trans_le most).le⟩).trans (filled.ge.trans ?_)
      exact dodging_filled rfl rfl positive long
    · refine Or.inl ⟨short,?_⟩
      have filled := (exact (fun _ => id) (fun _ => id) (fun _ _ => List.Perm.refl _)
        (fun _ _ => List.Perm.refl _)).filled
      have same := filled.symm.trans (filled_short rfl rfl positive short)
      rcases Nat.le_total target (reachable groups allowed).card with low | high
      · exact Or.inl (same.symm.trans (Nat.min_eq_left low))
      · exact Or.inr (same.symm.trans (Nat.min_eq_right high))
  · intro sound build orders buildPerm ordersPerm topo snapshots
    have filled : (materialise topo allowed target
        (planFromSnapshots topo allowed orders target snapshots distance)).length =
          min target (reachable groups allowed).card := by
      rcases sound with ⟨short,right⟩ | ⟨long,enough⟩
      · refine Eq.trans (filled_short rfl rfl positive short) ?_
        rcases right with same | same
        · exact same.trans (Nat.min_eq_left (same ▸ most)).symm
        · exact same.trans (Nat.min_eq_right (same ▸ short)).symm
      · refine Eq.trans (filled_scored rfl rfl positive long buildPerm ordersPerm enough) ?_
        exact (Nat.min_eq_left (long.le.trans most)).symm
    exact ⟨(plan_known rfl rfl positive).1,(plan_known rfl rfl positive).2,filled,plan_inhabited allowed positive filled⟩

/-- The only LLC with an allowed CPU is the second: the planner sums the first one's allowed
CPUs instead, takes the short cut on a total of zero and selects nothing. -/
theorem sparse_snapshots_select_nothing :
    let topo := HostTopology.build (fun _ => id) [⟨[0]⟩,⟨[1]⟩] fun _ => none
    let snapshots := discoverLlcSnapshots topo {1} fun _ => 0
    snapshots = [⟨1,0⟩] ∧ planFromSnapshots topo {1} (fun _ => id) 1 snapshots (fun _ _ => 10) = [] ∧
      (reachable [⟨[0]⟩,⟨[1]⟩] {1}).card = 1 := by
  decide +kernel

/-- On a host whose LLCs are all allowed, one LLC fills a budget of one CPU. -/
theorem first_llc_fills_one :
    let topo := HostTopology.build (fun _ => id) [⟨[0,1]⟩,⟨[2,3]⟩] fun _ => none
    let snapshots := discoverLlcSnapshots topo {0,1,2,3} fun _ => 0
    0 < 1 ∧ PlanExact {0,1,2,3} topo snapshots 1
      (planFromSnapshots topo {0,1,2,3} (fun _ => id) 1 snapshots fun _ _ => 10) := by
  refine ⟨by decide,?_⟩
  refine (plan_exact_iff [⟨[0,1]⟩,⟨[2,3]⟩] (fun _ => none) {0,1,2,3} (fun _ => 0) (fun _ _ => 10) 1 (by decide)
    (by decide) (by simp [List.Disjoint])).mpr ?_ _ _ (fun _ _ => List.Perm.refl _) fun _ _ => List.Perm.refl _
  refine Or.inr ⟨by decide,?_⟩
  decide

end Ktstr.LlcPlans
