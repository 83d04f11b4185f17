import Ktstr.Library.Budgets
import Ktstr.LlcPlans

/-! LLCs are chosen in order of score and distance but filled in order of index, so a plan can lock an LLC it takes no CPU
from. -/
namespace Ktstr.LockedShares
open List Library.Budgets Source.Topology LlcPlans Nat

section
variable (topo : HostTopology) (allowed : Finset Nat) (orders : Site → Iteration) (target : Nat)

def onNode (candidates : List LlcSnapshot) (node : Nat) : List Nat :=
  (candidates.filter fun snap => llcNumaNode topo (orders (.visit node snap.llcIdx)) snap.llcIdx = node).map
    LlcSnapshot.llcIdx

/-- LLCs in the order they are looked at: node by node from the one of the highest score, within a node by score. -/
def visits (snapshots : List LlcSnapshot) (distance : Nat → Nat → Nat) : List Nat :=
  match ranked topo allowed snapshots with
  | [] => []
  | seed::rest =>
    (numaNodesSortedByDistance topo (llcNumaNode topo (orders .seed) seed.llcIdx) distance).flatMap
      (onNode topo orders (seed::rest))

/-- LLCs a plan locks: all with an allowed CPU if the first ones together do not exceed the budget, or else those that the
LLCs looked at before leave short of it. -/
def locked (snapshots : List LlcSnapshot) (distance : Nat → Nat → Nat) : Finset Nat :=
  if ((List.range snapshots.length).map (llcAllowedCpus topo allowed)).sum ≤ target then
    (Finset.range snapshots.length).filter fun idx => 0 < llcAllowedCpus topo allowed idx
  else within (llcAllowedCpus topo allowed) target (visits topo allowed orders snapshots distance)

structure Follows (walk : Walk) (visited : List Nat) : Prop where
  picked : walk.picked = within (llcAllowedCpus topo allowed) target visited
  counted : walk.accumulated = ∑ idx ∈ walk.picked, llcAllowedCpus topo allowed idx
  listed : walk.selected.toFinset = walk.picked
  distinct : walk.selected.Nodup

variable {topo allowed orders target}

theorem Follows.full_iff {walk : Walk} {visited : List Nat} (follows : Follows topo allowed target walk visited) :
    walk.accumulated ≥ target ↔ ¬ ∑ idx ∈ visited.toFinset, llcAllowedCpus topo allowed idx < target := by
  rw [follows.counted,follows.picked]
  constructor
  · intro full short
    rw [within_short _ short] at full
    omega
  · intro enough
    exact le_sum_within _ _ _ (not_lt.mp enough)

theorem visitSnapshot_follows {node : Nat} {walk : Walk} {visited : List Nat} (snap : LlcSnapshot)
    (follows : Follows topo allowed target walk visited) :
    Follows topo allowed target (visitSnapshot topo allowed orders target node walk snap)
      (visited ++ onNode topo orders [snap] node) := by
  have full := follows.full_iff
  unfold visitSnapshot
  by_cases here : llcNumaNode topo (orders (.visit node snap.llcIdx)) snap.llcIdx = node
  · have once : onNode topo orders [snap] node = [snap.llcIdx] := by simp [onNode,here]
    have picked := within_concat (llcAllowedCpus topo allowed) target visited snap.llcIdx
    rw [once]
    split_ifs with filled taken elsewhere
    · rw [if_neg (full.mp filled)] at picked
      exact ⟨follows.picked.trans picked.symm,follows.counted,follows.listed,follows.distinct⟩
    · have short : ∑ idx ∈ visited.toFinset, llcAllowedCpus topo allowed idx < target := by
        by_contra enough
        exact filled (full.mpr enough)
      rw [if_pos short,← follows.picked,Finset.insert_eq_of_mem taken] at picked
      exact ⟨picked.symm,follows.counted,follows.listed,follows.distinct⟩
    · exact absurd here elsewhere
    · have short : ∑ idx ∈ visited.toFinset, llcAllowedCpus topo allowed idx < target := by
        by_contra enough
        exact filled (full.mpr enough)
      rw [if_pos short,← follows.picked] at picked
      have fresh : snap.llcIdx ∉ walk.selected := by
        rw [← mem_toFinset,follows.listed]
        exact taken
      refine ⟨picked.symm,?_,?_,?_⟩
      · rw [Finset.sum_insert taken,← follows.counted,add_comm]
      · rw [toFinset_append,follows.listed]
        simp
      · exact List.Nodup.append follows.distinct (nodup_singleton _) (by simpa using fresh)
  · have none : onNode topo orders [snap] node = [] := by simp [onNode,here]
    rw [none,append_nil]
    split_ifs
    · exact follows
    · exact follows
    · exact follows

theorem candidates_follow (node : Nat) (walk : Walk) (visited : List Nat) (candidates : List LlcSnapshot)
    (follows : Follows topo allowed target walk visited) :
    Follows topo allowed target (candidates.foldl (visitSnapshot topo allowed orders target node) walk)
      (visited ++ onNode topo orders candidates node) := by
  induction candidates generalizing walk visited with
  | nil => simpa [onNode] using follows
  | cons snap candidates ih =>
    have joined : onNode topo orders (snap::candidates) node =
        onNode topo orders [snap] node ++ onNode topo orders candidates node := by
      rw [onNode,onNode,onNode,← map_append,← filter_append]
      rfl
    rw [joined,← append_assoc]
    exact ih _ _ (visitSnapshot_follows snap follows)

theorem nodes_follow (candidates : List LlcSnapshot) (nodes : List Nat) (walk : Walk) (visited : List Nat)
    (follows : Follows topo allowed target walk visited) :
    Follows topo allowed target (nodes.foldl (visitNode topo allowed orders target candidates) walk)
      (visited ++ nodes.flatMap (onNode topo orders candidates)) := by
  induction nodes generalizing walk visited with
  | nil => simpa using follows
  | cons node nodes ih =>
    have next : Follows topo allowed target (visitNode topo allowed orders target candidates walk node)
        (visited ++ onNode topo orders candidates node) := by
      unfold visitNode
      split_ifs with filled
      · have enough := not_lt.mp (follows.full_iff.mp filled)
        exact ⟨follows.picked.trans (within_append _ _ _ enough).symm,follows.counted,follows.listed,follows.distinct⟩
      · exact candidates_follow node walk visited candidates follows
    have rest := ih _ _ next
    rw [append_assoc] at rest
    exact rest

variable {snapshots : List LlcSnapshot} {distance : Nat → Nat → Nat}

theorem visits_eligible {idx : Nat} (visited : idx ∈ visits topo allowed orders snapshots distance) :
    0 < llcAllowedCpus topo allowed idx := by
  have eligible := ranked_perm topo allowed snapshots
  unfold visits at visited
  split at visited
  · cases visited
  · next seed rest listed =>
    rw [listed] at eligible
    obtain ⟨node,_,member⟩ := mem_flatMap.mp visited
    obtain ⟨snap,among,rfl⟩ := mem_map.mp member
    have passed := eligible.mem_iff.mp (mem_of_mem_filter among)
    simpa using (mem_filter.mp passed).2

theorem locked_eligible {idx : Nat} (member : idx ∈ locked topo allowed orders target snapshots distance) :
    0 < llcAllowedCpus topo allowed idx := by
  unfold locked at member
  split at member
  · exact (Finset.mem_filter.mp member).2
  · exact visits_eligible (mem_toFinset.mp (within_subset _ member))

variable (topo)

def ascending (llcs : Finset Nat) : List Nat := (List.range topo.llcGroups.length).filter fun idx => idx ∈ llcs

variable {topo}

theorem ascending_of_mem_iff {selected : List Nat} {llcs : Finset Nat} (sorted : selected.Pairwise (· < ·))
    (same : ∀ idx, idx ∈ selected ↔ idx ∈ llcs) (inside : ∀ idx ∈ llcs, idx < topo.llcGroups.length) :
    selected = ascending topo llcs := by
  refine sorted.eq_of_mem_iff (pairwise_lt_range.filter _) fun idx => ?_
  rw [same,ascending,mem_filter,List.mem_range]
  constructor
  · intro member
    exact ⟨inside idx member,decide_eq_true member⟩
  · intro both
    exact of_decide_eq_true both.2

theorem plan_locks (positive : target ≠ 0) : planFromSnapshots topo allowed orders target snapshots distance =
      ascending topo (locked topo allowed orders target snapshots distance) := by
  have inside (idx : Nat) (member : idx ∈ locked topo allowed orders target snapshots distance) :
      idx < topo.llcGroups.length :=
    allowed_inside (locked_eligible member)
  apply ascending_of_mem_iff ?_ ?_ inside
  · unfold planFromSnapshots
    rw [if_neg positive]
    dsimp only
    split
    · exact sorted_ascending (nodup_range.filter _)
    · split
      · exact List.Pairwise.nil
      · apply sorted_ascending
        exact (nodes_follow _ _ {} [] ⟨rfl,rfl,rfl,nodup_nil⟩).distinct
  · intro idx
    unfold planFromSnapshots locked visits
    rw [if_neg positive]
    dsimp only
    split
    · simp [mem_mergeSort]
    · cases listed : ranked topo allowed snapshots with
      | nil => simp [within_nil]
      | cons seed rest =>
        have start : Follows topo allowed target {} [] := ⟨rfl,rfl,rfl,nodup_nil⟩
        rw [mem_mergeSort,← mem_toFinset,(nodes_follow _ _ _ _ start).listed,(nodes_follow _ _ _ _ start).picked,
          nil_append]

variable (topo allowed target)

/-- Every LLC the plan locks gives it a CPU; its CPUs are allowed ones, each taken once; its nodes are theirs. -/
structure PlanCovers (plan : LlcPlan) : Prop where
  shared : ∀ idx ∈ plan.lockedLlcs, ∃ cpu ∈ (groupAt topo idx).cpus, cpu ∈ plan.cpus
  distinct : plan.cpus.Nodup
  inside : ∀ cpu ∈ plan.cpus, cpu ∈ allowed
  nodes : plan.mems = (plan.cpus.map (nodeOfCpu topo.cpuToNode)).toFinset

/-- The first CPUs of some LLCs, in ascending order of LLC, as many as the budget has. -/
def counted (llcs : Finset Nat) : List Nat := ((ascending topo llcs).flatMap (allowedCpus topo allowed)).take target

/-- No CPU is counted twice, and every LLC is reached: those of lower index leave some of the budget, or one of its CPUs is
counted with them. -/
def Reached (llcs : Finset Nat) : Prop :=
  (counted topo allowed target llcs).Nodup ∧
    ∀ idx ∈ llcs, ∑ other ∈ llcs with other < idx, llcAllowedCpus topo allowed other < target ∨
      ∃ cpu ∈ allowedCpus topo allowed idx, cpu ∈ counted topo allowed target llcs

instance (llcs : Finset Nat) : Decidable (Reached topo allowed target llcs) :=
  inferInstanceAs (Decidable ((counted topo allowed target llcs).Nodup ∧
    ∀ idx ∈ llcs, ∑ other ∈ llcs with other < idx, llcAllowedCpus topo allowed other < target ∨
      ∃ cpu ∈ allowedCpus topo allowed idx, cpu ∈ counted topo allowed target llcs))

theorem takeCpuNode_fold (cpus : List Nat) (taken : List Nat × Finset Nat)
    (paired : taken.2 = (taken.1.map (nodeOfCpu topo.cpuToNode)).toFinset) :
    (cpus.foldl (takeCpuNode topo allowed target) taken).1 = cpus.foldl (takeCpu allowed target) taken.1 ∧
      (cpus.foldl (takeCpuNode topo allowed target) taken).2 =
        ((cpus.foldl (takeCpuNode topo allowed target) taken).1.map (nodeOfCpu topo.cpuToNode)).toFinset := by
  induction cpus generalizing taken with
  | nil => exact ⟨rfl,paired⟩
  | cons cpu cpus ih =>
    rw [foldl_cons,foldl_cons]
    have step : (takeCpuNode topo allowed target taken cpu).1 = takeCpu allowed target taken.1 cpu ∧
        (takeCpuNode topo allowed target taken cpu).2 =
          ((takeCpuNode topo allowed target taken cpu).1.map (nodeOfCpu topo.cpuToNode)).toFinset := by
      unfold takeCpuNode takeCpu
      by_cases barred : cpu ∉ allowed
      · rw [if_pos barred,if_pos barred]
        exact ⟨rfl,paired⟩
      by_cases full : taken.1.length ≥ target
      · rw [if_neg barred,if_pos full,if_neg barred,if_pos full]
        exact ⟨rfl,paired⟩
      · rw [if_neg barred,if_neg full,if_neg barred,if_neg full]
        simp [paired]
    rw [← step.1]
    exact ih _ step.2

variable {topo allowed target}

theorem materialisePlan_eq {selected : List Nat} {snapshots : List LlcSnapshot} :
    (materialisePlan topo allowed target selected snapshots).cpus = materialise topo allowed target selected ∧
      (materialisePlan topo allowed target selected snapshots).mems =
        ((materialisePlan topo allowed target selected snapshots).cpus.map (nodeOfCpu topo.cpuToNode)).toFinset := by
  have general (taken : List Nat × Finset Nat) (paired : taken.2 = (taken.1.map (nodeOfCpu topo.cpuToNode)).toFinset) :
      let result := selected.foldl
        (fun taken idx => (groupAt topo idx).cpus.foldl (takeCpuNode topo allowed target) taken) taken
      result.1 = selected.foldl (fun cpus idx => (groupAt topo idx).cpus.foldl (takeCpu allowed target) cpus) taken.1 ∧
        result.2 = (result.1.map (nodeOfCpu topo.cpuToNode)).toFinset := by
    induction selected generalizing taken with
    | nil => exact ⟨rfl,paired⟩
    | cons idx selected ih =>
      have step := takeCpuNode_fold topo allowed target (groupAt topo idx).cpus taken paired
      rw [foldl_cons,foldl_cons,← step.1]
      exact ih _ step.2
  exact general ([],∅) rfl

theorem ascending_split {llcs : Finset Nat} {idx : Nat} (member : idx ∈ llcs)
    (bounded : ∀ other ∈ llcs, other < topo.llcGroups.length) :
    ∃ before after, ascending topo llcs = before ++ idx::after ∧
      (before.flatMap (allowedCpus topo allowed)).length =
        ∑ other ∈ llcs with other < idx, llcAllowedCpus topo allowed other := by
  have listed : idx ∈ ascending topo llcs := by simp [ascending,member,bounded idx member]
  have sorted : (ascending topo llcs).Pairwise (· < ·) := pairwise_lt_range.filter _
  obtain ⟨before,after,split⟩ := append_of_mem listed
  refine ⟨before,after,split,?_⟩
  rw [split,pairwise_append,pairwise_cons] at sorted
  obtain ⟨lower,⟨higher,_⟩,across⟩ := sorted
  have same : before.toFinset = llcs.filter (· < idx) := by
    ext other
    have known : other ∈ ascending topo llcs ↔ other ∈ llcs := by
      simp only [ascending,mem_filter,List.mem_range,decide_eq_true_eq]
      exact ⟨fun both => both.2,fun inside => ⟨bounded other inside,inside⟩⟩
    rw [mem_toFinset,Finset.mem_filter,← known,split]
    constructor
    · intro early
      exact ⟨mem_append_left _ early,across other early idx mem_cons_self⟩
    · rintro ⟨among,below⟩
      rcases mem_append.mp among with early | late
      · exact early
      · rcases mem_cons.mp late with rfl | late
        · exact absurd below (lt_irrefl _)
        · exact absurd below (lt_asymm (higher other late))
  rw [← same,sum_toFinset _ (lower.imp ne_of_lt),length_flatMap]
  rfl

theorem counted_reached {llcs : Finset Nat} {idx : Nat} (member : idx ∈ llcs)
    (bounded : ∀ other ∈ llcs, other < topo.llcGroups.length) (some : 0 < llcAllowedCpus topo allowed idx)
    (room : ∑ other ∈ llcs with other < idx, llcAllowedCpus topo allowed other < target) :
    ∃ cpu ∈ allowedCpus topo allowed idx, cpu ∈ counted topo allowed target llcs := by
  obtain ⟨before,after,split,length⟩ := ascending_split member bounded
  obtain ⟨cpu,rest,first⟩ := exists_cons_of_length_pos some
  refine ⟨cpu,by rw [first]; exact mem_cons_self,?_⟩
  rw [← length] at room
  rw [counted,split,flatMap_append,flatMap_cons,first,take_append]
  obtain ⟨left,more⟩ := exists_eq_succ_of_ne_zero (sub_ne_zero_of_lt room)
  rw [more,cons_append]
  exact mem_append_right _ mem_cons_self

theorem covers_iff_reached (positive : target ≠ 0) : PlanCovers topo allowed (materialisePlan topo allowed target
        (planFromSnapshots topo allowed orders target snapshots distance) snapshots) ↔
      Reached topo allowed target (locked topo allowed orders target snapshots distance) := by
  have eligible (idx : Nat) (member : idx ∈ locked topo allowed orders target snapshots distance) :=
    locked_eligible member
  have planned : planFromSnapshots topo allowed orders target snapshots distance = _ := plan_locks positive
  generalize planFromSnapshots topo allowed orders target snapshots distance = selected at *
  generalize locked topo allowed orders target snapshots distance = llcs at *
  subst planned
  have bounded idx (member : idx ∈ llcs) := allowed_inside (eligible idx member)
  obtain ⟨cpus,nodes⟩ := materialisePlan_eq
  rw [materialise_eq] at cpus
  change _ = counted topo allowed target llcs at cpus
  have listed (idx : Nat) : idx ∈ ascending topo llcs ↔ idx ∈ llcs := by
    simp only [ascending,mem_filter,List.mem_range,decide_eq_true_eq]
    exact ⟨fun both => both.2,fun inside => ⟨bounded idx inside,inside⟩⟩
  have free (cpu : Nat) (member : cpu ∈ counted topo allowed target llcs) : cpu ∈ allowed := by
    obtain ⟨idx,_,among⟩ := mem_flatMap.mp (mem_of_mem_take member)
    exact of_decide_eq_true (mem_filter.mp among).2
  constructor
  · intro covers
    refine ⟨cpus ▸ covers.distinct,fun idx member => Or.inr ?_⟩
    obtain ⟨cpu,among,taken⟩ := covers.shared idx ((listed idx).mpr member)
    rw [cpus] at taken
    exact ⟨cpu,mem_filter.mpr ⟨among,decide_eq_true (free cpu taken)⟩,taken⟩
  · rintro ⟨distinct,reached⟩
    refine ⟨fun idx member => ?_,cpus ▸ distinct,cpus ▸ free,nodes⟩
    have chosen := (listed idx).mp member
    rw [cpus]
    obtain ⟨cpu,among,taken⟩ : ∃ cpu ∈ allowedCpus topo allowed idx, cpu ∈ counted topo allowed target llcs := by
      rcases reached idx chosen with room | shared
      · exact counted_reached chosen bounded (eligible idx chosen) room
      · exact shared
    exact ⟨cpu,mem_of_mem_filter among,taken⟩

variable (topo allowed target distance) in
def MadeBy (attempt : Attempt) (plan : LlcPlan) : Prop :=
  ∃ holders, attempt.holders = some holders ∧ attempt.acquired = some true ∧
    plan = materialisePlan topo allowed target (planFromSnapshots topo allowed attempt.orders target
      (discoverLlcSnapshots topo allowed holders) distance) (discoverLlcSnapshots topo allowed holders)

theorem tryAttempt_made {attempt : Attempt} {plan : LlcPlan}
    (done : tryAttempt topo allowed target distance attempt = .ok (some plan)) :
    MadeBy topo allowed target distance attempt plan := by
  unfold tryAttempt at done
  split at done
  · cases done
  next holders found =>
  dsimp only at done
  split at done
  · cases done
  split at done
  · cases done
  · next acquired =>
    cases done
    exact ⟨holders,found,acquired,rfl⟩
  · cases done

theorem acquireLoop_made (attempts : Nat → Attempt) (attempt retries : Nat) (plan : LlcPlan)
    (made : acquireLoop topo allowed target distance attempts attempt retries = .ok plan) :
    ∃ made, attempt ≤ made ∧ made ≤ attempt + retries ∧ MadeBy topo allowed target distance (attempts made) plan := by
  induction retries generalizing attempt with
  | zero =>
    unfold acquireLoop at made
    split at made
    · cases made
    · next result done =>
      cases made
      exact ⟨attempt,le_refl _,le_add_right _ _,tryAttempt_made done⟩
    · unfold giveUp at made
      split at made
      · cases made
      · cases made
  | succ retries ih =>
    unfold acquireLoop at made
    split at made
    · cases made
    · next result done =>
      cases made
      exact ⟨attempt,le_refl _,le_add_right _ _,tryAttempt_made done⟩
    · obtain ⟨later,low,high,rest⟩ := ih (attempt + 1) made
      exact ⟨later,by omega,by omega,rest⟩

variable (topo allowed)

/-- Whenever a plan is made, by whichever attempt: its locked LLCs, CPUs and nodes fit together exactly if every LLC it locks
is reached before the budget is used up, in ascending order. -/
theorem plan_covers_iff (cpuCap : Option CpuCap) (mountinfo : Bool) (distance : Nat → Nat → Nat) (attempts : Nat → Attempt)
    (plan : LlcPlan)
    (made : acquireLlcPlanWithAcquireFn topo allowed cpuCap mountinfo distance attempts = .ok plan) :
    ∃ budget attempt holders, targetCpus allowed cpuCap = .ok budget ∧ attempt ≤ acquireMaxToctouRetries ∧
      (attempts attempt).holders = some holders ∧ (attempts attempt).acquired = some true ∧
      (PlanCovers topo allowed plan ↔ Reached topo allowed budget
          (locked topo allowed (attempts attempt).orders budget (discoverLlcSnapshots topo allowed holders) distance)) := by
  unfold acquireLlcPlanWithAcquireFn at made
  split at made
  · cases made
  split at made
  · cases made
  next budget asked =>
  split at made
  · cases made
  next positive =>
  split at made
  · cases made
  obtain ⟨attempt,_,late,holders,found,acquired,rfl⟩ := acquireLoop_made attempts 0 _ plan made
  refine ⟨budget,attempt,holders,asked,by simpa using late,found,acquired,?_⟩
  exact covers_iff_reached positive

end

/-- Two LLCs, of which the second has a holder and is looked at first. -/
def heldSecond : Attempt := ⟨some fun idx => idx,fun _ => id,some true⟩

def heldSecondHost : HostTopology := .build (fun _ => id) [⟨[0,1]⟩,⟨[2]⟩] fun _ => none

def heldSecondSnapshots : List LlcSnapshot := discoverLlcSnapshots heldSecondHost {0,1,2} fun idx => idx

theorem heldSecond_selected {target : Nat} (few : target = 2 ∨ target = 3) :
    planFromSnapshots heldSecondHost {0,1,2} (fun _ => id) target heldSecondSnapshots (fun _ _ => 10) = [0,1] := by
  rw [plan_locks (by omega)]
  rcases few with rfl | rfl
  · decide +kernel
  · decide +kernel

theorem heldSecond_made (target : Nat) (positive : 0 < target) (few : target = 2 ∨ target = 3) :
    acquireLlcPlanWithAcquireFn heldSecondHost {0,1,2} (some ⟨target,positive⟩) true (fun _ _ => 10) (fun _ => heldSecond) =
      .ok (materialisePlan heldSecondHost {0,1,2} target [0,1] heldSecondSnapshots) := by
  have selected := heldSecond_selected few
  have size : ({0,1,2} : Finset Nat).card = 3 := rfl
  have fits : ¬ target > 3 := by omega
  simp only [heldSecondSnapshots] at selected ⊢
  simp [acquireLlcPlanWithAcquireFn,targetCpus,effectiveCount,size,fits,ne_of_gt positive,acquireMaxToctouRetries,
    acquireLoop,tryAttempt,heldSecond,selected]

/-- The second LLC is taken for its holder and the first for the rest; filled from the first, a budget of two leaves the
second nothing. -/
theorem held_llc_gives_nothing :
    ∃ plan, acquireLlcPlanWithAcquireFn heldSecondHost {0,1,2} (some ⟨2,by decide⟩) true (fun _ _ => 10) (fun _ => heldSecond) =
        .ok plan ∧
      plan.lockedLlcs = [0,1] ∧ plan.cpus = [0,1] ∧ ¬ PlanCovers heldSecondHost {0,1,2} plan := by
  refine ⟨_,heldSecond_made 2 (by decide) (by decide),rfl,by decide,?_⟩
  intro covers
  have second := covers.shared 1 (by decide)
  revert second
  decide

/-- A budget of three takes from both. -/
theorem both_llcs_give :
    ∃ plan, acquireLlcPlanWithAcquireFn heldSecondHost {0,1,2} (some ⟨3,by decide⟩) true (fun _ _ => 10) (fun _ => heldSecond) =
        .ok plan ∧ PlanCovers heldSecondHost {0,1,2} plan := by
  have made := heldSecond_made 3 (by decide) (by decide)
  refine ⟨_,made,?_⟩
  obtain ⟨budget,attempt,holders,asked,_,found,_,same⟩ := plan_covers_iff heldSecondHost {0,1,2} _ _ _ _ _ made
  cases asked
  cases found
  refine same.mpr ?_
  decide +kernel

end Ktstr.LockedShares
