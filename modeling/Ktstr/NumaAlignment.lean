import Ktstr.PinnedCpus

/-! Pinned guest nodes keep to host nodes of their own where they have even shares of the LLCs; the order shares LLCs out
evenly, whatever the guest's nodes are. -/
namespace Ktstr.NumaAlignment
open Library.Rotations Library.Shares Source.Topology Source.VmTopology Source.Pinning GuestShapes LlcOrders PinnedCpus

variable (host : Host) (topo : Topology) (llcOffset : Nat)

def pinnedLlc (llc : Nat) : Nat :=
  ((numaAwareLlcOrder host topo.numaNodes topo.llcs llcOffset).getD []).getD llc 0

section
variable (orders : Nat → Iteration) (groups : List LlcGroup) (online : List Nat) (cpuToNode : Std.ExtTreeMap Nat Nat)
  (topo : Topology) (llcOffset : Nat)

/-- LLCs of a guest node are on one host node, those of different guest nodes on different ones. -/
structure NodesKept (plan : PinningPlan) : Prop where
  pinned : ∀ pair ∈ plan.assignments, pair.2 ∈ (groups.getD
    (pinnedLlc (Host.build orders groups online cpuToNode) topo llcOffset (topo.decompose pair.1).1) ⟨[]⟩).cpus
  kept : ∀ first < topo.llcs, ∀ second < topo.llcs, (topo.numaNodeOf first = topo.numaNodeOf second ↔
    hostNode orders groups cpuToNode (pinnedLlc (Host.build orders groups online cpuToNode) topo llcOffset first) =
      hostNode orders groups cpuToNode (pinnedLlc (Host.build orders groups online cpuToNode) topo llcOffset second))

end

def nodeOffset : Nat := llcOffset / max (maxPerNode topo.numaNodes topo.llcs) 1

def NodesSpread : Prop :=
  Spread usizeSpan (eligible host topo.numaNodes topo.llcs).length (nodeOffset topo llcOffset) topo.numaNodes

instance (host : Host) (topo : Topology) (llcOffset : Nat) : Decidable (NodesSpread host topo llcOffset) :=
  inferInstanceAs (Decidable (Spread _ _ _ _))

/-- Where the guest's nodes are even shares of the LLCs. If the rotation comes back to where it began, two LLCs next to
each other fall together and have to be the only ones of one node. -/
def EvenNodes : Prop :=
  if NodesSpread host topo llcOffset then
    ∀ llc < topo.llcs - 1, (topo.numaNodeOf llc = topo.numaNodeOf (llc + 1) ↔
      ∀ part < topo.numaNodes, start (topo.llcs / topo.numaNodes) (topo.llcs % topo.numaNodes) part ≠ llc + 1)
  else
    usizeSpan % (eligible host topo.numaNodes topo.llcs).length = 1 ∧
      ∀ llc < topo.llcs - 1, (topo.numaNodeOf llc = topo.numaNodeOf (llc + 1) ↔
        llc + 1 = usizeSpan - nodeOffset topo llcOffset)

instance (host : Host) (topo : Topology) (llcOffset : Nat) : Decidable (EvenNodes host topo llcOffset) :=
  inferInstanceAs (Decidable (if NodesSpread host topo llcOffset then
    ∀ llc < topo.llcs - 1, (_ ↔ ∀ part < topo.numaNodes, _ ≠ _) else _ ∧ ∀ llc < topo.llcs - 1, (_ ↔ _)))

section
variable {host : Host} {topo : Topology} {llcOffset : Nat} (aligns : Aligns host topo.numaNodes topo.llcs)
  (fits : llcOffset < usizeSpan)

section
include aligns fits

theorem single_of_crowded (crowded : ¬ NodesSpread host topo llcOffset) :
    topo.llcs / topo.numaNodes = 1 ∧ topo.llcs % topo.numaNodes = 0 := by
  have base := Nat.div_pos aligns.2.2.1 (Nat.lt_of_lt_of_le Nat.zero_lt_two aligns.1)
  by_contra several
  have two : 2 ≤ max (maxPerNode topo.numaNodes topo.llcs) 1 := by
    unfold maxPerNode
    split <;> omega
  have half : nodeOffset topo llcOffset ≤ llcOffset / 2 := Nat.div_le_div_left two Nat.zero_lt_two
  have narrow := topo.numaNodes_u32
  unfold usizeSpan at fits
  unfold u32Span at narrow
  refine crowded (Or.inl ?_)
  unfold usizeSpan
  omega

end

variable {node : Nat → Nat} (grouped : Grouped host node)
include grouped aligns

theorem located (llcOffset llc : Nat) (inside : llc < topo.llcs) :
    ∃ part < topo.numaNodes, start (topo.llcs / topo.numaNodes) (topo.llcs % topo.numaNodes) part ≤ llc ∧
      llc < start (topo.llcs / topo.numaNodes) (topo.llcs % topo.numaNodes) (part + 1) ∧
      node (pinnedLlc host topo llcOffset llc) = (landing host topo.numaNodes topo.llcs llcOffset part).1 := by
  have total := start_total topo.llcs (Nat.lt_of_lt_of_le Nat.zero_lt_two aligns.1)
  obtain ⟨part,below,place,within,rfl⟩ := exists_part _ _ (total.symm ▸ inside)
  obtain ⟨idx,member,found⟩ := order_at aligns below within
  refine ⟨part,below,Nat.le_add_right _ _,?_,?_⟩
  · rw [start_succ]
    omega
  · have pinned : pinnedLlc host topo llcOffset
        (start (topo.llcs / topo.numaNodes) (topo.llcs % topo.numaNodes) part + place) = idx := by
      rw [pinnedLlc,order_aligned aligns,Option.getD_some,List.getD,found,Option.getD_some]
    rw [pinned]
    exact ((grouped _ (landing_listed llcOffset aligns part).1).2 idx member).2

include fits

theorem host_eq_iff_share (spread : NodesSpread host topo llcOffset) (first second : Nat)
    (ordered : first < second) (inside : second < topo.llcs) :
    node (pinnedLlc host topo llcOffset first) = node (pinnedLlc host topo llcOffset second) ↔
      ∀ part < topo.numaNodes,
        ¬ (first < start (topo.llcs / topo.numaNodes) (topo.llcs % topo.numaNodes) part ∧
          start (topo.llcs / topo.numaNodes) (topo.llcs % topo.numaNodes) part ≤ second) := by
  obtain ⟨firstPart,firstIn,firstFrom,firstTo,firstHost⟩ := located aligns grouped llcOffset first (by omega)
  obtain ⟨secondPart,secondIn,secondFrom,secondTo,secondHost⟩ := located aligns grouped llcOffset second inside
  rw [firstHost,secondHost,landing_eq_iff aligns,
    ← same_part_iff ordered.le secondIn firstFrom firstTo secondFrom secondTo]
  constructor
  · have wide : u32Span ≤ usizeSpan := by decide
    have narrow := topo.numaNodes_u32
    have below : nodeOffset topo llcOffset < usizeSpan := (Nat.div_le_self _ _).trans_lt fits
    have distinct := (nodup_slots_iff _ _ _ below aligns.2.2.2 (by omega)).mpr spread
    rw [List.nodup_map_iff_inj_on List.nodup_range] at distinct
    exact distinct firstPart (List.mem_range.mpr firstIn) secondPart (List.mem_range.mpr secondIn)
  · rintro rfl
    rfl

theorem kept_iff_even (spread : NodesSpread host topo llcOffset) :
    (∀ first < topo.llcs, ∀ second < topo.llcs, (topo.numaNodeOf first = topo.numaNodeOf second ↔
      node (pinnedLlc host topo llcOffset first) = node (pinnedLlc host topo llcOffset second))) ↔
    ∀ llc < topo.llcs - 1, (topo.numaNodeOf llc = topo.numaNodeOf (llc + 1) ↔
      ∀ part < topo.numaNodes, start (topo.llcs / topo.numaNodes) (topo.llcs % topo.numaNodes) part ≠ llc + 1) := by
  have meets := host_eq_iff_share aligns fits grouped spread
  rw [agree_iff_ordered]
  constructor
  · intro kept llc inside
    rw [kept llc (llc + 1) (by omega) (by omega),meets llc (llc + 1) (by omega) (by omega)]
    refine forall₂_congr fun part _ => ?_
    omega
  · intro even first second ordered inside
    rw [meets first second ordered inside,
      eq_iff_steps topo.numaNodeOf topo.llcs first second (fun _ _ le _ => numaNodeOf_le le) ordered.le inside]
    constructor
    · rintro steps part below ⟨after,before⟩
      have step := steps (start (topo.llcs / topo.numaNodes) (topo.llcs % topo.numaNodes) part - 1) (by omega) (by omega)
      exact (even _ (by omega)).mp step part below (by omega)
    · intro none llc after before
      refine (even llc (by omega)).mpr fun part below here => ?_
      exact none part below (by omega)

theorem host_eq_iff_meet (crowded : ¬ NodesSpread host topo llcOffset)
    (first second : Nat) (ordered : first < second) (inside : second < topo.llcs) :
    node (pinnedLlc host topo llcOffset first) = node (pinnedLlc host topo llcOffset second) ↔
      first + nodeOffset topo llcOffset < usizeSpan ∧ usizeSpan ≤ second + nodeOffset topo llcOffset ∧
        second - first = usizeSpan % (eligible host topo.numaNodes topo.llcs).length := by
  obtain ⟨base,remainder⟩ := single_of_crowded aligns fits crowded
  have wide : u32Span ≤ usizeSpan := by decide
  have narrow := topo.llcs_u32
  have room := aligns.2.2.2
  have below : nodeOffset topo llcOffset < usizeSpan := (Nat.div_le_self _ _).trans_lt fits
  have alone (part : Nat) : start (topo.llcs / topo.numaNodes) (topo.llcs % topo.numaNodes) part = part := by
    rw [base,start]
    omega
  obtain ⟨firstPart,_,firstFrom,firstTo,firstHost⟩ := located aligns grouped llcOffset first (by omega)
  obtain ⟨secondPart,secondIn,secondFrom,secondTo,secondHost⟩ := located aligns grouped llcOffset second inside
  rw [alone] at firstFrom firstTo secondFrom secondTo
  obtain rfl : firstPart = first := by omega
  obtain rfl : secondPart = second := by omega
  rw [firstHost,secondHost,landing_eq_iff aligns]
  exact meet_iff usizeSpan _ _ firstPart secondPart (by omega) ordered below (by omega)

theorem kept_iff_crowded (crowded : ¬ NodesSpread host topo llcOffset) :
    (∀ first < topo.llcs, ∀ second < topo.llcs, (topo.numaNodeOf first = topo.numaNodeOf second ↔
      node (pinnedLlc host topo llcOffset first) = node (pinnedLlc host topo llcOffset second))) ↔
    usizeSpan % (eligible host topo.numaNodes topo.llcs).length = 1 ∧
      ∀ llc < topo.llcs - 1, (topo.numaNodeOf llc = topo.numaNodeOf (llc + 1) ↔
        llc + 1 = usizeSpan - nodeOffset topo llcOffset) := by
  have meets := host_eq_iff_meet aligns fits grouped crowded
  have below : nodeOffset topo llcOffset < usizeSpan := (Nat.div_le_self _ _).trans_lt fits
  have steps first second ordered := eq_iff_steps topo.numaNodeOf topo.llcs first second
    (fun _ _ le _ => numaNodeOf_le le) (Nat.le_of_lt ordered)
  have count : topo.llcs = topo.numaNodes := by
    obtain ⟨base,remainder⟩ := single_of_crowded aligns fits crowded
    have whole := Nat.div_add_mod topo.llcs topo.numaNodes
    rw [base] at whole
    omega
  simp only [NodesSpread,Spread,not_or] at crowded
  rw [agree_iff_ordered]
  generalize eligible host topo.numaNodes topo.llcs = nodes at *
  generalize nodeOffset topo llcOffset = offset at *
  constructor
  · intro kept
    have skips : usizeSpan % nodes.length = 1 := by
      -- A meeting further apart would put the neighbours between on the same host node too.
      let first := usizeSpan - offset - usizeSpan % nodes.length
      have met := (meets first (first + usizeSpan % nodes.length) (by omega) (by omega)).mpr (by omega)
      have same := (kept first (first + usizeSpan % nodes.length) (by omega) (by omega)).mpr met
      have next := (steps first _ (by omega) (by omega)).mp same first (by omega) (by omega)
      have near := (kept first (first + 1) (by omega) (by omega)).mp next
      have apart := ((meets first (first + 1) (by omega) (by omega)).mp near).2.2
      omega
    refine ⟨skips,fun llc inside => ?_⟩
    rw [kept llc (llc + 1) (by omega) (by omega),meets llc (llc + 1) (by omega) (by omega)]
    omega
  · rintro ⟨skips,even⟩ first second ordered inside
    rw [meets first second ordered inside,steps first second ordered inside]
    constructor
    · intro same
      have here := (even first (by omega)).mp (same first (by omega) ordered)
      by_cases next : first + 1 = second
      · omega
      · have := (even (first + 1) (by omega)).mp (same (first + 1) (by omega) (by omega))
        omega
    · intro met llc after before
      exact (even llc (by omega)).mpr (by omega)

end

/-- Where guest nodes are put on host nodes of their own, a plan keeps them there exactly if the guest's nodes are even
shares of its LLCs. -/
theorem nodes_kept_iff (orders : Nat → Iteration) (groups : List LlcGroup) (online : List Nat)
    (cpuToNode : Std.ExtTreeMap Nat Nat) (topo : Topology) (reserve : Bool) (llcOffset : Nat) (plan : PinningPlan)
    (valid : topo.validate = .ok ()) (fits : llcOffset < usizeSpan)
    (aligns : Aligns (Host.build orders groups online cpuToNode) topo.numaNodes topo.llcs)
    (made : computePinning (Host.build orders groups online cpuToNode) topo reserve llcOffset = .ok plan) :
    NodesKept orders groups online cpuToNode topo llcOffset plan ↔
      EvenNodes (Host.build orders groups online cpuToNode) topo llcOffset := by
  obtain ⟨order,ordered,follows⟩ := plan_follows_order _ topo (accepted_of_validate valid) made
  have pinned : ∀ pair ∈ plan.assignments, pair.2 ∈ (groups.getD
      (pinnedLlc (Host.build orders groups online cpuToNode) topo llcOffset (topo.decompose pair.1).1) ⟨[]⟩).cpus := by
    intro pair member
    rw [pinnedLlc,ordered]
    exact (follows pair member).2
  have kept : NodesKept orders groups online cpuToNode topo llcOffset plan ↔ _ :=
    ⟨NodesKept.kept,fun kept => ⟨pinned,kept⟩⟩
  rw [kept,EvenNodes]
  by_cases spread : NodesSpread (Host.build orders groups online cpuToNode) topo llcOffset
  · rw [if_pos spread]
    exact kept_iff_even aligns fits node_llcs spread
  · rw [if_neg spread]
    exact kept_iff_crowded aligns fits node_llcs spread

def twoByTwo : List LlcGroup := [⟨[0]⟩,⟨[1]⟩,⟨[2]⟩,⟨[3]⟩]

def twoByTwoNodes : Std.ExtTreeMap Nat Nat := .ofList [(0,0),(1,0),(2,1),(3,1)]

def evenGuest : Topology := {llcs := 4,coresPerLlc := 1,threadsPerCore := 1,numaNodes := 2}

def unevenGuest : Topology :=
  {evenGuest with nodes := some [{llcs := 1,memoryMb := 64},{llcs := 3,memoryMb := 64}]}

theorem even_guest_kept :
    ∃ plan, computePinning (Host.build (fun _ => id) twoByTwo [0,1,2,3] twoByTwoNodes) evenGuest false 0 = .ok plan ∧
      NodesKept (fun _ => id) twoByTwo [0,1,2,3] twoByTwoNodes evenGuest 0 plan := by
  have made : computePinning (Host.build (fun _ => id) twoByTwo [0,1,2,3] twoByTwoNodes) evenGuest false 0 =
      .ok ⟨[(0,0),(1,1),(2,2),(3,3)],none,[0,1,2,3]⟩ := by
    decide +kernel
  refine ⟨_,made,?_⟩
  refine (nodes_kept_iff _ twoByTwo [0,1,2,3] twoByTwoNodes evenGuest false 0 _ ?_ ?_ ?_ made).mpr ?_
  · decide
  · decide
  · decide +kernel
  · decide +kernel

/-- The second and third LLC are of one guest node and are pinned to different host nodes. -/
theorem uneven_guest_split :
    unevenGuest.validate = .ok () ∧
      Aligns (Host.build (fun _ => id) twoByTwo [0,1,2,3] twoByTwoNodes) unevenGuest.numaNodes unevenGuest.llcs ∧
      computePinning (Host.build (fun _ => id) twoByTwo [0,1,2,3] twoByTwoNodes) unevenGuest false 0 =
        .ok ⟨[(0,0),(1,1),(2,2),(3,3)],none,[0,1,2,3]⟩ ∧
      ¬ NodesKept (fun _ => id) twoByTwo [0,1,2,3] twoByTwoNodes unevenGuest 0
        ⟨[(0,0),(1,1),(2,2),(3,3)],none,[0,1,2,3]⟩ := by
  refine ⟨by decide,by decide +kernel,by decide +kernel,fun kept => ?_⟩
  have apart : ¬ (unevenGuest.numaNodeOf 1 = unevenGuest.numaNodeOf 2 ↔
      hostNode (fun _ => id) twoByTwo twoByTwoNodes
          (pinnedLlc (Host.build (fun _ => id) twoByTwo [0,1,2,3] twoByTwoNodes) unevenGuest 0 1) =
        hostNode (fun _ => id) twoByTwo twoByTwoNodes
          (pinnedLlc (Host.build (fun _ => id) twoByTwo [0,1,2,3] twoByTwoNodes) unevenGuest 0 2)) := by
    decide +kernel
  exact apart (kept.kept 1 (by decide) 2 (by decide))

end Ktstr.NumaAlignment
