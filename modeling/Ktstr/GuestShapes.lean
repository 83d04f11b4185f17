import Ktstr.Source.VmTopology

/-! Guest topologies that pass validation. -/
namespace Ktstr.GuestShapes
open Source.VmTopology Topology

structure Accepted (topo : Topology) : Prop where
  llcs : 0 < topo.llcs
  cores : 0 < topo.coresPerLlc
  threads : 0 < topo.threadsPerCore
  nodes : 0 < topo.numaNodes
  perLlc : topo.coresPerLlc * topo.threadsPerCore < u32Span
  total : topo.llcs * (topo.coresPerLlc * topo.threadsPerCore) < u32Span
  shape : topo.shapeError = none

theorem accepted_of_validate {topo : Topology} (valid : topo.validate = .ok ()) : Accepted topo := by
  unfold validate at valid
  split at valid
  · cases valid
  next llcs =>
  split at valid
  · cases valid
  next cores =>
  split at valid
  · cases valid
  next threads =>
  split at valid
  · cases valid
  next nodes =>
  split at valid
  · cases valid
  next product =>
  have inner : topo.coresPerLlc * topo.threadsPerCore < u32Span := by
    by_contra beyond
    exact product (by simp [checkedMulU32,beyond])
  have outer : topo.llcs * (topo.coresPerLlc * topo.threadsPerCore) < u32Span := by
    by_contra beyond
    exact product (by simp [checkedMulU32,inner,beyond])
  refine ⟨by omega,by omega,by omega,by omega,inner,outer,?_⟩
  cases shape : topo.shapeError with
  | none => rfl
  | some message =>
    rw [shape] at valid
    cases valid

def Measured (topo : Topology) : Prop :=
  ∀ d, topo.distances = some d → d.n = topo.numaNodes ∧ d.validate = .ok ()

theorem validate_iff {topo : Topology} : topo.validate = .ok () ↔ Accepted topo ∧ Measured topo := by
  constructor
  · intro valid
    have accepted := accepted_of_validate valid
    refine ⟨accepted,?_⟩
    intro d attached
    have product : ((checkedMulU32 topo.coresPerLlc topo.threadsPerCore).bind (checkedMulU32 topo.llcs)).isNone = false := by
      simp [checkedMulU32,accepted.perLlc,accepted.total]
    simp only [validate,accepted.llcs.ne',accepted.cores.ne',accepted.threads.ne',accepted.nodes.ne',product,
      accepted.shape,attached,if_false,Bool.false_eq_true] at valid
    split at valid
    · cases valid
    · next equal => exact ⟨not_not.mp equal,valid⟩
  · intro ⟨accepted,measured⟩
    have product : ((checkedMulU32 topo.coresPerLlc topo.threadsPerCore).bind (checkedMulU32 topo.llcs)).isNone = false := by
      simp [checkedMulU32,accepted.perLlc,accepted.total]
    simp only [validate,accepted.llcs.ne',accepted.cores.ne',accepted.threads.ne',accepted.nodes.ne',product,
      accepted.shape,if_false,Bool.false_eq_true]
    cases attached : topo.distances with
    | none => rfl
    | some d =>
      obtain ⟨dimension,checked⟩ := measured d attached
      simp only [dimension,checked,ne_eq,not_true_eq_false,if_false]

namespace Accepted

variable {topo : Topology} (accepted : Accepted topo)
include accepted

theorem counted : topo.totalCpus = topo.llcs * topo.coresPerLlc * topo.threadsPerCore := by
  have total := accepted.total
  rw [← Nat.mul_assoc] at total
  have part := Nat.lt_of_le_of_lt (Nat.le_mul_of_pos_right _ accepted.threads) total
  rw [totalCpus,wrapU32,wrapU32,Nat.mod_eq_of_lt part,Nat.mod_eq_of_lt total]

theorem length_nodes (nodes : List NumaNode) (explicit : topo.nodes = some nodes) : nodes.length = topo.numaNodes := by
  have shape := accepted.shape
  rw [shapeError,explicit] at shape
  simp only [nodesError] at shape
  split at shape
  · cases shape
  · next equal => exact not_not.mp equal

end Accepted

theorem owningNode_lt (llcId start cumulative : Nat) (nodes : List NumaNode) (node : Nat)
    (owner : owningNode llcId start cumulative nodes = some node) : node < start + nodes.length := by
  induction nodes generalizing start cumulative with
  | nil => cases owner
  | cons first nodes ih =>
    simp only [owningNode] at owner
    rw [List.length_cons]
    split at owner
    · cases owner
      omega
    · have := ih _ _ owner
      omega

theorem owningNode_ge (llcId start cumulative : Nat) (nodes : List NumaNode) (node : Nat)
    (owner : owningNode llcId start cumulative nodes = some node) : start ≤ node := by
  induction nodes generalizing start cumulative with
  | nil => cases owner
  | cons first nodes ih =>
    simp only [owningNode] at owner
    split at owner
    · cases owner
      exact Nat.le_refl _
    · have := ih _ _ owner
      omega

theorem owningNode_le (first second : Nat) (ordered : first ≤ second) (start cumulative : Nat)
    (nodes : List NumaNode) (node : Nat) (owner : owningNode second start cumulative nodes = some node) :
    ∃ earlier ≤ node, owningNode first start cumulative nodes = some earlier := by
  induction nodes generalizing start cumulative with
  | nil => cases owner
  | cons head nodes ih =>
    simp only [owningNode] at owner ⊢
    by_cases below : first < wrapU32 (cumulative + head.llcs)
    · rw [if_pos below]
      refine ⟨start,?_,rfl⟩
      split at owner
      · cases owner
        exact Nat.le_refl _
      · have := owningNode_ge _ _ _ _ _ owner
        omega
    · rw [if_neg below]
      rw [if_neg (by omega)] at owner
      exact ih _ _ owner

theorem numaNodeOf_le {topo : Topology} {first second : Nat} (ordered : first ≤ second) :
    topo.numaNodeOf first ≤ topo.numaNodeOf second := by
  unfold numaNodeOf
  cases explicit : topo.nodes with
  | none => exact Nat.div_le_div_right ordered
  | some nodes =>
    cases owner : owningNode second 0 0 nodes with
    | some node =>
      obtain ⟨earlier,le,found⟩ := owningNode_le first second ordered 0 0 nodes node owner
      simpa [found,owner] using le
    | none =>
      cases found : owningNode first 0 0 nodes with
      | none => simp [found,owner]
      | some node =>
        have := owningNode_lt _ _ _ _ _ found
        simp only [found,owner,Option.getD_some,Option.getD_none]
        omega

end Ktstr.GuestShapes
