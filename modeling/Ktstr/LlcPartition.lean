import Mathlib.Algebra.BigOperators.Group.List.Lemmas
import Ktstr.GuestShapes

/-! The LLCs of a guest divided among its NUMA nodes: what validation accepts, what the panicking
constructors build, and the ranges that the accessors report. -/
namespace Ktstr.LlcPartition
open List Source.VmTopology GuestShapes Topology Option

inductive Constructed : Topology → Prop
  | new (numaNodes llcs coresPerLlc threadsPerCore : Fin u32Span) (topo : Topology)
      (built : Topology.new numaNodes llcs coresPerLlc threadsPerCore = .ok topo) : Constructed topo
  | withNodes (coresPerLlc threadsPerCore : Fin u32Span) (nodes : List NumaNode) (topo : Topology)
      (built : Topology.withNodes coresPerLlc threadsPerCore nodes = .ok topo) : Constructed topo
  | withDistances (topo : Topology) (fields distances : NumaDistance) (result : Topology)
      (base : Constructed topo) (matrix : NumaDistance.new fields = .ok distances)
      (built : topo.withDistances distances = .ok result) : Constructed result

def InRange (topo : Topology) (node llc : Nat) : Prop :=
  topo.firstLlcInNode node ≤ llc ∧ llc < topo.firstLlcInNode node + topo.llcsInNode node

/-- The ranges of the nodes tile the LLCs in order, and each LLC is found in its own. -/
structure Partitioned (topo : Topology) : Prop where
  counts : ((List.range topo.numaNodes).map topo.llcsInNode).sum = topo.llcs
  start : topo.firstLlcInNode 0 = 0
  next : ∀ node, node + 1 < topo.numaNodes →
    topo.firstLlcInNode (node + 1) = topo.firstLlcInNode node + topo.llcsInNode node
  within : ∀ node < topo.numaNodes, topo.firstLlcInNode node + topo.llcsInNode node ≤ topo.llcs
  owner : ∀ llc < topo.llcs, topo.numaNodeOf llc < topo.numaNodes ∧ InRange topo (topo.numaNodeOf llc) llc ∧
    ∀ node < topo.numaNodes, InRange topo node llc → node = topo.numaNodeOf llc

/-- In every build validation returns, accepts exact partitions only, and accepts what a constructor made. -/
structure Reliable (topo : Topology) : Prop where
  returns : ∀ overflowChecks, topo.validateIn overflowChecks ≠ none
  exact : ∀ overflowChecks, topo.validateIn overflowChecks = some (.ok ()) → Partitioned topo
  converse : Constructed topo → ∀ overflowChecks, topo.validateIn overflowChecks = some (.ok ())

/-- Explicit nodes that pass every check before the one on their LLCs, whose number does not fit 32 bits. -/
def Wraps (topo : Topology) : Prop :=
  0 < topo.llcs ∧ 0 < topo.coresPerLlc ∧ 0 < topo.threadsPerCore ∧ 0 < topo.numaNodes ∧
    topo.llcs * (topo.coresPerLlc * topo.threadsPerCore) < u32Span ∧
      ∃ nodes, topo.nodes = some nodes ∧ nodes.length = topo.numaNodes ∧ u32Span ≤ (nodes.map NumaNode.llcs).sum

section Ranges

variable {topo : Topology} {offset : Nat → Nat}
  (count : ∀ node < topo.numaNodes, offset (node + 1) = offset node + topo.llcsInNode node)
include count

theorem offset_le (first second : Nat) (ordered : first ≤ second) (inside : second ≤ topo.numaNodes) :
    offset first ≤ offset second := by
  induction second, ordered using Nat.le_induction with
  | base => exact Nat.le_refl _
  | succ second ordered ih =>
    have step := count second inside
    omega

theorem offset_sum (zero : offset 0 = 0) {node : Nat} (inside : node ≤ topo.numaNodes) :
    ((List.range node).map topo.llcsInNode).sum = offset node := by
  induction node with
  | zero => exact zero.symm
  | succ node ih => rw [sum_range_succ,ih (Nat.le_of_succ_le inside),count node inside]

theorem partitioned_of_offsets (zero : offset 0 = 0) (last : offset topo.numaNodes = topo.llcs)
    (nodes : 0 < topo.numaNodes) (first : ∀ node < topo.numaNodes, topo.firstLlcInNode node = offset node)
    (owner : ∀ llc < topo.llcs, ∃ node < topo.numaNodes, topo.numaNodeOf llc = node ∧ offset node ≤ llc ∧
      llc < offset (node + 1)) : Partitioned topo where
  counts := (offset_sum count zero (Nat.le_refl _)).trans last
  start := (first 0 nodes).trans zero
  next := by
    intro node inside
    rw [first _ inside,first _ (Nat.lt_of_succ_lt inside),count node (Nat.lt_of_succ_lt inside)]
  within := by
    intro node inside
    rw [first node inside,← count node inside,← last]
    exact offset_le count _ _ inside (Nat.le_refl _)
  owner := by
    intro llc known
    obtain ⟨own,inside,rfl,low,high⟩ := owner llc known
    refine ⟨inside,⟨?_,?_⟩,?_⟩
    · rw [first _ inside]
      exact low
    · rw [first _ inside,← count _ inside]
      exact high
    · intro node among range
      rw [InRange,first node among,← count node among] at range
      rcases Nat.lt_trichotomy node (topo.numaNodeOf llc) with earlier | same | later
      · have before := offset_le count (node + 1) _ earlier (Nat.le_of_lt inside)
        omega
      · exact same
      · have behind := offset_le count (topo.numaNodeOf llc + 1) node later (Nat.le_of_lt among)
        omega

end Ranges

variable (topo : Topology)

theorem partitioned_uniform (accepted : Accepted topo) (uniform : topo.nodes = none) : Partitioned topo := by
  have divides : topo.llcs % topo.numaNodes = 0 := by
    have shape := accepted.shape
    simp only [shapeError,uniform] at shape
    by_contra rest
    rw [if_pos rest] at shape
    cases shape
  have whole := Nat.mul_div_cancel' (Nat.dvd_of_mod_eq_zero divides)
  have positive : 0 < topo.llcs / topo.numaNodes := by
    apply Nat.pos_of_ne_zero
    intro none
    rw [none] at whole
    exact accepted.llcs.ne whole
  have own (node : Nat) : topo.llcsInNode node = topo.llcs / topo.numaNodes := by simp only [llcsInNode,uniform]
  apply @partitioned_of_offsets topo fun node => node * (topo.llcs / topo.numaNodes)
  · intro node _
    rw [own,Nat.succ_mul]
  · exact Nat.zero_mul _
  · exact whole
  · exact accepted.nodes
  · intro node inside
    simp only [firstLlcInNode,uniform]
    have below := (Nat.mul_le_mul_right _ (Nat.le_of_lt inside)).trans_eq whole
    exact Nat.mod_eq_of_lt (Nat.lt_of_le_of_lt below topo.llcs_u32)
  · intro llc known
    refine ⟨llc / (topo.llcs / topo.numaNodes),?_,?_,Nat.div_mul_le_self _ _,?_⟩
    · rw [Nat.div_lt_iff_lt_mul positive,whole]
      exact known
    · simp only [numaNodeOf,uniform]
    · exact Nat.lt_mul_of_div_lt (Nat.lt_succ_self _) positive

variable (nodes : List NumaNode)

theorem owningNode_spec (llc start cumulative : Nat) (low : cumulative ≤ llc)
    (high : llc < cumulative + (nodes.map NumaNode.llcs).sum)
    (fits : cumulative + (nodes.map NumaNode.llcs).sum < u32Span) :
    ∃ node < nodes.length, owningNode llc start cumulative nodes = some (start + node) ∧
      cumulative + ((nodes.take node).map NumaNode.llcs).sum ≤ llc ∧
        llc < cumulative + ((nodes.take (node + 1)).map NumaNode.llcs).sum := by
  induction nodes generalizing start cumulative with
  | nil =>
    rw [map_nil,sum_nil] at high
    omega
  | cons head nodes ih =>
    rw [map_cons,sum_cons,← Nat.add_assoc] at high fits
    have added : wrapU32 (cumulative + head.llcs) = cumulative + head.llcs := Nat.mod_eq_of_lt (by omega)
    rw [owningNode,added]
    by_cases here : llc < cumulative + head.llcs
    · refine ⟨0,Nat.succ_pos _,if_pos here,?_,?_⟩
      · simpa using low
      · simpa using here
    · obtain ⟨node,inside,found,below,above⟩ := ih (start + 1) (cumulative + head.llcs) (by omega) high fits
      refine ⟨node + 1,Nat.succ_lt_succ inside,?_,?_,?_⟩
      · rw [if_neg here,found]
        congr 1
        omega
      · rw [take_succ_cons,map_cons,sum_cons]
        omega
      · rw [take_succ_cons,map_cons,sum_cons]
        omega

theorem nodesError_none (fine : topo.nodesError nodes = none) :
    nodes.length = topo.numaNodes ∧ wrapU32 (nodes.map NumaNode.llcs).sum = topo.llcs := by
  simp only [nodesError] at fine
  split at fine
  · cases fine
  next length =>
  split at fine
  · cases fine
  next sum =>
  exact ⟨not_not.mp length,not_not.mp sum⟩

theorem partitioned_explicit (accepted : Accepted topo) (explicit : topo.nodes = some nodes)
    (fits : (nodes.map NumaNode.llcs).sum < u32Span) : Partitioned topo := by
  have shape := accepted.shape
  simp only [shapeError,explicit] at shape
  obtain ⟨length,sum⟩ := nodesError_none topo nodes shape
  rw [wrapU32,Nat.mod_eq_of_lt fits] at sum
  apply @partitioned_of_offsets topo fun node => ((nodes.take node).map NumaNode.llcs).sum
  · intro node inside
    rw [← length] at inside
    simp only [llcsInNode,explicit,getElem?_eq_getElem inside]
    rw [take_succ_eq_append_getElem inside,map_append]
    simp
  · rfl
  · simp only [← length,take_length]
    exact sum
  · exact accepted.nodes
  · intro node _
    simp only [firstLlcInNode,explicit]
    have part : ((nodes.take node).map NumaNode.llcs).sum ≤ (nodes.map NumaNode.llcs).sum := by
      rw [← take_append_drop node nodes,map_append,sum_append,take_append_drop]
      exact Nat.le_add_right _ _
    exact Nat.mod_eq_of_lt (Nat.lt_of_le_of_lt part fits)
  · intro llc known
    rw [← sum] at known
    obtain ⟨node,inside,found,low,high⟩ :=
      owningNode_spec nodes llc 0 0 (Nat.zero_le _) (by rw [Nat.zero_add]; exact known) (by rw [Nat.zero_add]; exact fits)
    rw [Nat.zero_add] at found low high
    refine ⟨node,by rw [← length]; exact inside,?_,low,high⟩
    simp only [numaNodeOf,explicit,found,getD_some]

theorem asserted_iff (condition : Bool) (message : String) (done : Unit) :
    asserted condition message = .ok done ↔ condition := by
  cases condition <;> simp [asserted]

theorem asserted_bind_iff {α : Type} {condition : Bool} {message : String} {rest : Unit → Except String α}
    {value : α} : (asserted condition message >>= rest) = .ok value ↔ condition ∧ rest () = .ok value := by
  cases condition
  · simp [asserted,bind,Except.bind]
  · simp [asserted,bind,Except.bind]

theorem forM_ok_iff {α : Type} {check : α → Except String Unit} {items : List α} :
    items.forM check = .ok () ↔ ∀ item ∈ items, check item = .ok () := by
  induction items with
  | nil => simp [pure,Except.pure]
  | cons item items ih =>
    rw [forall_mem_cons,← ih]
    change (check item >>= fun _ => items.forM check) = _ ↔ _
    cases check item with
    | error message => simp [bind,Except.bind]
    | ok done => simp [bind,Except.bind]

theorem entryError_of_assertEntry {matrix : NumaDistance} {i j : Nat}
    (checked : matrix.assertEntry i j = .ok ()) : matrix.entryError i j = none := by
  rw [NumaDistance.assertEntry] at checked
  rw [NumaDistance.entryError]
  by_cases diagonal : i = j
  · rw [if_pos diagonal,asserted_iff,beq_iff_eq] at checked
    simp [diagonal,← diagonal ▸ checked]
  · rw [if_neg diagonal,asserted_bind_iff,asserted_iff,decide_eq_true_iff,beq_iff_eq] at checked
    obtain ⟨far,symmetric⟩ := checked
    rw [symmetric] at far
    simp only [if_neg diagonal,symmetric,if_neg (Nat.not_le.mpr far),ne_eq,not_true_eq_false,if_false]

theorem new_valid {fields distances : NumaDistance} (built : NumaDistance.new fields = .ok distances) :
    distances.validate = .ok () := by
  rw [NumaDistance.new,asserted_bind_iff,asserted_bind_iff,decide_eq_true_iff,beq_iff_eq] at built
  obtain ⟨positive,length,rest⟩ := built
  cases scanned : (List.range fields.n).forM fun i => (List.range fields.n).forM (fields.assertEntry i) with
  | error message =>
    rw [scanned] at rest
    cases rest
  | ok done =>
    rw [scanned] at rest
    cases rest
    have clean : ((List.range fields.n).findSome? fun i => (List.range fields.n).findSome? (fields.entryError i)) = none := by
      rw [findSome?_eq_none_iff]
      intro i row
      rw [findSome?_eq_none_iff]
      intro j column
      have rows := forM_ok_iff.mp scanned i row
      exact entryError_of_assertEntry (forM_ok_iff.mp rows j column)
    simp only [NumaDistance.validate,positive.ne',length,clean,if_false,ne_eq,not_true_eq_false]

theorem assertProduct_iff {llcs coresPerLlc threadsPerCore : Nat} (positive : 0 < llcs) :
    ((checkedMulU32 coresPerLlc threadsPerCore).bind (checkedMulU32 llcs)).isSome ↔
      llcs * (coresPerLlc * threadsPerCore) < u32Span := by
  by_cases inner : coresPerLlc * threadsPerCore < u32Span
  · by_cases outer : llcs * (coresPerLlc * threadsPerCore) < u32Span
    · simp [checkedMulU32,inner]
    · simp [checkedMulU32,inner]
  · have large : ¬ llcs * (coresPerLlc * threadsPerCore) < u32Span := by
      intro fits
      exact inner (Nat.lt_of_le_of_lt (Nat.le_mul_of_pos_left _ positive) fits)
    simp [checkedMulU32,inner,large]

theorem perLlc_lt {llcs perLlc : Nat} (positive : 0 < llcs) (total : llcs * perLlc < u32Span) : perLlc < u32Span :=
  Nat.lt_of_le_of_lt (Nat.le_mul_of_pos_left _ positive) total

theorem foldlM_addNode (start llcs : Fin u32Span) (added : nodes.foldlM addNode start = .ok llcs) :
    llcs.val = start + (nodes.map NumaNode.llcs).sum ∧ ∀ node ∈ nodes, ¬ (node.llcs > 0 ∧ node.memoryMb = 0) := by
  induction nodes generalizing start with
  | nil =>
    cases added
    simp
  | cons node nodes ih =>
    rw [foldlM_cons,addNode] at added
    split at added
    · next fits =>
      cases first : asserted (!(node.llcs > 0 && node.memoryMb == 0)) "invalid Topology: CPU-bearing node has zero memory" with
      | error message =>
        rw [first] at added
        cases added
      | ok done =>
        rw [first] at added
        obtain ⟨sum,backed⟩ := ih ⟨start + node.llcs,fits⟩ added
        have memory := (asserted_iff _ _ _).mp first
        refine ⟨?_,forall_mem_cons.mpr ⟨?_,backed⟩⟩
        · rw [sum,map_cons,sum_cons,Nat.add_assoc]
        · intro ⟨bearing,bare⟩
          simp [bare,bearing.ne'] at memory
    · cases added

theorem nodesError_eq_none (length : nodes.length = topo.numaNodes)
    (sum : wrapU32 (nodes.map NumaNode.llcs).sum = topo.llcs)
    (backed : ∀ node ∈ nodes, ¬ (node.llcs > 0 ∧ node.memoryMb = 0)) : topo.nodesError nodes = none := by
  simp only [nodesError,length,sum,ne_eq,not_true_eq_false,if_false]
  rw [findSome?_eq_none_iff]
  intro entry member
  exact if_neg (backed entry.1 (fst_mem_of_mem_zipIdx member))

theorem new_accepted {numaNodes llcs coresPerLlc threadsPerCore : Fin u32Span} {topo : Topology}
    (built : new numaNodes llcs coresPerLlc threadsPerCore = .ok topo) :
    Accepted topo ∧ Measured topo ∧ topo.nodes = none := by
  rw [new,asserted_bind_iff,asserted_bind_iff,asserted_bind_iff,asserted_bind_iff,asserted_bind_iff,
    assertProduct,asserted_bind_iff] at built
  obtain ⟨llcsPos,coresPos,threadsPos,nodesPos,divides,product,result⟩ := built
  cases result
  rw [decide_eq_true_iff] at llcsPos coresPos threadsPos nodesPos
  have total := (assertProduct_iff llcsPos).mp product
  refine ⟨⟨llcsPos,coresPos,threadsPos,nodesPos,perLlc_lt llcsPos total,total,?_⟩,?_,rfl⟩
  · exact if_neg (not_not.mpr (beq_iff_eq.mp divides))
  · intro d attached
    cases attached

theorem withNodes_conditions {coresPerLlc threadsPerCore : Fin u32Span} {nodes : List NumaNode} {topo : Topology}
    (built : withNodes coresPerLlc threadsPerCore nodes = .ok topo) :
    topo.nodes = some nodes ∧ (nodes.map NumaNode.llcs).sum < u32Span ∧
      (nodes.length < u32Span → Accepted topo ∧ Measured topo) := by
  rw [withNodes,asserted_bind_iff,asserted_bind_iff,asserted_bind_iff] at built
  obtain ⟨some,coresPos,threadsPos,rest⟩ := built
  cases added : nodes.foldlM addNode ⟨0,zero_u32⟩ with
  | error message =>
    rw [added] at rest
    cases rest
  | ok llcs =>
    rw [added] at rest
    obtain ⟨sum,backed⟩ := foldlM_addNode nodes ⟨0,zero_u32⟩ llcs added
    rw [Nat.zero_add] at sum
    replace rest := asserted_bind_iff.mp rest
    obtain ⟨llcsPos,rest⟩ := rest
    replace rest := asserted_bind_iff.mp rest
    obtain ⟨product,result⟩ := rest
    cases result
    rw [decide_eq_true_iff] at llcsPos coresPos threadsPos
    have total := (assertProduct_iff llcsPos).mp product
    refine ⟨rfl,sum ▸ llcs.isLt,?_⟩
    intro short
    have counted : wrapU32 nodes.length = nodes.length := Nat.mod_eq_of_lt short
    refine ⟨⟨llcsPos,coresPos,threadsPos,?_,perLlc_lt llcsPos total,total,?_⟩,?_⟩
    · simp only [counted]
      apply length_pos_iff.mpr
      intro none
      rw [none] at some
      cases some
    · apply nodesError_eq_none _ _ counted.symm _ backed
      rw [← sum]
      exact Nat.mod_eq_of_lt llcs.isLt
    · intro d attached
      cases attached

theorem withDistances_conditions {distances : NumaDistance} {result : Topology}
    (built : topo.withDistances distances = .ok result) :
    distances.n = topo.numaNodes ∧ result = {topo with distances := some distances} := by
  rw [withDistances,asserted_bind_iff,beq_iff_eq] at built
  exact ⟨built.1,(Except.ok.inj built.2).symm⟩

theorem constructed_conditions (constructed : Constructed topo) :
    (∀ nodes, topo.nodes = some nodes → (nodes.map NumaNode.llcs).sum < u32Span) ∧
      ((∀ nodes, topo.nodes = some nodes → nodes.length < u32Span) → Accepted topo ∧ Measured topo) := by
  induction constructed with
  | new numaNodes llcs coresPerLlc threadsPerCore topo built =>
    obtain ⟨accepted,measured,uniform⟩ := new_accepted built
    refine ⟨?_,fun _ => ⟨accepted,measured⟩⟩
    intro nodes explicit
    rw [uniform] at explicit
    cases explicit
  | withNodes coresPerLlc threadsPerCore nodes topo built =>
    obtain ⟨explicit,sum,passes⟩ := withNodes_conditions built
    refine ⟨?_,fun short => passes (short nodes explicit)⟩
    intro others same
    rw [explicit] at same
    cases same
    exact sum
  | withDistances topo fields distances result base matrix built ih =>
    obtain ⟨dimension,rfl⟩ := withDistances_conditions topo built
    refine ⟨ih.1,?_⟩
    intro short
    have accepted := (ih.2 short).1
    refine ⟨⟨accepted.llcs,accepted.cores,accepted.threads,accepted.nodes,accepted.perLlc,accepted.total,
      accepted.shape⟩,?_⟩
    intro d attached
    cases attached
    exact ⟨dimension,new_valid matrix⟩

theorem sumPanics_iff : topo.sumPanics ↔ Wraps topo := by
  cases kind : topo.nodes with
  | none => simp [Topology.sumPanics,Wraps,kind]
  | some nodes =>
    simp only [Topology.sumPanics,kind,Bool.and_eq_true,bne_iff_ne,ne_eq,beq_iff_eq,Bool.not_eq_true',
      decide_eq_false_iff_not,Nat.not_lt,Wraps,Option.some.injEq,exists_eq_left',← Nat.pos_iff_ne_zero]
    constructor
    · intro ⟨⟨⟨⟨⟨⟨llcs,cores⟩,threads⟩,count⟩,product⟩,length⟩,sum⟩
      exact ⟨llcs,cores,threads,count,(assertProduct_iff llcs).mp product,length,sum⟩
    · intro ⟨llcs,cores,threads,count,total,length,sum⟩
      exact ⟨⟨⟨⟨⟨⟨llcs,cores⟩,threads⟩,count⟩,(assertProduct_iff llcs).mpr total⟩,length⟩,sum⟩

/-- Validation is reliable exactly where the node LLCs do not wrap and no constructor cut the length of the slice. -/
theorem validation_reliable_iff (topo : Topology) :
    Reliable topo ↔
      ¬ Wraps topo ∧ (Constructed topo → ∀ nodes, topo.nodes = some nodes → nodes.length < u32Span) := by
  rw [← sumPanics_iff]
  constructor
  · intro reliable
    refine ⟨?_,?_⟩
    · intro panics
      apply reliable.returns true
      rw [validateIn,panics]
      rfl
    · intro constructed nodes explicit
      have valid : topo.validate = .ok () := some.inj (reliable.converse constructed false)
      rw [(accepted_of_validate valid).length_nodes nodes explicit]
      exact topo.numaNodes_u32
  · intro ⟨returns,short⟩
    have same (overflowChecks : Bool) : topo.validateIn overflowChecks = some topo.validate := by
      rw [validateIn,Bool.eq_false_iff.mpr returns,Bool.and_false]
      rfl
    refine ⟨?_,?_,?_⟩
    · intro overflowChecks
      rw [same]
      exact some_ne_none _
    · intro overflowChecks passed
      rw [same] at passed
      have accepted := accepted_of_validate (some.inj passed)
      cases kind : topo.nodes with
      | none => exact partitioned_uniform topo accepted kind
      | some nodes =>
        apply partitioned_explicit topo nodes accepted kind
        by_contra wraps
        apply returns
        rw [sumPanics_iff]
        exact ⟨accepted.llcs,accepted.cores,accepted.threads,accepted.nodes,accepted.total,nodes,kind,
          accepted.length_nodes nodes kind,Nat.le_of_not_lt wraps⟩
    · intro constructed overflowChecks
      rw [same,validate_iff.mpr ((constructed_conditions topo constructed).2 (short constructed))]

theorem max_u32 : 4294967295 < u32Span := by decide

def wrapping : Topology where
  llcs := 1
  coresPerLlc := 1
  threadsPerCore := 1
  numaNodes := 2
  nodes := some [⟨4294967295,1,none,none,none,max_u32,one_u32⟩,⟨2,1,none,none,none,two_u32,one_u32⟩]

/-- 2^32 + 1 LLCs in two nodes pass for one LLC, or the sum of them panics. -/
theorem wrapped_sum_accepted :
    wrapping.validateIn false = some (.ok ()) ∧ ¬ Partitioned wrapping ∧ wrapping.validateIn true = none := by
  refine ⟨by decide,?_,by decide⟩
  intro partitioned
  have within := partitioned.within 0 (by decide)
  exact absurd within (by decide)

end Ktstr.LlcPartition
