import Mathlib.Algebra.Order.Ring.Int
import Mathlib.Data.List.Basic

/-! Topology of a VM, from `vmm/topology.rs`, with the APIC ids of `vmm/x86_64/topology.rs`.
The 32-bit fields carry their range; sums and products of them wrap. -/
namespace Ktstr.Source.VmTopology

def u32Span : Nat := 4294967296

-- the small counts that guests are written with
theorem zero_u32 : 0 < u32Span := by decide

theorem one_u32 : 1 < u32Span := by decide

theorem two_u32 : 2 < u32Span := by decide

theorem three_u32 : 3 < u32Span := by decide

theorem four_u32 : 4 < u32Span := by decide

def wrapU32 (value : Nat) : Nat := value % u32Span

def checkedMulU32 (first second : Nat) : Option Nat :=
  if first * second < u32Span then some (first * second) else none

structure MemSideCache where
  size : Nat
  associativity : Nat
  writePolicy : Nat
  lineSize : Nat
deriving DecidableEq

structure NumaNode where
  llcs : Nat
  memoryMb : Nat
  latencyNs : Option Nat := none
  bandwidthMbs : Option Nat := none
  memSideCache : Option MemSideCache := none
  llcs_u32 : llcs < u32Span := by first | exact one_u32 | exact two_u32 | exact three_u32 | exact four_u32 | decide
  memoryMb_u32 : memoryMb < u32Span := by first | exact one_u32 | exact two_u32 | exact three_u32 | exact four_u32 | decide
deriving DecidableEq

def NumaNode.isMemoryOnly (self : NumaNode) : Bool := self.llcs == 0

structure NumaDistance where
  n : Nat
  entries : List Nat
  entries_u8 : ∀ entry ∈ entries, entry < 256 := by decide
deriving DecidableEq

variable (self : NumaDistance) (i j : Nat)

def NumaDistance.at : Nat := self.entries.getD (i * self.n + j) 0

def NumaDistance.entryError : Option String :=
  let place := "[" ++ toString i ++ "][" ++ toString j ++ "]"
  let v := self.at i j
  let sym := self.at j i
  if i = j then
    if v ≠ 10 then some ("diagonal entry " ++ place ++ " is " ++ toString v ++ ", must be 10") else none
  else if v ≤ 10 then some ("off-diagonal entry " ++ place ++ " is " ++ toString v ++ ", must be > 10")
  else if v ≠ sym then
    some ("asymmetric: " ++ place ++ "=" ++ toString v ++ " != [" ++ toString j ++ "][" ++ toString i ++ "]=" ++
      toString sym)
  else none

def NumaDistance.validate : Except String Unit :=
  let expected := self.n * self.n
  if self.n = 0 then .error "n must be > 0"
  else if self.entries.length ≠ expected then
    .error ("entries.len() (" ++ toString self.entries.length ++ ") must equal n * n (" ++ toString expected ++ ")")
  else
    match (List.range self.n).findSome? fun i => (List.range self.n).findSome? (self.entryError i) with
    | some message => .error message
    | none => .ok ()

def asserted (condition : Bool) (message : String) : Except String Unit :=
  if condition then .ok () else .error message

/-- What `validate_entries` asserts of one entry. -/
def NumaDistance.assertEntry : Except String Unit :=
  if i = j then asserted (self.at i j == 10) "NumaDistance: diagonal entry must be 10"
  else do
    asserted (self.at i j > 10) "NumaDistance: off-diagonal entry must be > 10"
    asserted (self.at i j == self.at j i) "NumaDistance: matrix must be symmetric"

/-- `NumaDistance::new` on the fields of the value it returns. -/
def NumaDistance.new (fields : NumaDistance) : Except String NumaDistance := do
  asserted (fields.n > 0) "NumaDistance: n must be > 0"
  asserted (fields.entries.length == fields.n * fields.n) "NumaDistance: entries.len() must equal n * n"
  (List.range fields.n).forM fun i => (List.range fields.n).forM (fields.assertEntry i)
  return fields

structure Topology where
  llcs : Nat
  coresPerLlc : Nat
  threadsPerCore : Nat
  numaNodes : Nat
  nodes : Option (List NumaNode) := none
  distances : Option NumaDistance := none
  llcs_u32 : llcs < u32Span := by first | exact one_u32 | exact two_u32 | exact three_u32 | exact four_u32 | decide
  coresPerLlc_u32 : coresPerLlc < u32Span := by first | exact one_u32 | exact two_u32 | exact three_u32 | exact four_u32 | decide
  threadsPerCore_u32 : threadsPerCore < u32Span := by first | exact one_u32 | exact two_u32 | exact three_u32 | exact four_u32 | decide
  numaNodes_u32 : numaNodes < u32Span := by first | exact one_u32 | exact two_u32 | exact three_u32 | exact four_u32 | decide
deriving DecidableEq

namespace Topology

variable (self : Topology)

def nodesError (nodes : List NumaNode) : Option String :=
  let llcSum := wrapU32 (nodes.map NumaNode.llcs).sum
  if nodes.length ≠ self.numaNodes then
    some ("nodes.len() (" ++ toString nodes.length ++ ") must equal numa_nodes (" ++ toString self.numaNodes ++ ")")
  else if llcSum ≠ self.llcs then
    some ("sum of node LLCs (" ++ toString llcSum ++ ") must equal total llcs (" ++ toString self.llcs ++ ")")
  else
    nodes.zipIdx.findSome? fun entry =>
      if entry.1.llcs > 0 ∧ entry.1.memoryMb = 0 then
        some ("node " ++ toString entry.2 ++ " has " ++ toString entry.1.llcs ++ " LLCs but zero memory")
      else none

def shapeError : Option String :=
  match self.nodes with
  | none =>
    if self.llcs % self.numaNodes ≠ 0 then
      some ("llcs (" ++ toString self.llcs ++ ") must be divisible by numa_nodes (" ++ toString self.numaNodes ++ ")")
    else none
  | some nodes => self.nodesError nodes

def validate (self : Topology) : Except String Unit :=
  if self.llcs = 0 then .error "llcs must be > 0"
  else if self.coresPerLlc = 0 then .error "cores_per_llc must be > 0"
  else if self.threadsPerCore = 0 then .error "threads_per_core must be > 0"
  else if self.numaNodes = 0 then .error "numa_nodes must be > 0"
  else if ((checkedMulU32 self.coresPerLlc self.threadsPerCore).bind (checkedMulU32 self.llcs)).isNone then
    .error "total CPU count overflows u32"
  else
    match self.shapeError,self.distances with
    | some message,_ => .error message
    | none,none => .ok ()
    | none,some d =>
      if d.n ≠ self.numaNodes then
        .error ("NumaDistance dimension (" ++ toString d.n ++ ") must equal numa_nodes (" ++ toString self.numaNodes ++
          ")")
      else d.validate

/-- With overflow checks the sum of the node LLCs panics, where the checks before it pass. -/
def sumPanics : Bool :=
  match self.nodes with
  | none => false
  | some nodes =>
    self.llcs != 0 && self.coresPerLlc != 0 && self.threadsPerCore != 0 && self.numaNodes != 0 &&
      ((checkedMulU32 self.coresPerLlc self.threadsPerCore).bind (checkedMulU32 self.llcs)).isSome &&
      nodes.length == self.numaNodes && !decide ((nodes.map NumaNode.llcs).sum < u32Span)

/-- `validate` in a build with or without overflow checks; no result is a panic. -/
def validateIn (overflowChecks : Bool) (self : Topology) : Option (Except String Unit) :=
  if overflowChecks && self.sumPanics then none else some self.validate

def assertProduct (llcs coresPerLlc threadsPerCore : Nat) : Except String Unit :=
  asserted ((checkedMulU32 coresPerLlc threadsPerCore).bind (checkedMulU32 llcs)).isSome
    "invalid Topology: total CPU count overflows u32"

def new (numaNodes llcs coresPerLlc threadsPerCore : Fin u32Span) : Except String Topology := do
  asserted (llcs.val > 0) "invalid Topology: llcs must be > 0"
  asserted (coresPerLlc.val > 0) "invalid Topology: cores_per_llc must be > 0"
  asserted (threadsPerCore.val > 0) "invalid Topology: threads_per_core must be > 0"
  asserted (numaNodes.val > 0) "invalid Topology: numa_nodes must be > 0"
  asserted (llcs.val % numaNodes.val == 0) "invalid Topology: llcs must be divisible by numa_nodes"
  assertProduct llcs coresPerLlc threadsPerCore
  return ⟨llcs,coresPerLlc,threadsPerCore,numaNodes,none,none,llcs.isLt,coresPerLlc.isLt,threadsPerCore.isLt,
    numaNodes.isLt⟩

/-- One node of the loop in `with_nodes`. -/
def addNode (llcs : Fin u32Span) (node : NumaNode) : Except String (Fin u32Span) :=
  if fits : llcs + node.llcs < u32Span then do
    asserted (!(node.llcs > 0 && node.memoryMb == 0)) "invalid Topology: CPU-bearing node has zero memory"
    return ⟨llcs + node.llcs,fits⟩
  else .error "invalid Topology: node LLC sum overflows u32"

def withNodes (coresPerLlc threadsPerCore : Fin u32Span) (nodes : List NumaNode) : Except String Topology := do
  asserted (!nodes.isEmpty) "invalid Topology: nodes must not be empty"
  asserted (coresPerLlc.val > 0) "invalid Topology: cores_per_llc must be > 0"
  asserted (threadsPerCore.val > 0) "invalid Topology: threads_per_core must be > 0"
  let llcs ← nodes.foldlM addNode ⟨0,zero_u32⟩
  asserted (llcs.val > 0) "invalid Topology: total LLCs must be > 0"
  assertProduct llcs coresPerLlc threadsPerCore
  return ⟨llcs,coresPerLlc,threadsPerCore,wrapU32 nodes.length,some nodes,none,llcs.isLt,coresPerLlc.isLt,
    threadsPerCore.isLt,Nat.mod_lt _ zero_u32⟩

def withDistances (distances : NumaDistance) : Except String Topology := do
  asserted (distances.n == self.numaNodes) "invalid Topology: NumaDistance dimension must equal numa_nodes"
  return {self with distances := some distances}

def totalCpus : Nat := wrapU32 (wrapU32 (self.llcs * self.coresPerLlc) * self.threadsPerCore)

def llcsInNode (nodeId : Nat) : Nat :=
  match self.nodes with
  | some nodes => ((nodes[nodeId]?).map NumaNode.llcs).getD 0
  | none => self.llcs / self.numaNodes

/-- The first node whose LLCs, counted from the start, go beyond the given one. -/
def owningNode (llcId : Nat) : Nat → Nat → List NumaNode → Option Nat
  | _,_,[] => none
  | i,cumulative,node::nodes =>
    let cumulative := wrapU32 (cumulative + node.llcs)
    if llcId < cumulative then some i else owningNode llcId (i + 1) cumulative nodes

def numaNodeOf (llcId : Nat) : Nat :=
  match self.nodes with
  | some nodes => (owningNode llcId 0 0 nodes).getD (nodes.length - 1)
  | none => llcId / (self.llcs / self.numaNodes)

def firstLlcInNode (nodeId : Nat) : Nat :=
  match self.nodes with
  | some nodes => wrapU32 ((nodes.take nodeId).map NumaNode.llcs).sum
  | none => wrapU32 (nodeId * (self.llcs / self.numaNodes))

def distance (i j : Nat) : Nat :=
  match self.distances with
  | some d => d.at i j
  | none => if i = j then 10 else 20

def cpuBearingNodes : Nat :=
  match self.nodes with
  | some nodes => (nodes.filter fun node => !node.isMemoryOnly).length
  | none => self.numaNodes

def decompose (cpuId : Nat) : Nat × Nat × Nat :=
  (cpuId / wrapU32 (self.threadsPerCore * self.coresPerLlc),cpuId / self.threadsPerCore % self.coresPerLlc,
    cpuId % self.threadsPerCore)

def text : String :=
  toString self.numaNodes ++ "n" ++ toString self.llcs ++ "l" ++ toString self.coresPerLlc ++ "c" ++
    toString self.threadsPerCore ++ "t"

end Topology

/-- Least width in which all numbers below `n` can be written. -/
def bitsNeeded (n : Nat) : Nat := if n ≤ 1 then 0 else Nat.log2 (n - 1) + 1

def shlU32 (value amount : Nat) : Nat := wrapU32 (value <<< (amount % 32))

def apicId (topo : Topology) (cpuId : Nat) : Nat :=
  let (llcId,coreId,threadId) := topo.decompose cpuId
  let threadBits := bitsNeeded topo.threadsPerCore
  let coreBits := bitsNeeded topo.coresPerLlc
  shlU32 llcId (coreBits + threadBits) ||| shlU32 coreId threadBits ||| threadId

end Ktstr.Source.VmTopology
