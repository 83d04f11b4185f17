import Ktstr.Source.CpuLists

/-! Cgroups of a scenario: the guard of `scenario/mod.rs` and the exchange of two cpusets in `scenario/ops/mod.rs`.
What an operation on the cgroup file system returns is given. -/
namespace Ktstr.Source.Scenario
open CpuLists

inductive Controller
  | cpuset
deriving DecidableEq

inductive CgroupOp
  | setup (required : List Controller)
  | createCgroup (name : String)
  | setCpuset (name : String) (cpus : Finset Nat)
  | removeCgroup (name : String)
deriving DecidableEq

/-- The tracked names, with the operations made so far and what they returned. -/
structure CgroupGroup (ε : Type) where
  names : List String := []
  log : List (CgroupOp × Except ε Unit) := []

variable {ε : Type}

def CgroupGroup.append (group : CgroupGroup ε) (op : CgroupOp) (outcome : Except ε Unit) : CgroupGroup ε :=
  { group with log := group.log ++ [(op,outcome)] }

def CgroupGroup.push (group : CgroupGroup ε) (name : String) : CgroupGroup ε := { group with names := group.names ++ [name] }

/-- An operation whose error is returned at once. -/
def attempt (op : CgroupOp) (outcome : Except ε Unit) (group : CgroupGroup ε)
    (next : CgroupGroup ε → Except ε Unit × CgroupGroup ε) : Except ε Unit × CgroupGroup ε :=
  match outcome with
  | .ok _ => next (group.append op outcome)
  | .error _ => (outcome,group.append op outcome)

structure Outcomes (ε : Type) where
  setup : Except ε Unit
  create : Except ε Unit
  setCpuset : Except ε Unit

def addCgroup (outcomes : Outcomes ε) (name : String) (cpuset : Finset Nat) (group : CgroupGroup ε) :
    Except ε Unit × CgroupGroup ε :=
  attempt (.setup [.cpuset]) outcomes.setup group fun group =>
    attempt (.createCgroup name) outcomes.create group fun group =>
      attempt (.setCpuset name cpuset) outcomes.setCpuset group fun group => (.ok (),group.push name)

def addCgroupNoCpuset (create : Except ε Unit) (name : String) (group : CgroupGroup ε) : Except ε Unit × CgroupGroup ε :=
  attempt (.createCgroup name) create group fun group => (.ok (),group.push name)

/-- `drop`: a removal that fails is at most logged. -/
def CgroupGroup.drop (removal : String → Except ε Unit) (group : CgroupGroup ε) : CgroupGroup ε :=
  group.names.reverse.foldl (fun group name => group.append (.removeCgroup name) (removal name)) group

/-- The CPUs in the `cpuset.cpus` of each cgroup that has a readable one. -/
abbrev CgroupFs := String → Option (Finset Nat)

structure ScenarioState where
  step : String → Option (Finset Nat)
  backdrop : String → Option (Finset Nat)
  targetBackdrop : Bool

def ScenarioState.lookupCpuset (state : ScenarioState) (name : String) : Option (Finset Nat) :=
  (state.step name).or (state.backdrop name)

def ScenarioState.recordCpuset (state : ScenarioState) (cgroup : String) (cpuset : Finset Nat) : ScenarioState :=
  let inStep := { state with step := Function.update state.step cgroup (some cpuset) }
  let inBackdrop := { state with backdrop := Function.update state.backdrop cgroup (some cpuset) }
  if (state.step cgroup).isSome then inStep
  else if (state.backdrop cgroup).isSome then inBackdrop
  else if state.targetBackdrop then inBackdrop
  else inStep

structure World where
  fs : CgroupFs
  state : ScenarioState

/-- The kernel prints a cpuset as one line. -/
def readCpuset (fs : CgroupFs) (name : String) : Option (Finset Nat) := do
  let content := trimmed (cpusetString (← fs name) ++ "\n")
  if content.isEmpty then none else some (parseCpuListLenient content).toFinset

def transfer (accepts : String → Finset Nat → Except ε Unit) (target : String) (cpus : Option (Finset Nat))
    (world : World) : Except ε World :=
  match cpus with
  | some cpus => do
    accepts target cpus
    return ⟨Function.update world.fs target (some cpus),world.state.recordCpuset target cpus⟩
  | none => .ok world

/-- `Op::SwapCpusets` -/
def swapCpusets (accepts : String → Finset Nat → Except ε Unit) (a b : String) (world : World) : Except ε World := do
  transfer accepts a (readCpuset world.fs b) (← transfer accepts b (readCpuset world.fs a) world)

end Ktstr.Source.Scenario
