import Ktstr.CpuListText
import Ktstr.Source.Scenario

/-! What a dropped guard leaves behind, and what an exchange of cpusets exchanges. -/
namespace Ktstr.ScenarioCgroups
open List Source.CpuLists Source.Scenario CpuListText CgroupGroup
open Library.Fallible (bind_ok)
open Library.Words (wordSpan)
open Library.Text (trim trim_trimEnd trimEnd_append_spaces)

variable {ε : Type}

/-- A call on the guard, with what its operations return. -/
inductive Call (ε : Type)
  | addCgroup (outcomes : Outcomes ε) (name : String) (cpuset : Finset Nat)
  | addCgroupNoCpuset (create : Except ε Unit) (name : String)

namespace Call

def run : Call ε → CgroupGroup ε → Except ε Unit × CgroupGroup ε
  | .addCgroup outcomes name cpuset => Source.Scenario.addCgroup outcomes name cpuset
  | .addCgroupNoCpuset create name => Source.Scenario.addCgroupNoCpuset create name

def name : Call ε → String
  | .addCgroup _ name _ => name
  | .addCgroupNoCpuset _ name => name

def creates : Call ε → Bool
  | .addCgroup outcomes _ _ => outcomes.setup.isOk && outcomes.create.isOk
  | .addCgroupNoCpuset create _ => create.isOk

/-- The cpuset of a created cgroup is refused. -/
def refused : Call ε → Bool
  | .addCgroup outcomes _ _ => !outcomes.setCpuset.isOk
  | .addCgroupNoCpuset _ _ => false

end Call

/-- The guard after the calls, each made whatever the ones before returned. -/
def guarded (calls : List (Call ε)) : CgroupGroup ε := calls.foldl (fun group call => (call.run group).2) {}

def created (group : CgroupGroup ε) : List String :=
  group.log.filterMap fun
    | (.createCgroup name,.ok _) => some name
    | _ => none

def removed (group : CgroupGroup ε) : List String :=
  group.log.filterMap fun
    | (.removeCgroup name,_) => some name
    | _ => none

/-- Every created cgroup is removed, the later ones first, and nothing else is. -/
def Cleaned (group : CgroupGroup ε) : Prop :=
  (∀ name ∈ created group, name ∈ removed group) ∧ removed group <+ (created group).reverse

/-- The effects of one call: what is tracked, created and removed. -/
theorem run_effects {call : Call ε} {group : CgroupGroup ε} :
    (call.run group).2.names = group.names ++ (if call.creates && !call.refused then [call.name] else []) ∧
      created (call.run group).2 = created group ++ (if call.creates then [call.name] else []) ∧
      removed (call.run group).2 = removed group := by
  cases call with
  | addCgroup outcomes name cpuset =>
    obtain ⟨setup,create,setCpuset⟩ := outcomes
    cases setup <;> cases create <;> cases setCpuset <;>
      simp [Call.run,Source.Scenario.addCgroup,attempt,append,push,created,removed,Call.creates,
        Call.refused,Call.name,Except.isOk,Except.toBool]
  | addCgroupNoCpuset create name =>
    cases create <;>
      simp [Call.run,Source.Scenario.addCgroupNoCpuset,attempt,append,push,created,removed,
        Call.creates,Call.refused,Call.name,Except.isOk,Except.toBool]

theorem guarded_effects {calls : List (Call ε)} :
    (guarded calls).names = (calls.filter fun call => call.creates && !call.refused).map Call.name ∧
      created (guarded calls) = (calls.filter Call.creates).map Call.name ∧ removed (guarded calls) = [] := by
  induction calls using reverseRecOn with
  | nil => exact ⟨rfl,rfl,rfl⟩
  | append_singleton calls call ih =>
    obtain ⟨names,creations,removals⟩ := run_effects
    rw [guarded,foldl_append]
    change (call.run (guarded calls)).2.names = _ ∧ created (call.run (guarded calls)).2 = _ ∧
      removed (call.run (guarded calls)).2 = _
    rw [names,creations,removals,ih.1,ih.2.1,ih.2.2,filter_append,filter_append,map_append,map_append,filter_singleton,
      filter_singleton]
    refine ⟨congrArg _ ?_,congrArg _ ?_,rfl⟩
    · cases call.creates && !call.refused <;> rfl
    · cases call.creates <;> rfl

theorem dropped_effects {removal : String → Except ε Unit} {group : CgroupGroup ε} :
    created (group.drop removal) = created group ∧ removed (group.drop removal) = removed group ++ group.names.reverse := by
  have all (names : List String) (group : CgroupGroup ε) :
      let dropped := names.foldl (fun group name => group.append (.removeCgroup name) (removal name)) group
      created dropped = created group ∧ removed dropped = removed group ++ names := by
    induction names generalizing group with
    | nil => exact ⟨rfl,(append_nil _).symm⟩
    | cons name names ih =>
      obtain ⟨creations,removals⟩ := ih (group.append (.removeCgroup name) (removal name))
      refine ⟨creations.trans ?_,removals.trans ?_⟩
      · simp [created,append]
      · simp [removed,append]
  exact all group.names.reverse group

/-- A cgroup is left behind exactly when only calls whose cpuset was refused created it. -/
theorem guard_cleans_iff (calls : List (Call ε)) (removal : String → Except ε Unit) :
    Cleaned ((guarded calls).drop removal) ↔
      ∀ call ∈ calls, call.creates = true → call.refused = true →
        ∃ other ∈ calls, other.name = call.name ∧ other.creates = true ∧ other.refused = false := by
  obtain ⟨names,creations,removals⟩ := guarded_effects
  obtain ⟨kept,dropped⟩ := dropped_effects
  rw [Cleaned,kept,dropped,creations,removals,names]
  constructor
  · rintro ⟨all,_⟩ call member makes refuses
    obtain ⟨other,tracked,same⟩ := mem_map.mp (mem_reverse.mp (all call.name (mem_map_of_mem (mem_filter.mpr ⟨member,makes⟩))))
    obtain ⟨listed,recorded⟩ := mem_filter.mp tracked
    rw [Bool.and_eq_true,Bool.not_eq_true'] at recorded
    exact ⟨other,listed,same,recorded⟩
  · intro others
    refine ⟨?_,?_⟩
    · intro name member
      obtain ⟨call,made,rfl⟩ := mem_map.mp member
      obtain ⟨listed,makes⟩ := mem_filter.mp made
      cases refuses : call.refused with
      | false =>
        apply mem_reverse.mpr (mem_map_of_mem (mem_filter.mpr ⟨listed,_⟩))
        rw [makes,refuses]
        rfl
      | true =>
        obtain ⟨other,listed,same,recorded⟩ := others call listed makes refuses
        rw [← same]
        apply mem_reverse.mpr (mem_map_of_mem (mem_filter.mpr ⟨listed,_⟩))
        rw [recorded.1,recorded.2]
        rfl
    · apply reverse_sublist.mpr (Sublist.map _ (monotone_filter_right calls _))
      intro call recorded
      exact (Bool.and_eq_true _ _ ▸ recorded).1

/-- A cgroup whose cpuset is refused is never removed. -/
theorem refused_cpuset_leaks :
    ¬ Cleaned ((guarded [Call.addCgroup ⟨.ok (),.ok (),.error ()⟩ "cg_0" {0}]).drop fun _ => .ok ()) := by
  intro cleaned
  cases cleaned.1 "cg_0" (by decide)

/-! Exchanged cpusets -/

theorem trimmed_line (text : String) : trimmed (text ++ "\n") = trimmed text := by
  rw [trimmed,String.toList_append,← trim_trimEnd,trimEnd_append_spaces,trim_trimEnd,trimmed]
  intro c member
  obtain rfl := mem_singleton.mp member
  decide

/-- A cpuset is read as it stands in the file, and an empty one not at all. -/
theorem readCpuset_eq {fs : CgroupFs} {name : String} {cpus : Finset Nat} (file : fs name = some cpus)
    (small : ∀ cpu ∈ cpus, cpu < wordSpan) : readCpuset fs name = if cpus = ∅ then none else some cpus := by
  rw [readCpuset,file,Option.bind_eq_bind,Option.bind_some,trimmed_line]
  by_cases empty : cpus = ∅
  · have blank : trimmed (cpusetString ∅) = "" := by
      rw [cpusetString,Finset.sort_empty]
      rfl
    rw [empty,blank]
    rfl
  · have filled := Finset.nonempty_iff_ne_empty.mpr empty
    obtain ⟨runs,some,_,_,whole,pieces⟩ := cpusetString_runs filled
    have shown : ¬ (cpusetString cpus).isEmpty := by
      intro none
      rw [String.isEmpty_iff.mp none] at pieces
      exact some (map_eq_nil_iff.mp pieces.symm)
    rw [whole,if_neg shown,if_neg empty,lenient_of_strict (parseCpuList_printed filled small),Finset.sort_toFinset]

theorem lookup_record {state : ScenarioState} {cgroup : String} {cpus : Finset Nat} :
    (state.recordCpuset cgroup cpus).lookupCpuset = Function.update state.lookupCpuset cgroup (some cpus) := by
  ext1 name
  obtain rfl | other := eq_or_ne name cgroup
  · rw [Function.update_self]
    cases step : state.step name <;> cases backdrop : state.backdrop name <;> cases target : state.targetBackdrop <;>
      simp [ScenarioState.recordCpuset,ScenarioState.lookupCpuset,step,backdrop,target]
  · rw [ScenarioState.recordCpuset]
    split_ifs <;> simp [ScenarioState.lookupCpuset,Function.update_of_ne other]

section
variable {accepts : String → Finset Nat → Except ε Unit} {a b target : String} {before after : World}

theorem transfer_effects {cpus : Option (Finset Nat)} (done : transfer accepts target cpus before = .ok after) :
    (∀ name, after.fs name = if name = target then cpus.or (before.fs name) else before.fs name) ∧
      ∀ name, after.state.lookupCpuset name =
        if name = target then cpus.or (before.state.lookupCpuset name) else before.state.lookupCpuset name := by
  cases cpus with
  | none =>
    cases done
    exact ⟨fun name => (ite_self _).symm,fun name => (ite_self _).symm⟩
  | some cpus =>
    obtain ⟨_,_,stored⟩ := bind_ok _ _ _ done
    cases stored
    refine ⟨fun name => Function.update_apply _ _ _ _,?_⟩
    intro name
    exact (congrFun lookup_record name).trans (Function.update_apply _ _ _ _)

variable {cpusA cpusB : Finset Nat} (distinct : a ≠ b) (fileA : before.fs a = some cpusA)
  (fileB : before.fs b = some cpusB) (smallA : ∀ cpu ∈ cpusA, cpu < wordSpan) (smallB : ∀ cpu ∈ cpusB, cpu < wordSpan)
  (done : swapCpusets accepts a b before = .ok after)
include distinct fileA fileB smallA smallB done

theorem swap_known :
    (after.fs a = some (if cpusB = ∅ then cpusA else cpusB) ∧ after.fs b = some (if cpusA = ∅ then cpusB else cpusA)) ∧
      after.state.lookupCpuset a = (if cpusB = ∅ then before.state.lookupCpuset a else some cpusB) ∧
      after.state.lookupCpuset b = if cpusA = ∅ then before.state.lookupCpuset b else some cpusA := by
  obtain ⟨middle,first,second⟩ := bind_ok _ _ _ done
  obtain ⟨firstFiles,firstRecords⟩ := transfer_effects first
  obtain ⟨files,records⟩ := transfer_effects second
  rw [readCpuset_eq fileA smallA] at firstFiles firstRecords
  rw [readCpuset_eq fileB smallB] at files records
  by_cases emptyA : cpusA = ∅ <;> by_cases emptyB : cpusB = ∅ <;>
    simp [files,records,firstFiles,firstRecords,distinct,distinct.symm,fileA,fileB,emptyA,emptyB]

/-- `x` has afterwards what `y` had before, in its file and on record. -/
def Has (x y : String) (before after : World) : Prop :=
  after.fs x = before.fs y ∧ after.state.lookupCpuset x = before.state.lookupCpuset y

/-- An exchange is one exactly when no cpuset is empty and both are on record, or both are empty and as much is on
record for one as for the other. -/
theorem swap_exchanges_iff :
    ((Has a b before after ∧ Has b a before after) ∧
        ∀ twice, swapCpusets accepts a b after = .ok twice → Has a a before twice ∧ Has b b before twice) ↔
      (cpusA ≠ ∅ ∧ cpusB ≠ ∅ ∧ before.state.lookupCpuset a = some cpusA ∧ before.state.lookupCpuset b = some cpusB) ∨
        (cpusA = ∅ ∧ cpusB = ∅ ∧ before.state.lookupCpuset a = before.state.lookupCpuset b) := by
  obtain ⟨⟨newA,newB⟩,recordA,recordB⟩ := swap_known distinct fileA fileB smallA smallB done
  constructor
  · rintro ⟨⟨⟨movedB,notedB⟩,movedA,notedA⟩,_⟩
    rw [newA,fileB,Option.some_inj] at movedB
    rw [newB,fileA,Option.some_inj] at movedA
    rw [recordA] at notedB
    rw [recordB] at notedA
    by_cases emptyA : cpusA = ∅
    · rw [if_pos emptyA] at movedA
      have emptyB := movedA.trans emptyA
      rw [if_pos emptyB] at notedB
      exact .inr ⟨emptyA,emptyB,notedB⟩
    · by_cases emptyB : cpusB = ∅
      · rw [if_pos emptyB] at movedB
        exact absurd (movedB.trans emptyB) emptyA
      · rw [if_neg emptyB] at notedB
        rw [if_neg emptyA] at notedA
        exact .inl ⟨emptyA,emptyB,notedA.symm,notedB.symm⟩
  · rintro (⟨fullA,fullB,notedA,notedB⟩ | ⟨rfl,rfl,same⟩)
    · rw [if_neg fullB] at newA recordA
      rw [if_neg fullA] at newB recordB
      refine ⟨⟨⟨newA.trans fileB.symm,recordA.trans notedB.symm⟩,newB.trans fileA.symm,recordB.trans notedA.symm⟩,?_⟩
      intro twice again
      obtain ⟨⟨oldA,oldB⟩,againA,againB⟩ := swap_known distinct newA newB smallB smallA again
      rw [if_neg fullA] at oldA againA
      rw [if_neg fullB] at oldB againB
      exact ⟨⟨oldA.trans fileA.symm,againA.trans notedA.symm⟩,oldB.trans fileB.symm,againB.trans notedB.symm⟩
    · rw [if_pos rfl] at newA newB recordA recordB
      refine ⟨⟨⟨newA.trans fileB.symm,recordA.trans same⟩,newB.trans fileA.symm,recordB.trans same.symm⟩,?_⟩
      intro twice again
      obtain ⟨⟨oldA,oldB⟩,againA,againB⟩ := swap_known distinct newA newB smallB smallA again
      exact ⟨⟨oldA.trans fileA.symm,againA.trans recordA⟩,oldB.trans fileB.symm,againB.trans recordB⟩

end

/-- The cpuset of `cg_0` is `0`, and that of `cg_1` is the given one. -/
def pair (other : Finset Nat) : World :=
  let fs := fun name => if name = "cg_0" then some {0} else some other
  ⟨fs,⟨fun name => (fs name).filter (· ≠ ∅),fun _ => none,false⟩⟩

def accepted (_ : String) (_ : Finset Nat) : Except Unit Unit := .ok ()

theorem swap_accepted (a b : String) (before : World) : ∃ after, swapCpusets accepted a b before = .ok after := by
  have moved (target : String) (cpus : Option (Finset Nat)) (before : World) :
      ∃ after, transfer accepted target cpus before = .ok after := by
    cases cpus <;> exact ⟨_,rfl⟩
  obtain ⟨middle,first⟩ := moved b (readCpuset before.fs a) before
  rw [swapCpusets,first]
  exact moved a (readCpuset before.fs b) middle

/-- Two cpusets on record are exchanged. -/
theorem recorded_pair_exchanged :
    ∃ after, swapCpusets accepted "cg_0" "cg_1" (pair {1}) = .ok after ∧
      Has "cg_0" "cg_1" (pair {1}) after ∧ Has "cg_1" "cg_0" (pair {1}) after := by
  obtain ⟨after,done⟩ := swap_accepted "cg_0" "cg_1" (pair {1})
  refine ⟨after,done,((swap_exchanges_iff (by decide) rfl rfl (by decide) (by decide) done).mpr ?_).1⟩
  exact .inl ⟨by decide,by decide,by decide,by decide⟩

/-- A cgroup that inherits its CPUs is given a cpuset, and the other one keeps its own. -/
theorem inherited_cpuset_not_exchanged :
    ∃ after, swapCpusets accepted "cg_0" "cg_1" (pair ∅) = .ok after ∧ ¬ Has "cg_0" "cg_1" (pair ∅) after := by
  obtain ⟨after,done⟩ := swap_accepted "cg_0" "cg_1" (pair ∅)
  refine ⟨after,done,?_⟩
  intro has
  have kept := (swap_known (by decide) rfl rfl (by decide) (by decide) done).1.1
  rw [has.1] at kept
  exact absurd kept (by decide)

end Ktstr.ScenarioCgroups
