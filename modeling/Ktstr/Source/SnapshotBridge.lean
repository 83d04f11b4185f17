import Mathlib.Data.List.Basic

/-! The snapshot bridge of `scenario/snapshot.rs`. `repaired` is set where a branch for maps that are out of step is
taken; nothing reads it. -/
namespace Ktstr.Source.SnapshotBridge
open Std

def maxStoredSnapshots : Nat := 64

structure SnapshotStore (R S : Type) where
  reports : ExtTreeMap String R := ∅
  order : List String := []
  stats : ExtTreeMap String S := ∅
  elapsedMs : ExtTreeMap String UInt64 := ∅
  repaired : Bool := false

structure Capture (R S : Type) where
  tag : String
  report : R
  stats : Option S
  elapsedMs : Option UInt64

variable {R S V : Type}

def replaceValue (values : ExtTreeMap String V) (name : String) : Option V → ExtTreeMap String V
  | some value => values.insert name value
  | none => values.erase name

def addValue (values : ExtTreeMap String V) (name : String) : Option V → ExtTreeMap String V
  | some value => values.insert name value
  | none => values

variable (store : SnapshotStore R S)

def removeTag (tag : String) : SnapshotStore R S :=
  {store with
    reports := store.reports.erase tag,stats := store.stats.erase tag,elapsedMs := store.elapsedMs.erase tag}

/-- The eviction loop, with what is left of the order beside the store. -/
def evictOldest : List String → SnapshotStore R S → SnapshotStore R S
  | [],store =>
    if store.reports.size > maxStoredSnapshots then {repaired := true} else {store with order := []}
  | evicted::order,store =>
    if store.reports.size > maxStoredSnapshots then evictOldest order (removeTag store evicted)
    else {store with order := evicted::order}

def storeInternal (name : String) (report : R) (stats : Option S) (elapsedMs : Option UInt64) : SnapshotStore R S :=
  let reports := store.reports.insert name report
  if name ∈ store.reports then
    {store with
      reports := reports,order := store.order.erase name ++ [name],
      stats := replaceValue store.stats name stats,elapsedMs := replaceValue store.elapsedMs name elapsedMs}
  else
    evictOldest (store.order ++ [name])
      {store with
        reports := reports,stats := addValue store.stats name stats,
        elapsedMs := addValue store.elapsedMs name elapsedMs}

/-- The loop of both ordered drains: `take` removes a tag from the maps. -/
def takeOrdered {M T : Type} (take : M → String → Option T × M) : List String → M → List T × M
  | [],maps => ([],maps)
  | tag::order,maps =>
    let (taken,maps) := take maps tag
    let (out,maps) := takeOrdered take order maps
    (taken.toList ++ out,maps)

def takeReport (reports : ExtTreeMap String R) (tag : String) : Option (String × R) × ExtTreeMap String R :=
  (reports[tag]?.map (Prod.mk tag),reports.erase tag)

def takeCapture (tag : String) : Option (Capture R S) × SnapshotStore R S :=
  match store.reports[tag]? with
  | some report => (some ⟨tag,report,store.stats[tag]?,store.elapsedMs[tag]?⟩,removeTag store tag)
  | none => (none,store)

/-- The drained bridge, and whether reports were left that no tag of the order names. -/
def drained (left : ExtTreeMap String R) : SnapshotStore R S := {repaired := store.repaired || !left.isEmpty}

def drain : ExtTreeMap String R × SnapshotStore R S := (store.reports,{repaired := store.repaired})

def drainOrdered : List (String × R) × SnapshotStore R S :=
  let (out,left) := takeOrdered takeReport store.order store.reports
  (out ++ left.toList,drained store left)

def drainOrderedWithStats : List (Capture R S) × SnapshotStore R S :=
  let (out,left) := takeOrdered takeCapture store.order store
  let rest := left.reports.toList.map fun (tag,report) => ⟨tag,report,left.stats[tag]?,left.elapsedMs[tag]?⟩
  (out ++ rest,drained store left.reports)

inductive Call (R S : Type)
  | store (name : String) (report : R)
  | storeWithStats (name : String) (report : R) (stats : Option S) (elapsedMs : Option UInt64)
  | drain
  | drainOrdered
  | drainOrderedWithStats

def step : Call R S → SnapshotStore R S
  | .store name report => storeInternal store name report none none
  | .storeWithStats name report stats elapsedMs => storeInternal store name report stats elapsedMs
  | .drain => (drain store).2
  | .drainOrdered => (drainOrdered store).2
  | .drainOrderedWithStats => (drainOrderedWithStats store).2

end Ktstr.Source.SnapshotBridge
