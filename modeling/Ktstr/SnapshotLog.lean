import Ktstr.Library.Latest
import Ktstr.Library.Runs
import Ktstr.Source.SnapshotBridge

/-! The snapshot bridge is a bounded log of the latest capture under each tag. -/
namespace Ktstr.SnapshotLog
open List Std Library.Latest Library.Runs Source.SnapshotBridge

variable {R S : Type}

/-- What has been stored since the last drain. -/
def record (log : List (Capture R S)) : Call R S → List (Capture R S)
  | .store name report => log ++ [⟨name,report,none,none⟩]
  | .storeWithStats name report stats elapsedMs => log ++ [⟨name,report,stats,elapsedMs⟩]
  | .drain | .drainOrdered | .drainOrderedWithStats => []

def kept (calls : List (Call R S)) : List (Capture R S) :=
  recent maxStoredSnapshots (latest Capture.tag (run record [] calls))

def values : Option (Capture R S) → Option R × Option S × Option UInt64
  | some capture => (some capture.report,capture.stats,capture.elapsedMs)
  | none => (none,none,none)

def lookup (store : SnapshotStore R S) (tag : String) : Option R × Option S × Option UInt64 :=
  (store.reports[tag]?,store.stats[tag]?,store.elapsedMs[tag]?)

structure Holds (store : SnapshotStore R S) (log : List (Capture R S)) : Prop where
  distinct : (log.map Capture.tag).Nodup
  maps : ∀ tag, lookup store tag = values (log.find? (Capture.tag · == tag))
  size : store.reports.size = log.length

structure Mirrors (store : SnapshotStore R S) (log : List (Capture R S)) : Prop where
  holds : Holds store log
  order : store.order = log.map Capture.tag
  intact : store.repaired = false

variable {store after : SnapshotStore R S} {capture : Capture R S} {log : List (Capture R S)}

theorem mirrors_empty : Mirrors ({} : SnapshotStore R S) [] := ⟨⟨nodup_nil,fun _ => rfl,rfl⟩,rfl,rfl⟩

theorem Holds.mem_iff (holds : Holds store log) (tag : String) : tag ∈ store.reports ↔ tag ∈ log.map Capture.tag := by
  have report := congrArg Prod.fst (holds.maps tag)
  rw [ExtTreeMap.mem_iff_isSome_getElem?,show store.reports[tag]? = _ from report]
  cases found : log.find? (Capture.tag · == tag) with
  | none => simpa [values] using found
  | some capture => simpa [values] using ⟨capture,mem_of_find?_eq_some found,by simpa using find?_some found⟩

theorem Holds.remove (holds : Holds store (capture::log)) : Holds (removeTag store capture.tag) log := by
  obtain ⟨fresh,distinct⟩ := nodup_cons.mp holds.distinct
  refine ⟨distinct,fun tag => ?_,?_⟩
  · have before := holds.maps tag
    simp only [lookup,removeTag,ExtTreeMap.getElem?_erase,Std.compare_eq_iff_eq] at before ⊢
    by_cases here : capture.tag = tag
    · rw [find?_eq_none.mpr (by simpa [here] using fresh)]
      simp [here,values]
    · rw [find?_cons_of_neg (by simpa using here)] at before
      simpa only [if_neg here] using before
  · have inside := (holds.mem_iff capture.tag).mpr mem_cons_self
    rw [removeTag,ExtTreeMap.size_erase,if_pos (ExtTreeMap.mem_iff_contains.mp inside),holds.size]
    rfl

theorem Holds.put (holds : Holds store log)
    (reports : after.reports = store.reports.insert capture.tag capture.report)
    (maps : ∀ tag, lookup after tag = if capture.tag = tag then values (some capture) else lookup store tag) :
    Holds after (replaced Capture.tag log capture) := by
  refine ⟨?_,fun tag => ?_,?_⟩
  · rw [replaced_keys capture holds.distinct]
    exact (holds.distinct.erase _).append (nodup_singleton _) (by simpa using holds.distinct.not_mem_erase)
  · rw [maps,find_replaced,apply_ite values,holds.maps]
  · rw [length_replaced capture holds.distinct,reports,ExtTreeMap.size_insert,holds.size]
    simp only [← ExtTreeMap.mem_iff_contains,holds.mem_iff]

theorem getElem?_replaceValue {V : Type} (held : ExtTreeMap String V) (name tag : String) (value : Option V) :
    (replaceValue held name value)[tag]? = if name = tag then value else held[tag]? := by
  cases value <;> simp [replaceValue,ExtTreeMap.getElem?_insert,ExtTreeMap.getElem?_erase]

theorem addValue_eq {V : Type} {held : ExtTreeMap String V} {name : String} (absent : held[name]? = none)
    (value : Option V) : addValue held name value = replaceValue held name value := by
  cases value with
  | some value => rfl
  | none =>
    refine ExtTreeMap.ext_getElem? fun tag => ?_
    rw [getElem?_replaceValue]
    split
    · next same => rw [← same,addValue,absent]
    · rfl

theorem evictOldest_mirrors {log : List (Capture R S)} (holds : Holds store log) (intact : store.repaired = false) :
    Mirrors (evictOldest (log.map Capture.tag) store) (recent maxStoredSnapshots log) := by
  induction log generalizing store with
  | nil =>
    rw [map_nil,evictOldest,if_neg (by simp [holds.size])]
    exact ⟨⟨nodup_nil,holds.maps,holds.size⟩,rfl,intact⟩
  | cons capture log ih =>
    rw [map_cons,evictOldest,holds.size,recent]
    by_cases beyond : log.length + 1 > maxStoredSnapshots
    · rw [length_cons,if_pos beyond,Nat.sub_add_comm (Nat.lt_succ_iff.mp beyond),drop_succ_cons]
      exact ih holds.remove intact
    · rw [length_cons,if_neg beyond,Nat.sub_eq_zero_of_le (Nat.not_lt.mp beyond),drop_zero]
      exact ⟨⟨holds.distinct,holds.maps,holds.size⟩,rfl,intact⟩

theorem store_mirrors (mirrors : Mirrors store log) (few : log.length ≤ maxStoredSnapshots) (capture : Capture R S) :
    Mirrors (storeInternal store capture.tag capture.report capture.stats capture.elapsedMs)
      (recent maxStoredSnapshots (replaced Capture.tag log capture)) := by
  obtain ⟨holds,order,intact⟩ := mirrors
  have keys := replaced_keys capture holds.distinct
  let stored : SnapshotStore R S :=
    {store with
      reports := store.reports.insert capture.tag capture.report,
      stats := replaceValue store.stats capture.tag capture.stats,
      elapsedMs := replaceValue store.elapsedMs capture.tag capture.elapsedMs}
  have put : Holds stored (replaced Capture.tag log capture) := by
    refine holds.put rfl fun tag => ?_
    simp only [lookup,stored,getElem?_replaceValue,ExtTreeMap.getElem?_insert,Std.compare_eq_iff_eq]
    split <;> rfl
  unfold storeInternal
  by_cases inside : capture.tag ∈ store.reports
  · have length := length_replaced capture holds.distinct
    rw [if_pos ((holds.mem_iff _).mp inside)] at length
    rw [if_pos inside,recent,Nat.sub_eq_zero_of_le (by omega),drop_zero]
    exact ⟨⟨put.distinct,put.maps,put.size⟩,by rw [keys,order],intact⟩
  · have fresh := mt (holds.mem_iff _).mpr inside
    have absent := holds.maps capture.tag
    rw [find?_eq_none.mpr (by simpa using fresh)] at absent
    simp only [lookup,values,Prod.mk.injEq] at absent
    obtain ⟨-,stats,elapsed⟩ := absent
    have evicted := evictOldest_mirrors put intact
    rw [keys,erase_of_not_mem fresh,← order] at evicted
    rw [if_neg inside,addValue_eq stats,addValue_eq elapsed]
    exact evicted

theorem takeOrdered_all {log : List (Capture R S)} (holds : Holds store log) : ∃ left : SnapshotStore R S, Holds left [] ∧
    takeOrdered takeReport (log.map Capture.tag) store.reports =
      (log.map fun capture => (capture.tag,capture.report),left.reports) ∧
    takeOrdered takeCapture (log.map Capture.tag) store = (log,left) := by
  induction log generalizing store with
  | nil => exact ⟨store,holds,rfl,rfl⟩
  | cons capture log ih =>
    obtain ⟨left,empty,reports,captures⟩ := ih holds.remove
    have here := holds.maps capture.tag
    rw [find?_cons_of_pos (by simp)] at here
    simp only [lookup,values,Prod.mk.injEq] at here
    refine ⟨left,empty,?_,?_⟩
    · simp only [map_cons,takeOrdered,takeReport,here.1]
      dsimp only [removeTag] at reports
      rw [reports]
      rfl
    · simp only [map_cons,takeOrdered,takeCapture,here]
      rw [captures]
      rfl

private theorem Mirrors.drains (mirrors : Mirrors store log) :
    drainOrderedWithStats store = (log,{}) ∧
      drainOrdered store = (log.map fun capture => (capture.tag,capture.report),{}) ∧ (drain store).2 = {} := by
  obtain ⟨left,empty,reports,captures⟩ := takeOrdered_all mirrors.holds
  have none : left.reports = ∅ := ExtTreeMap.eq_empty_iff_size_eq_zero.mpr empty.size
  refine ⟨?_,?_,?_⟩
  · rw [drainOrderedWithStats,mirrors.order,captures]
    simp [drained,none,mirrors.intact]
  · rw [drainOrdered,mirrors.order,reports]
    simp [drained,none,mirrors.intact]
  · rw [drain,mirrors.intact]

theorem run_mirrors (calls : List (Call R S)) : Mirrors (run step {} calls) (kept calls) := by
  refine run_history step {} (fun calls store => Mirrors store (kept calls)) mirrors_empty ?_ calls
  intro calls call mirrors
  have few : (kept calls).length ≤ maxStoredSnapshots := by
    rw [kept,recent,length_drop]
    omega
  have stored (capture : Capture R S) : recent maxStoredSnapshots (replaced Capture.tag (kept calls) capture) =
      recent maxStoredSnapshots (latest Capture.tag (run record [] calls ++ [capture])) := by
    rw [latest_concat]
    refine (recent_replaced ?_).symm
    rw [latest_keys]
    exact nodup_dedup _
  obtain ⟨captures,reports,plain⟩ := mirrors.drains
  rw [kept,run_append,run_cons,run_nil]
  cases call with
  | store name report =>
    rw [record,← stored]
    exact store_mirrors mirrors few ⟨name,report,none,none⟩
  | storeWithStats name report stats elapsedMs =>
    rw [record,← stored]
    exact store_mirrors mirrors few ⟨name,report,stats,elapsedMs⟩
  | drain =>
    rw [step,plain]
    exact mirrors_empty
  | drainOrdered =>
    rw [step,reports]
    exact mirrors_empty
  | drainOrderedWithStats =>
    rw [step,captures]
    exact mirrors_empty

/-- Whatever has been called: each drain answers with the latest captures, the oldest first, and leaves an empty bridge
whose maps were never out of step. -/
theorem bridge_keeps_latest (calls : List (Call R S)) :
    let store := run step {} calls
    drainOrderedWithStats store = (kept calls,{}) ∧
      drainOrdered store = ((kept calls).map fun capture => (capture.tag,capture.report),{}) ∧
      (∀ tag, (drain store).1[tag]? = ((kept calls).find? (Capture.tag · == tag)).map Capture.report) ∧
      (drain store).2 = {} ∧
      (kept calls).length = min maxStoredSnapshots ((run record [] calls).map Capture.tag).dedup.length := by
  have mirrors := run_mirrors calls
  obtain ⟨captures,reports,plain⟩ := mirrors.drains
  refine ⟨captures,reports,fun tag => ?_,plain,?_⟩
  · refine (congrArg Prod.fst (mirrors.holds.maps tag)).trans ?_
    cases (kept calls).find? (Capture.tag · == tag) <;> rfl
  · rw [kept,recent,length_drop,← latest_keys,length_map]
    omega

end Ktstr.SnapshotLog
