import Ktstr.Source.GroupReports
import Mathlib.Algebra.Order.BigOperators.Group.List
import Mathlib.Algebra.Order.Group.Nat

/-! Reports counted by group: forked workers are filed right, but a thread that panics or hangs is filed under the first
group, and the reports missing from a short list are taken to be those of the last workers. -/
namespace Ktstr.GroupCounts
open List Source.Collect Source.GroupReports

variable {codecs : Format WorkerReport WorkerExitInfo} {groups : List (Nat × Nat)}

def Accounted (groups : List (Nat × Nat)) (reports : List WorkerReport) : Prop :=
  ∀ group, reports.countP (·.groupIdx == group) = (workers groups).count group

/-- The group a thread of a container is filed under. -/
def filed : Nat × Joined → Nat
  | (groupIdx,.ok _) => groupIdx
  | (_,.error _) => 0

def Workload.Tagged : Workload codecs groups → Prop
  | .fork _ _ _ => True
  | .thread threads _ _ => ∀ thread ∈ threads, (∃ report, thread.2.2 = some (.ok report)) ∨ thread.1 = 0
  | .container _ exits buf _ _ _ _ =>
    match codecs.decodeAll (stripReady buf) with
    | none => True
    | some decoded =>
      if decoded.length < exits.length then
        ((exits.take decoded.length).map filed).Perm ((workers groups).take decoded.length)
      else ∀ exit ∈ exits, (∃ report, exit.2 = .ok report) ∨ exit.1 = 0

theorem accounted_iff_perm {reports : List WorkerReport} :
    Accounted groups reports ↔ (reports.map WorkerReport.groupIdx).Perm (workers groups) := by
  rw [perm_iff_count]
  simp only [Accounted,count,countP_map]
  rfl

/-- Reports of workers that are filed under their group or under the first one. -/
theorem filed_right_iff {α : Type} {values : List α} {report : α → WorkerReport} {group : α → Nat} {delivered : α → Prop}
    (carried : ∀ value ∈ values, delivered value → (report value).groupIdx = group value)
    (lost : ∀ value, ¬ delivered value → (report value).groupIdx = 0) :
    (values.map fun value => (report value).groupIdx).Perm (values.map group) ↔
      ∀ value ∈ values, delivered value ∨ group value = 0 := by
  have less value (member : value ∈ values) : (report value).groupIdx ≤ group value := by
    by_cases here : delivered value
    · exact (carried value member here).le
    · simp [lost value here]
  constructor
  · intro same value member
    by_contra! neither
    have lower := sum_lt_sum _ group less ⟨value,member,by have := lost value neither.1; omega⟩
    exact lower.ne same.sum_eq
  · intro all
    refine Perm.of_eq (map_congr_left fun value member => ?_)
    rcases all value member with here | first
    · exact carried value member here
    · have := less value member
      omega

theorem slotGroup_eq (groups : List (Nat × Nat)) (acc slot : Nat) (inside : slot < (workers groups).length) :
    slotGroup (acc + slot) acc groups = (workers groups)[slot] := by
  induction groups generalizing acc slot with
  | nil => simp [workers] at inside
  | cons group groups ih =>
    obtain ⟨gi,n⟩ := group
    have split : workers ((gi,n)::groups) = replicate n gi ++ workers groups := rfl
    simp only [slotGroup,split,getElem_append,length_replicate,Nat.add_lt_add_iff_left]
    split_ifs with here
    · simp
    · rw [← ih (acc + n) (slot - n)]
      congr 1
      omega

theorem padding_eq (groups : List (Nat × Nat)) (got : Nat) :
    (range' got ((workers groups).length - got)).map (slotGroup · 0 groups) = (workers groups).drop got := by
  apply ext_getElem
  · simp
  · intro index left right
    rw [length_drop] at right
    have found := slotGroup_eq groups 0 (got + index) (by omega)
    simpa using found

theorem container_filed {decoded : List WorkerReport} (container : Container WorkerReport) (pid : Int)
    (buf : List UInt8) (exitInfo : WorkerExitInfo) (found : codecs.decodeAll (stripReady buf) = some decoded) :
    (ForkedChild.decode (reportFormat codecs) ⟨pid,.pcommContainer container⟩ buf exitInfo).reports.map
        WorkerReport.groupIdx =
      (decoded.take (workers container.groups).length).map WorkerReport.groupIdx ++
        (workers container.groups).drop decoded.length := by
  have found : (reportFormat codecs).decodeAll (stripReady buf) = some decoded := found
  simp only [ForkedChild.decode,found,← workers_length]
  split_ifs with whole
  · rw [← whole,take_length,whole,drop_length,append_nil]
    rfl
  · have padding := padding_eq container.groups (decoded.take (workers container.groups).length).length
    simp only [Contribution.reports,map_append,map_map]
    congr 1
    refine padding.trans ?_
    rw [length_take]
    rcases le_total decoded.length (workers container.groups).length with short | long
    · rw [min_eq_right short]
    · rw [min_eq_left long,drop_length,drop_of_length_le long]

/-- The reports are as many for each group as the group has workers exactly if no thread outside the first group panics or
hangs and the workers whose reports a container still sends are, group by group, as many as were started first. -/
theorem groups_accounted_iff (workload : Workload codecs groups) :
    Accounted groups workload.stopAndCollect ↔ Workload.Tagged workload := by
  rw [accounted_iff_perm]
  cases workload with
  | fork children started carried =>
    refine iff_of_true (Perm.of_eq ?_) trivial
    rw [← started,Workload.stopAndCollect,map_flatMap,map_eq_flatMap]
    refine flatMap_congr fun child member => ?_
    simp only [ForkedChild.decode]
    cases found : (reportFormat codecs).decodeOne (stripReady child.buf) with
    | none => rfl
    | some report => exact congrArg (fun group => [group]) (carried child member report found)
  | thread threads started carried =>
    rw [← started,Workload.stopAndCollect,map_map]
    refine filed_right_iff ?_ ?_
    · rintro ⟨groupIdx,tid,_⟩ member ⟨report,rfl⟩
      exact carried _ member report rfl
    · rintro ⟨groupIdx,tid,_ | _ | report⟩ lost
      · rfl
      · rfl
      · exact absurd ⟨report,rfl⟩ lost
  | container pid exits buf exitInfo started carried sent =>
    have count : (workers groups).length = exits.length := by
      rw [← started.length_eq,length_map]
    rw [Workload.stopAndCollect,Workload.Tagged]
    cases found : codecs.decodeAll (stripReady buf) with
    | none =>
      have found : (reportFormat codecs).decodeAll (stripReady buf) = none := found
      refine iff_of_true (Perm.of_eq ?_) trivial
      simp only [ForkedChild.decode,found,Contribution.reports,map_flatMap,map_replicate]
      rfl
    | some decoded =>
      rw [container_filed _ _ _ _ found,count,sent decoded found,map_map]
      dsimp only
      split_ifs with short
      · have filing : (exits.take decoded.length).map (WorkerReport.groupIdx ∘ (containerReport ·.2)) =
            (exits.take decoded.length).map filed := by
          refine map_congr_left fun exit member => ?_
          obtain ⟨groupIdx,_ | report⟩ := exit
          · rfl
          · exact carried _ (mem_of_mem_take member) report rfl
        nth_rewrite 2 [← take_append_drop decoded.length (workers groups)]
        rw [filing,perm_append_right_iff]
      · rw [take_of_length_le (by omega),drop_of_length_le (by omega),append_nil,← started.congr_right]
        refine filed_right_iff ?_ ?_
        · rintro ⟨groupIdx,_⟩ member ⟨report,rfl⟩
          exact carried _ member report rfl
        · rintro ⟨groupIdx,_ | report⟩ lost
          · rfl
          · exact absurd ⟨report,rfl⟩ lost

def noCodecs : Format WorkerReport WorkerExitInfo := ⟨fun _ => [],fun _ => none,fun _ => [],fun _ => none,fun _ _ _ => {}⟩

/-- Two groups of one thread each, and the second thread panics. -/
def oneOfTwo : Workload noCodecs [(0,1),(1,1)] :=
  .thread [(0,7,some (.ok {tid := 7,completed := true})),(1,8,some (.error "overflow"))] rfl (by simp)

/-- Both reports are filed under the first group. -/
theorem panicked_thread_misfiled : ¬ Accounted [(0,1),(1,1)] oneOfTwo.stopAndCollect := by
  intro accounted
  exact absurd (accounted 1) (by decide)

end Ktstr.GroupCounts
