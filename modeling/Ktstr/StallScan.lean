import Ktstr.Source.RunnableScan

/-! The longest wait that the stall scan reports. -/
namespace Ktstr.StallScan
open Library.Bytes Library.Words Source.Reader Source.RunnableScan

variable {guest : Guest} {offsets : RunnableScanOffsets} {jiffies scxTasksKva startKernelMap physBase boot : Nat}
  {rqPas : List Nat} {watchdog : Option Nat}

theorem walkFrom_empty {age : Nat → Nat} {headPa headKva : Nat} (empty : readU64 guest.mem headPa 0 = headKva) :
    walkFrom guest age headPa headKva = 0 := by
  have none (left : Nat) : walkNodes guest age headKva left headKva 0 = 0 := by
    cases left with
    | zero => rfl
    | succ left => rw [walkNodes,if_pos rfl]
  rw [walkFrom,empty,none,ite_self]

theorem perRq_empty (empty : ∀ rqPa ∈ rqPas,
      readU64 guest.mem (rqHeadPa offsets rqPa) 0 = wrappingAdd (rqHeadPa offsets rqPa) guest.pageOffset) :
    rqPas.foldl (fun age rqPa => max age (maxRunnableAgePerRq guest offsets jiffies rqPa)) 0 = 0 := by
  apply List.foldlRecOn (motive := (· = 0)) rqPas _ rfl
  intro age zero rqPa member
  rw [zero,maxRunnableAgePerRq,walkFrom_empty (empty rqPa member),ite_self,Nat.max_self]

/-- With empty lists and the timestamp of the boot, no age is reported exactly while there is no timestamp, in the
jiffy of the boot, or more than the cap after it. -/
theorem quiet_before_attach_iff
    (tasks : readU64 guest.mem (textKvaToPaWithBase scxTasksKva startKernelMap physBase) 0 = scxTasksKva)
    (queues : ∀ rqPa ∈ rqPas,
      readU64 guest.mem (rqHeadPa offsets rqPa) 0 = wrappingAdd (rqHeadPa offsets rqPa) guest.pageOffset)
    (stamp : ∀ pa ∈ watchdog, readU64 guest.mem pa 0 = boot) (later : boot ≤ jiffies) :
    let age := maxRunnableAge guest offsets jiffies scxTasksKva rqPas watchdog startKernelMap physBase
    (age = 0 ∧ ∀ threshold > 0, age < threshold) ↔
      watchdog = none ∨ boot = 0 ∨ jiffies = boot ∨ sanityCapJiffies < jiffies - boot := by
  intro age
  have only : age = watchdogAge guest jiffies watchdog := by
    change max (max (maxRunnableAgeGlobal _ _ _ _ _ _) _) _ = _
    rw [perRq_empty queues,maxRunnableAgeGlobal,walkFrom_empty tasks,ite_self,Nat.max_self,Nat.zero_max]
  have zero : (age = 0 ∧ ∀ threshold > 0, age < threshold) ↔ age = 0 := by
    constructor
    · exact And.left
    · intro none
      exact ⟨none,fun threshold some => none ▸ some⟩
  rw [zero,only]
  cases watchdog with
  | none => exact iff_of_true rfl (.inl rfl)
  | some pa =>
    rw [watchdogAge,stamp pa rfl]
    split_ifs <;> simp <;> omega

theorem page_fits : 4096 < wordSpan := by decide

/-- A guest booted at seven jiffies, with the head of an empty list at 8 and a run queue with an empty list at 24. -/
def fresh : Guest :=
  ⟨.x86,.new (sparse [(0,7),(8,16),(24,24)]) 4096 page_fits,0,0,false,0⟩

def plain : RunnableScanOffsets := ⟨0,0,0,0,0,0,0⟩

/-- A day after the boot of a guest without a scheduler nothing is reported. -/
theorem day_old_guest_quiet : maxRunnableAge fresh plain 86400008 16 [24] (some 0) 8 0 = 0 :=
  ((quiet_before_attach_iff (by decide) (by decide) (show ∀ pa ∈ some 0, readU64 fresh.mem pa 0 = 7 by decide)
    (by decide)).mpr (.inr (.inr (.inr (by decide))))).1

/-- A second after the boot of a guest without a scheduler an age of a thousand jiffies is reported. -/
theorem young_guest_stalled :
    readU64 fresh.mem (textKvaToPaWithBase 16 8 0) 0 = 16 ∧
      readU64 fresh.mem (rqHeadPa plain 24) 0 = wrappingAdd (rqHeadPa plain 24) fresh.pageOffset ∧
      readU64 fresh.mem 0 0 = 7 ∧ maxRunnableAge fresh plain 1007 16 [24] (some 0) 8 0 = 1000 := by
  decide

end Ktstr.StallScan
