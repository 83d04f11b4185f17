import Ktstr.Semantics.GuestView
import Mathlib.Data.List.TakeWhile

/-! Reads of consecutive physical bytes: whole within one region of guest memory, short across
the end of one. -/
namespace Ktstr.PhysicalReads
open List Library.Bytes Library.Words Source.Reader Semantics.GuestView

theorem takeWhile_same {α : Type} (first second : α → Bool) (items : List α)
    (same : ∀ item ∈ items, first item = second item) : items.takeWhile first = items.takeWhile second := by
  induction items with
  | nil => rfl
  | cons item items ih =>
    rw [takeWhile_cons,takeWhile_cons,same item mem_cons_self,
      ih fun other inside => same other (mem_cons_of_mem item inside)]

theorem resolvePtr_add (mem : GuestMem) (pa avail i : Nat) (ptr : Nat → UInt8)
    (found : resolvePtr mem pa = some (ptr,avail)) (inside : i < avail) :
    ∃ left, resolvePtr mem (pa + i) = some (fun j => ptr (i + j),left) := by
  unfold resolvePtr at found ⊢
  cases last : (mem.regions.takeWhile fun region => region.offset ≤ pa).getLast? with
  | none =>
    rw [last] at found
    cases found
  | some region =>
    rw [last] at found
    have held := mem_of_getLast? last
    have member := takeWhile_subset _ held
    have start : region.offset ≤ pa := by simpa using mem_takeWhile_imp held
    simp only [Option.ite_none_right_eq_some] at found
    obtain ⟨within,rfl,rfl⟩ := found
    -- No other region begins between the two addresses.
    have same : (mem.regions.takeWhile fun region => region.offset ≤ pa + i) =
        mem.regions.takeWhile fun region => region.offset ≤ pa := by
      apply takeWhile_same
      intro other among
      rw [decide_eq_decide]
      refine ⟨fun low => ?_,fun low => by omega⟩
      rcases mem_iff_getElem.mp member with ⟨m,mBound,rfl⟩
      rcases mem_iff_getElem.mp among with ⟨n,nBound,rfl⟩
      have ordered := pairwise_iff_getElem.mp mem.apart
      rcases Nat.lt_trichotomy m n with before | same | after
      · have := ordered m n mBound nBound before
        omega
      · subst same
        exact start
      · have := ordered n m nBound mBound after
        omega
    rw [same,last]
    refine ⟨region.size - (pa + i - region.offset),?_⟩
    simp only [Option.ite_none_right_eq_some,Option.some.injEq,Prod.mk.injEq]
    refine ⟨by omega,funext fun j => ?_,trivial⟩
    congr 1
    omega

theorem readBytes_whole {mem : GuestMem} {pa len : Nat} (whole : OneRegion mem pa len) :
    (readBytes mem pa len).length = len ∧ ∀ i < len, physByte mem (pa + i) = (readBytes mem pa len)[i]? := by
  by_cases empty : len = 0
  · subst empty
    refine ⟨?_,fun i inside => absurd inside (Nat.not_lt_zero i)⟩
    unfold readBytes
    split
    · rfl
    · cases resolvePtr mem pa with
      | none => rfl
      | some found => simp [copyBytes]
  · obtain ⟨within,ptr,avail,found,room⟩ := whole.resolve_left empty
    have copied : readBytes mem pa len = copyBytes ptr len := by
      rw [readBytes,if_neg (by omega),found]
      have length : min (min (mem.size - pa) len) avail = len := by omega
      simp only [length]
    rw [copied]
    refine ⟨by simp [copyBytes],fun i inside => ?_⟩
    obtain ⟨left,further⟩ := resolvePtr_add mem pa avail i ptr found (by omega)
    rw [physByte,if_pos (by omega),further]
    simp [copyBytes,inside]

theorem readBytes_split {mem : GuestMem} {pa len : Nat} (split : ¬ OneRegion mem pa len) :
    (readBytes mem pa len).length ≠ len := by
  unfold OneRegion at split
  push Not at split
  obtain ⟨nonempty,beyond⟩ := split
  unfold readBytes
  split
  next => simpa using Ne.symm nonempty
  next inside =>
    cases resolved : resolvePtr mem pa with
    | none => simpa using Ne.symm nonempty
    | some found =>
      have room := fun within => beyond within found.1 found.2 resolved
      simp only [copyBytes,length_map,length_range]
      omega

end Ktstr.PhysicalReads
