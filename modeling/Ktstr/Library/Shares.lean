import Mathlib.Data.List.Basic
import Mathlib.Data.Nat.Init

/-! Even shares of a number of items: the first parts take one more, as long as the remainder lasts. -/
namespace Ktstr.Library.Shares
open List

def share (base remainder part : Nat) : Nat := if part < remainder then base + 1 else base

def start (base remainder part : Nat) : Nat := part * base + min part remainder

section
variable (base remainder : Nat)

theorem start_succ (part : Nat) : start base remainder (part + 1) = start base remainder part + share base remainder part := by
  unfold start share
  rw [Nat.succ_mul]
  split <;> omega

theorem start_total (total : Nat) {parts : Nat} (positive : 0 < parts) :
    start (total / parts) (total % parts) parts = total := by
  have split := Nat.div_add_mod total parts
  have small := Nat.mod_lt total positive
  unfold start
  omega

theorem start_le (first second : Nat) (ordered : first ≤ second) : start base remainder first ≤ start base remainder second := by
  unfold start
  have := Nat.mul_le_mul_right base ordered
  omega

theorem exists_part {parts item : Nat} (inside : item < start base remainder parts) :
    ∃ part < parts, ∃ place < share base remainder part, item = start base remainder part + place := by
  induction parts with
  | zero => simp [start] at inside
  | succ parts ih =>
    by_cases earlier : item < start base remainder parts
    · obtain ⟨part,below,rest⟩ := ih earlier
      exact ⟨part,by omega,rest⟩
    · rw [start_succ] at inside
      exact ⟨parts,by omega,item - start base remainder parts,by omega,by omega⟩

variable {α : Type} (items : Nat → List α)

theorem length_flatMap_range (parts : Nat) (lengths : ∀ part < parts, (items part).length = share base remainder part) :
    ((List.range parts).flatMap items).length = start base remainder parts := by
  induction parts with
  | zero => simp [start]
  | succ parts ih =>
    rw [range_succ,flatMap_append,length_append,ih fun part below => lengths part (by omega),start_succ,
      flatMap_singleton,lengths parts (by omega)]

theorem getElem?_flatMap_range (parts part place : Nat)
    (lengths : ∀ part < parts, (items part).length = share base remainder part) (below : part < parts)
    (inside : place < share base remainder part) :
    ((List.range parts).flatMap items)[start base remainder part + place]? = (items part)[place]? := by
  induction parts with
  | zero => cases below
  | succ parts ih =>
    have before := length_flatMap_range base remainder items parts fun part below => lengths part (by omega)
    rw [range_succ,flatMap_append,flatMap_singleton]
    by_cases earlier : part < parts
    · have bound := start_le base remainder (part + 1) parts earlier
      rw [start_succ] at bound
      rw [getElem?_append_left (by omega)]
      exact ih (fun part below => lengths part (by omega)) earlier
    · have last : part = parts := by omega
      subst last
      rw [getElem?_append_right (by omega),before,Nat.add_sub_cancel_left]

end

theorem same_part_iff {base remainder parts firstPart secondPart first second : Nat} (ordered : first ≤ second)
    (secondIn : secondPart < parts) (firstFrom : start base remainder firstPart ≤ first)
    (firstTo : first < start base remainder (firstPart + 1)) (secondFrom : start base remainder secondPart ≤ second)
    (secondTo : second < start base remainder (secondPart + 1)) :
    firstPart = secondPart ↔
      ∀ part < parts, ¬ (first < start base remainder part ∧ start base remainder part ≤ second) := by
  constructor
  · rintro rfl part _ ⟨after,before⟩
    rcases Nat.lt_or_ge firstPart part with later | earlier
    · have := start_le base remainder (firstPart + 1) part later
      omega
    · have := start_le base remainder _ _ earlier
      omega
  · intro none
    rcases Nat.lt_trichotomy firstPart secondPart with later | same | earlier
    · have := start_le base remainder (firstPart + 1) secondPart later
      exact absurd ⟨by omega,secondFrom⟩ (none secondPart secondIn)
    · exact same
    · have := start_le base remainder (secondPart + 1) firstPart earlier
      omega

theorem agree_iff_ordered {α β : Type} (f : Nat → α) (g : Nat → β) (limit : Nat) :
    (∀ first < limit, ∀ second < limit, (f first = f second ↔ g first = g second)) ↔
      ∀ first second, first < second → second < limit → (f first = f second ↔ g first = g second) := by
  constructor
  · intro agree first second ordered inside
    exact agree first (by omega) second inside
  · intro agree first firstIn second secondIn
    rcases Nat.lt_trichotomy first second with ordered | rfl | ordered
    · exact agree first second ordered secondIn
    · exact iff_of_true rfl rfl
    · rw [eq_comm,agree second first ordered firstIn,eq_comm]

theorem eq_iff_steps (f : Nat → Nat) (limit first second : Nat)
    (ascends : ∀ first second, first ≤ second → second < limit → f first ≤ f second) (ordered : first ≤ second)
    (inside : second < limit) : f first = f second ↔ ∀ place, first ≤ place → place < second → f place = f (place + 1) := by
  constructor
  · intro same place after before
    have low := ascends first place after (by omega)
    have high := ascends (place + 1) second before inside
    have step := ascends place (place + 1) (by omega) (by omega)
    omega
  · intro steps
    induction second, ordered using Nat.le_induction with
    | base => rfl
    | succ second ordered ih =>
      rw [ih (by omega) fun place after before => steps place after (by omega)]
      exact steps second ordered (by omega)

end Ktstr.Library.Shares
