import Mathlib.Data.List.Nodup
import Mathlib.Data.List.Range
import Mathlib.Data.Nat.ModEq

/-! Round robin from an offset, where the sum of position and offset wraps: positions before and after the wrap can meet in
one slot. -/
namespace Ktstr.Library.Rotations
open Nat

def slot (span slots offset position : Nat) : Nat := (position + offset) % span % slots

def Spread (span slots offset count : Nat) : Prop :=
  offset + count ≤ span ∨ slots ∣ span ∨ count ≤ span % slots

instance (span slots offset count : Nat) : Decidable (Spread span slots offset count) :=
  inferInstanceAs (Decidable (_ ∨ _))

variable (span slots offset : Nat)

theorem slot_lt {position : Nat} (positive : 0 < slots) : slot span slots offset position < slots :=
  mod_lt _ positive

section
variable (span slots offset first second : Nat) (near : second < first + slots) (ordered : first < second)
include near ordered

theorem apart_unwrapped (inside : second + offset < span) :
    slot span slots offset first ≠ slot span slots offset second := by
  intro met
  have earlier : first + offset < span := by omega
  rw [slot,slot,mod_eq_of_lt earlier,mod_eq_of_lt inside] at met
  have divides := (modEq_iff_dvd' (by omega)).mp met
  have small := le_of_dvd (by omega) divides
  omega

variable (below : offset < span) (fits : second < span)
include below fits

theorem apart_wrapped (outside : span ≤ first + offset) :
    slot span slots offset first ≠ slot span slots offset second := by
  intro met
  have wrapped : ∀ position, span ≤ position + offset → position < span →
      (position + offset) % span = position + offset - span := by
    intro position beyond small
    rw [mod_eq_sub_mod beyond,mod_eq_of_lt (by omega)]
  rw [slot,slot,wrapped first outside (by omega),wrapped second (by omega) fits] at met
  have divides := (modEq_iff_dvd' (by omega)).mp met
  have small := le_of_dvd (by omega) divides
  omega

theorem meet_across_iff (inside : first + offset < span) (outside : span ≤ second + offset) :
    slot span slots offset first = slot span slots offset second ↔ second - first = span % slots := by
  have wrapped : (second + offset) % span = second + offset - span := by
    rw [mod_eq_sub_mod outside,mod_eq_of_lt (by omega)]
  rw [slot,slot,mod_eq_of_lt inside,wrapped]
  have distance : (second - first) % slots = second - first := mod_eq_of_lt (by omega)
  have shifted : first + offset + (second - first) = second + offset - span + span := by omega
  constructor
  · intro met
    have joined : (first + offset + (second - first)) ≡ (first + offset + span) [MOD slots] := by
      rw [shifted]
      exact (Nat.ModEq.symm met).add_right span
    have same := Nat.ModEq.add_left_cancel' _ joined
    rw [Nat.ModEq,distance] at same
    exact same
  · intro apart
    have same : second - first ≡ span [MOD slots] := by
      rw [Nat.ModEq,distance]
      exact apart
    have joined := same.add_left (first + offset)
    rw [shifted] at joined
    exact (Nat.ModEq.add_right_cancel' span joined).symm

theorem meet_iff : slot span slots offset first = slot span slots offset second ↔
    first + offset < span ∧ span ≤ second + offset ∧ second - first = span % slots := by
  by_cases outside : span ≤ first + offset
  · refine iff_of_false (apart_wrapped span slots offset first second near ordered below fits outside) ?_
    omega
  · by_cases inside : second + offset < span
    · refine iff_of_false (apart_unwrapped span slots offset first second near ordered inside) ?_
      omega
    · rw [meet_across_iff span slots offset first second near ordered below fits (by omega) (by omega)]
      constructor
      · intro apart
        exact ⟨by omega,by omega,apart⟩
      · rintro ⟨_,_,apart⟩
        exact apart

end

theorem spread_apart {count first second : Nat} (below : offset < span) (room : count ≤ slots) (fits : count ≤ span)
    (spread : Spread span slots offset count) (ordered : first < second) (inside : second < count) :
    slot span slots offset first ≠ slot span slots offset second := by
  intro met
  rw [meet_iff span slots offset first second (by omega) ordered below (by omega)] at met
  obtain ⟨_,_,apart⟩ := met
  rcases spread with short | divides | few
  · omega
  · rw [mod_eq_zero_of_dvd divides] at apart
    omega
  · omega

theorem nodup_slots_iff {count : Nat} (below : offset < span) (room : count ≤ slots) (fits : count ≤ span) :
    ((List.range count).map (slot span slots offset)).Nodup ↔ Spread span slots offset count := by
  rw [List.nodup_map_iff_inj_on List.nodup_range]
  simp only [List.mem_range]
  constructor
  · intro injective
    by_contra crowded
    simp only [Spread,not_or] at crowded
    -- The last position before the wrap that has one beyond it at that distance.
    let first := span - offset - span % slots
    have met : slot span slots offset first = slot span slots offset (first + span % slots) := by
      rw [meet_iff span slots offset first _ (by omega) (by omega) below (by omega)]
      omega
    have same := injective first (by omega) (first + span % slots) (by omega) met
    omega
  · intro spread first firstIn second secondIn met
    rcases lt_trichotomy first second with ordered | same | ordered
    · exact absurd met (spread_apart span slots offset below room fits spread ordered secondIn)
    · exact same
    · exact absurd met.symm (spread_apart span slots offset below room fits spread ordered firstIn)

end Ktstr.Library.Rotations
