import Mathlib.Data.Nat.Bitwise

/-! Unsigned 64-bit words as natural numbers. -/
namespace Ktstr.Library.Words
open Nat

def wordSpan : Nat := 2 ^ 64

variable (first second : Nat)

def wrappingAdd : Nat := (first + second) % wordSpan

def wrappingSub : Nat := (first + wordSpan - second % wordSpan) % wordSpan

def checkedAdd : Option Nat :=
  if first + second < wordSpan then some (first + second) else none

def checkedSub : Option Nat := if second ≤ first then some (first - second) else none

def flip (word : Nat) : Nat := wordSpan - 1 - word

theorem wrappingAdd_of_fits {first second : Nat} (fits : first + second < wordSpan) :
    wrappingAdd first second = first + second := mod_eq_of_lt fits

theorem checkedSub_of_le {first second : Nat} (le : second ≤ first) : checkedSub first second = some (first - second) :=
  if_pos le

theorem checkedAdd_of_fits {first second : Nat} (fits : first + second < wordSpan) :
    checkedAdd first second = some (first + second) := if_pos fits

theorem testBit_flip {word : Nat} (fits : word < wordSpan) (i : Nat) :
    (flip word).testBit i = (decide (i < 64) && !word.testBit i) := by
  rw [flip,Nat.sub_sub,Nat.add_comm]
  exact testBit_two_pow_sub_succ fits i

theorem testBit_flip_ones (bits i : Nat) : (flip (2 ^ bits - 1)).testBit i = (decide (i < 64) && decide (bits ≤ i)) := by
  by_cases fits : 2 ^ bits - 1 < wordSpan
  · rw [testBit_flip fits,testBit_two_pow_sub_one]
    congr 1
    rw [← decide_not,decide_eq_decide,not_lt]
  · have wide : 64 ≤ bits := by
      by_contra narrow
      have := Nat.pow_lt_pow_right (show 1 < 2 by decide) (Nat.lt_of_not_le narrow)
      exact fits (lt_of_le_of_lt (sub_le _ _) this)
    have zero : flip (2 ^ bits - 1) = 0 := by
      unfold flip
      omega
    rw [zero]
    simp
    omega

theorem ones_shift {bits : Nat} (fits : bits ≤ 64) : flip 0 >>> (64 - bits) = 2 ^ bits - 1 := by
  apply eq_of_testBit_eq
  intro i
  rw [Nat.testBit_shiftRight,testBit_flip (Nat.two_pow_pos 64)]
  simp
  omega

theorem and_flip_ones {word : Nat} (fits : word < wordSpan) (bits : Nat) :
    word &&& flip (2 ^ bits - 1) = word / 2 ^ bits * 2 ^ bits := by
  rw [← shiftRight_eq_div_pow,← shiftLeft_eq]
  apply eq_of_testBit_eq
  intro i
  rw [testBit_and,testBit_flip_ones,testBit_shiftLeft]
  by_cases high : bits ≤ i
  · by_cases inside : i < 64
    · simp [high,inside]
    · have clear : word.testBit i = false :=
        Nat.testBit_lt_two_pow (Nat.lt_of_lt_of_le fits (Nat.pow_le_pow_right (by decide) (Nat.le_of_not_lt inside)))
      simp [high,clear]
  · simp [high]

theorem or_eq_add {base low bits : Nat} (aligned : 2 ^ bits ∣ base) (small : low < 2 ^ bits) : base ||| low = base + low := by
  obtain ⟨high,rfl⟩ := aligned
  exact (two_pow_add_eq_or_of_lt small high).symm

theorem and_or_low {mask bits : Nat} (clear : mask % 2 ^ bits = 0) {entry word : Nat} :
    2 ^ bits ∣ entry &&& mask ∧ (entry &&& mask) ||| (word &&& (2 ^ bits - 1)) = (entry &&& mask) + word % 2 ^ bits := by
  have aligned : 2 ^ bits ∣ entry &&& mask := by
    apply dvd_of_mod_eq_zero
    rw [and_mod_two_pow,clear,and_zero]
  rw [and_two_pow_sub_one_eq_mod]
  exact ⟨aligned,or_eq_add aligned (Nat.mod_lt _ (Nat.two_pow_pos bits))⟩

theorem flip_ones_mod {bits : Nat} : flip (2 ^ bits - 1) % 2 ^ bits = 0 := by
  apply eq_of_testBit_eq
  intro i
  rw [testBit_mod_two_pow,testBit_flip_ones]
  simp
  omega

end Ktstr.Library.Words
