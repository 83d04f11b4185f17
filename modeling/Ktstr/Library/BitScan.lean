import Mathlib.Data.List.Sort
import Mathlib.Data.Nat.Bitwise

/-! The set bits of a word, visited from the lowest on by clearing one after another. -/
namespace Ktstr.Library.BitScan
open List Nat

def trailingZeros (word : Nat) : Nat := ((List.range 64).find? word.testBit).getD 64

/-- The bits a scan with `word &= word - 1` visits, for at most the given number of rounds. -/
def setBits : Nat → Nat → List Nat
  | 0,_ => []
  | rounds + 1,word => if word = 0 then [] else trailingZeros word::setBits rounds (word &&& (word - 1))

theorem testBit_clear (i word : Nat) :
    (word &&& (word - 1)).testBit i ↔ word.testBit i ∧ ∃ j < i, word.testBit j := by
  induction i generalizing word with
  | zero =>
    rw [testBit_and,testBit_zero,testBit_zero]
    simp only [Bool.and_eq_true,decide_eq_true_eq,not_lt_zero,false_and,exists_false,and_false,iff_false]
    omega
  | succ i ih =>
    rw [testBit_and,testBit_succ,testBit_succ]
    rcases mod_two_eq_zero_or_one word with even | odd
    · have halved : (word - 1) / 2 = word / 2 - 1 := by omega
      rw [halved,← testBit_and,ih]
      refine and_congr_right fun _ => ⟨?_,?_⟩
      · rintro ⟨j,below,set⟩
        exact ⟨j + 1,by omega,by rwa [testBit_succ]⟩
      · rintro ⟨j,below,set⟩
        cases j with
        | zero => simp [even] at set
        | succ j => exact ⟨j,by omega,by rwa [testBit_succ] at set⟩
    · have halved : (word - 1) / 2 = word / 2 := by omega
      have lowest : ∃ j < i + 1, word.testBit j := ⟨0,by omega,by simp [odd]⟩
      rw [halved,Bool.and_self]
      exact (and_iff_left lowest).symm

theorem eq_zero_of_no_bits (word : Nat) (fits : word < 2 ^ 64)
    (none : (range 64).filter word.testBit = []) : word = 0 := by
  apply eq_of_testBit_eq
  intro i
  rw [zero_testBit]
  by_cases small : i < 64
  · have unset := filter_eq_nil_iff.mp none i (mem_range.mpr small)
    simpa using unset
  · exact Nat.testBit_eq_false_of_lt (fits.trans_le (Nat.pow_le_pow_right (by omega) (by omega)))

theorem filter_clear (word bit : Nat) (rest : List Nat) (bits : (range 64).filter word.testBit = bit::rest) :
    (range 64).filter (word &&& (word - 1)).testBit = rest := by
  have sorted := bits ▸ pairwise_lt_range.sublist filter_sublist
  have members (i : Nat) : i ∈ bit::rest ↔ i < 64 ∧ word.testBit i := by
    rw [← bits,mem_filter,mem_range]
  have split : (range 64).filter (word &&& (word - 1)).testBit = (bit::rest).filter fun i => bit < i := by
    rw [← bits,filter_filter]
    refine filter_congr fun i inside => ?_
    rw [Bool.eq_iff_iff,testBit_clear,Bool.and_eq_true,decide_eq_true_eq,and_comm]
    refine and_congr_left fun set => ⟨?_,?_⟩
    · rintro ⟨j,below,lower⟩
      have first := (members j).mpr ⟨by have := mem_range.mp inside; omega,lower⟩
      rcases mem_cons.mp first with rfl | later
      · exact below
      · exact ((pairwise_cons.mp sorted).1 j later).trans below
    · intro above
      exact ⟨bit,above,((members bit).mp mem_cons_self).2⟩
  rw [split,filter_cons_of_neg (by simp)]
  exact filter_eq_self.mpr fun i later => by simpa using (pairwise_cons.mp sorted).1 i later

theorem setBits_eq (bits : List Nat) (rounds word : Nat) (fits : word < 2 ^ 64)
    (set : (range 64).filter word.testBit = bits) (enough : bits.length ≤ rounds) : setBits rounds word = bits := by
  induction bits generalizing rounds word with
  | nil =>
    have zero := eq_zero_of_no_bits word fits set
    cases rounds with
    | zero => rfl
    | succ rounds => rw [setBits,if_pos zero]
  | cons bit rest ih =>
    obtain ⟨left,rfl⟩ : ∃ left, rounds = left + 1 := ⟨rounds - 1,by rw [length_cons] at enough; omega⟩
    have nonzero : word ≠ 0 := by
      rintro rfl
      have unset := mem_filter.mp (set ▸ mem_cons_self : bit ∈ (range 64).filter (testBit 0))
      exact absurd unset.2 (by rw [zero_testBit]; decide)
    have first : trailingZeros word = bit := by
      rw [trailingZeros,← head?_filter,set]
      rfl
    rw [setBits,if_neg nonzero,first,
      ih left _ (and_le_left.trans_lt fits) (filter_clear word bit rest set) (by simpa using enough)]

theorem setBits_64 {word : Nat} (fits : word < 2 ^ 64) : setBits 64 word = (range 64).filter word.testBit :=
  setBits_eq _ 64 word fits rfl ((length_filter_le _ _).trans_eq length_range)

end Ktstr.Library.BitScan
