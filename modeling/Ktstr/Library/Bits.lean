import Mathlib.Data.BitVec

/-! Bit sets in a machine word: covering, growing and single-bit masks. -/
namespace Ktstr.Library.Bits
open BitVec

variable {w : Nat}

theorem eq_or_of_covers {word base : BitVec w} (covers : word &&& base = base) :
    word = base ||| (word &&& ~~~base) := by
  ext i inside
  have bit := congrArg (fun v : BitVec w => v.getLsbD i) covers
  simp only [getLsbD_and] at bit
  cases one : word.getLsbD i <;> cases two : base.getLsbD i <;> simp_all

theorem and_or_self {base more : BitVec w} : base &&& (base ||| more) = base := by
  ext i inside
  simp only [getElem_or,getElem_and]
  cases base[i] <;> simp

theorem and_twoPow_ne_zero (word : BitVec w) (i : Nat) (inside : i < w) :
    word &&& twoPow w i ≠ 0#w ↔ word.getLsbD i := by
  rw [and_twoPow]
  cases set : word.getLsbD i with
  | false => simp
  | true =>
    have nonzero : twoPow w i ≠ 0#w := by
      intro zero
      have bit := congrArg (fun v : BitVec w => v.getLsbD i) zero
      simp [inside] at bit
    simpa using nonzero

end Ktstr.Library.Bits
