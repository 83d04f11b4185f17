import Ktstr.Source.Throttle

/-! One equation for each call on a limited bucket: a refill, and an answer read off the refilled balance. -/
namespace Ktstr.BucketCalls
open Source.Throttle Library.Machine TokenBucket

def gate (bucket : TokenBucket) (need : Nat) : Int := if need > bucket.capacity then 0 else need

variable (bucket : TokenBucket) (now n : Nat)

variable {bucket}

theorem canConsume_eq (limited : bucket.unlimited = false) (asks : n ≠ 0) : bucket.canConsume now n =
      (bucket.refill now,match tryI64 n with | none => false | some signed => (bucket.refill now).affords n signed) := by
  simp only [canConsume,limited,asks]
  cases tryI64 n <;> rfl

variable (bucket)

theorem refill_fields :
    (bucket.refill now).unlimited = bucket.unlimited ∧ (bucket.refill now).capacity = bucket.capacity ∧
      (bucket.refill now).refillRate = bucket.refillRate := by
  simp only [refill]
  split
  · exact ⟨rfl,rfl,rfl⟩
  · split
    · exact ⟨rfl,rfl,rfl⟩
    · split <;> exact ⟨rfl,rfl,rfl⟩

variable (need : Nat)

variable {bucket}

theorem nanos_eq (limited : bucket.unlimited = false) (asks : need ≠ 0) :
    bucket.nanosUntilNTokens now need = (bucket.refill now,
      if (bucket.refill now).available ≥ gate bucket need then 0
      else min (((gate bucket need - (bucket.refill now).available).toNat * nanosPerSec + bucket.refillRate - 1) /
        bucket.refillRate) u64Max) := by
  obtain ⟨_,capacity,rate⟩ := refill_fields bucket now
  have asked : ¬ (bucket.unlimited ∨ need = 0) := by simp [limited,asks]
  simp only [nanosUntilNTokens,if_neg asked,capacity,rate,gate]
  split
  · split
    · rfl
    · rw [Int.zero_sub]
  · split <;> rfl

theorem consume_eq (limited : bucket.unlimited = false) (asks : n ≠ 0) (fits : (n : Int) ≤ i64Max) :
    bucket.consume now n =
      if gate bucket n ≤ (bucket.refill now).available then
        ({bucket.refill now with available := saturateI64 ((bucket.refill now).available - n)},true)
      else (bucket.refill now,false) := by
  obtain ⟨_,capacity,_⟩ := refill_fields bucket now
  simp only [consume,limited,Bool.false_eq_true,asks,if_false,tryI64,if_pos fits,affords,capacity,gate]
  split <;> simp only [decide_eq_true_eq]

theorem consume_granted (limited : bucket.unlimited = false) (asks : need ≠ 0) (fits : (need : Int) ≤ i64Max) :
    (bucket.consume now need).2 ↔ gate bucket need ≤ (bucket.refill now).available := by
  rw [consume_eq now need limited asks fits]
  split <;> simp [*]

theorem canConsume_signed (limited : bucket.unlimited = false) (asks : n ≠ 0)
    (can : (bucket.canConsume now n).2) : (n : Int) ≤ i64Max := by
  by_contra beyond
  rw [canConsume_eq now n limited asks,tryI64,if_neg beyond] at can
  cases can

theorem canConsume_granted (limited : bucket.unlimited = false) (asks : need ≠ 0) (fits : (need : Int) ≤ i64Max) :
    (bucket.canConsume now need).2 ↔ gate bucket need ≤ (bucket.refill now).available := by
  obtain ⟨_,capacity,_⟩ := refill_fields bucket now
  simp only [canConsume_eq now need limited asks,tryI64,if_pos fits,affords,capacity,gate]
  split <;> simp

end Ktstr.BucketCalls
