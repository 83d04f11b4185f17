import Ktstr.BucketCalls
import Ktstr.RefillWindows

/-! When a retry after `nanos_until_n_tokens` is granted. The wait is sized for the deficit in one window; queries in
between cut that window, and one refill adds at most `i64::MAX`. -/
namespace Ktstr.RetryWait
open List Source.Throttle Library.Accrual Library.Machine Library.Runs Library.Windows RefillWindows BucketCalls
  TokenBucket Nat

inductive Query
  | refill
  | canConsume (n : Nat)
  | nanosUntilNTokens (need : Nat)
deriving DecidableEq

def ask (bucket : TokenBucket) (event : Nat × Query) : TokenBucket :=
  match event.2 with
  | .refill => bucket.refill event.1
  | .canConsume n => (bucket.canConsume event.1 n).1
  | .nanosUntilNTokens need => (bucket.nanosUntilNTokens event.1 need).1

def Query.reads : Query → Bool
  | .refill => true
  | .canConsume n => n != 0
  | .nanosUntilNTokens need => need != 0

def readings (queries : List (Nat × Query)) : List Nat :=
  (queries.filter fun query => query.2.reads).map Prod.fst

def ProductFits (bucket : TokenBucket) (now : Nat) : Prop := bucket.refillRate * span bucket now < 2 ^ 128

instance (bucket : TokenBucket) (now : Nat) : Decidable (ProductFits bucket now) := inferInstanceAs (Decidable (_ < _))

/-- No 128-bit operation of the calls leaves its range: the products of all refills, and the deficit of the wait with
its numerator. -/
structure NoOverflow (bucket : TokenBucket) (now need : Nat) (queries : List (Nat × Query)) (later : Nat) : Prop where
  first : ProductFits bucket now
  rest : Throughout TokenBucket.refill ProductFits (bucket.refill now) (readings queries ++ [later])
  deficit : -2 ^ 127 ≤ gate bucket need - (bucket.refill now).available ∧
    gate bucket need - (bucket.refill now).available < 2 ^ 127
  numerator : (gate bucket need - (bucket.refill now).available).toNat * nanosPerSec < 2 ^ 128

/-- A wait asked for at `now` is zero exactly when the request would be granted at once; once it is over, the request is
granted, whatever was queried in between; and nothing overflows. -/
structure RetryKept (bucket : TokenBucket) (now need : Nat) (queries : List (Nat × Query)) (later : Nat) : Prop where
  zero : (bucket.nanosUntilNTokens now need).2 = 0 ↔ (bucket.canConsume now need).2 = true
  granted : (bucket.nanosUntilNTokens now need).2 < u64Max → now + (bucket.nanosUntilNTokens now need).2 ≤ later →
    ((run ask (bucket.nanosUntilNTokens now need).1 queries).consume later need).2 = true
  exact : NoOverflow bucket now need queries later

/-! What is due, in terms of the bucket and the times of the calls -/

def balanceAt (bucket : TokenBucket) (now : Nat) : Int :=
  min (bucket.available + (min (tokens bucket now) i64MaxNat : Nat)) (ceilingOf bucket)

def markAt (bucket : TokenBucket) (now : Nat) : Nat := if tokens bucket now = 0 then bucket.lastRefill else now

def deficit (bucket : TokenBucket) (now need : Nat) : Int := gate bucket need - balanceAt bucket now

def waitFor (bucket : TokenBucket) (now need : Nat) : Nat :=
  ((deficit bucket now need).toNat * nanosPerSec + bucket.refillRate - 1) / bucket.refillRate

def waited (bucket : TokenBucket) (now : Nat) (queries : List (Nat × Query)) (later : Nat) : List Nat :=
  windows nanosPerSec bucket.refillRate (markAt bucket now) (readings queries ++ [later])

/-- All products fit, and a retry that is due finds the deficit in the windows up to it, each counted as far as one refill
can add. -/
structure Sufficient (bucket : TokenBucket) (now need : Nat) (queries : List (Nat × Query)) (later : Nat) : Prop where
  first : ProductFits bucket now
  rest : ∀ window ∈ waited bucket now queries later, bucket.refillRate * window < 2 ^ 128
  made : 0 < deficit bucket now need → waitFor bucket now need < u64Max → now + waitFor bucket now need ≤ later →
    deficit bucket now need ≤ earned nanosPerSec bucket.refillRate i64MaxNat (waited bucket now queries later)

variable (bucket : TokenBucket)

theorem ask_eq {event : Nat × Query} (limited : bucket.unlimited = false) :
    ask bucket event = if event.2.reads then bucket.refill event.1 else bucket := by
  obtain ⟨now,query⟩ := event
  cases query with
  | refill => rfl
  | canConsume n =>
    by_cases none : n = 0
    · simp [ask,Query.reads,canConsume,none]
    · simp [ask,Query.reads,canConsume_eq now n limited none,none]
  | nanosUntilNTokens need =>
    by_cases none : need = 0
    · simp [ask,Query.reads,nanosUntilNTokens,none]
    · simp [ask,Query.reads,nanos_eq now need limited none,none]

theorem run_ask (queries : List (Nat × Query)) (limited : bucket.unlimited = false) :
    run ask bucket queries = run refill bucket (readings queries) := by
  induction queries generalizing bucket with
  | nil => rfl
  | cons query queries ih =>
    rw [run_cons,ask_eq bucket limited,readings,filter_cons]
    split
    · rw [ih _ ((refill_fields bucket query.1).1.trans limited),map_cons]
      rfl
    · exact ih bucket limited

theorem throughout_fits_iff {times : List Nat} (ranged : Ranged bucket) :
    Throughout refill ProductFits bucket times ↔
      ∀ window ∈ spans bucket times, bucket.refillRate * window < 2 ^ 128 := by
  induction times generalizing bucket with
  | nil => simp [Throughout,spans,windows]
  | cons now times ih =>
    by_cases quiet : tokens bucket now = 0
    · have fits : ProductFits bucket now := fits_of_small ((le_of_eq quiet).trans (zero_le _))
      rw [Throughout,refill_quiet ranged quiet,ih bucket ranged,spans,spans,
        windows_quiet nanosPerSec bucket.refillRate bucket.lastRefill now times quiet]
      cases times with
      | nil => simp [windows,ProductFits,RefillWindows.span]
      | cons next times =>
        exact and_iff_right fits
    · rw [Throughout,spans,windows_cut nanosPerSec bucket.refillRate bucket.lastRefill now times quiet,
        forall_mem_cons]
      refine and_congr_right fun fits => ?_
      have after := ranged.refill bucket now
      rw [ih _ after]
      rw [refill_found ranged fits quiet]
      rfl

variable (now : Nat)

theorem refilled (ranged : Ranged bucket) (fits : ProductFits bucket now) :
    bucket.refill now = {bucket with available := balanceAt bucket now,lastRefill := markAt bucket now} := by
  by_cases quiet : tokens bucket now = 0
  · have same : balanceAt bucket now = bucket.available := by
      rw [balanceAt,quiet]
      simp [ranged.ceiling]
    rw [refill_quiet ranged quiet,same,markAt,if_pos quiet]
  · rw [refill_found ranged fits quiet,markAt,if_neg quiet,balanceAt]

variable (need : Nat)

theorem waitFor_pos (rate : 0 < bucket.refillRate) (lacking : 0 < deficit bucket now need) :
    0 < waitFor bucket now need := by
  rw [waitFor,nanosPerSec]
  exact div_pos (by omega) rate

theorem gate_le (fits : (need : Int) ≤ i64Max) : gate bucket need ≤ ceilingOf bucket := by
  rw [gate,ceilingOf]
  split
  · rw [i64Max]
    omega
  · omega

theorem run_capacity (times : List Nat) : (run refill bucket times).capacity = bucket.capacity ∧
      (run refill bucket times).unlimited = bucket.unlimited := by
  refine run_invariant refill (fun state => state.capacity = bucket.capacity ∧
    state.unlimited = bucket.unlimited) ?_ bucket times ⟨rfl,rfl⟩
  intro state now kept
  obtain ⟨limited,capacity,_⟩ := refill_fields state now
  exact ⟨capacity.trans kept.1,limited.trans kept.2⟩

theorem retry_granted_iff (queries : List (Nat × Query)) (later : Nat) (ranged : Ranged bucket)
    (asks : need ≠ 0) (signed : (need : Int) ≤ i64Max) (fits : ProductFits bucket now)
    (rest : ∀ window ∈ waited bucket now queries later, bucket.refillRate * window < 2 ^ 128) :
    ((run ask (bucket.refill now) queries).consume later need).2 ↔
      deficit bucket now need ≤ earned nanosPerSec bucket.refillRate i64MaxNat (waited bucket now queries later) := by
  have after := ranged.refill bucket now
  have shape := refilled bucket now ranged fits
  obtain ⟨capacity,limited⟩ := run_capacity (bucket.refill now) (readings queries)
  have gates : gate (run refill (bucket.refill now) (readings queries)) need = gate bucket need := by
    rw [gate,capacity,(refill_fields bucket now).2.1,gate]
  have refilledLater : (run refill (bucket.refill now) (readings queries)).refill later =
      run refill (bucket.refill now) (readings queries ++ [later]) := by
    rw [run_append]
    rfl
  have available := refills_available (bucket.refill now) after
    (by rw [shape]; exact rest)
  rw [run_ask _ _ after.limited,consume_granted later need (limited.trans after.limited) asks signed,gates,refilledLater,
    available,spans,shape,le_min_iff]
  have ceiling := gate_le bucket need signed
  simp only [deficit,waited,ceilingOf] at *
  omega

/-- For every limited bucket, request, queries in between and time of the retry, the wait is right exactly when the
windows suffice. -/
theorem retry_kept_iff (bucket : TokenBucket) (now need : Nat) (queries : List (Nat × Query)) (later : Nat)
    (ranged : Ranged bucket) (rate : 0 < bucket.refillRate) (asks : 1 ≤ need) (signed : (need : Int) ≤ i64Max) :
    RetryKept bucket now need queries later ↔ Sufficient bucket now need queries later := by
  have nonzero : need ≠ 0 := by omega
  by_cases fits : ProductFits bucket now
  · have after := ranged.refill bucket now
    have shape := refilled bucket now ranged fits
    have lacking : gate bucket need - (bucket.refill now).available = deficit bucket now need := by rw [shape,deficit]
    have paid : gate bucket need ≤ (bucket.refill now).available ↔ deficit bucket now need ≤ 0 := by omega
    have products : Throughout refill ProductFits (bucket.refill now) (readings queries ++ [later]) ↔
        ∀ window ∈ waited bucket now queries later, bucket.refillRate * window < 2 ^ 128 := by
      rw [throughout_fits_iff _ after,spans,shape,waited]
    have wait : bucket.nanosUntilNTokens now need = (bucket.refill now,
        if deficit bucket now need ≤ 0 then 0 else min (waitFor bucket now need) u64Max) := by
      rw [nanos_eq now need ranged.limited nonzero,lacking,← waitFor]
      simp only [paid]
    have zero : (bucket.nanosUntilNTokens now need).2 = 0 ↔ (bucket.canConsume now need).2 := by
      rw [wait,canConsume_granted now need ranged.limited nonzero signed]
      have positive := waitFor_pos bucket now need rate
      simp only [u64Max]
      split <;> omega
    have granted := retry_granted_iff bucket now need queries later ranged nonzero signed fits
    constructor
    · rintro ⟨_,kept,exact⟩
      have rest := products.mp exact.rest
      refine ⟨fits,rest,fun owing timely due => (granted rest).mp ?_⟩
      rw [wait,if_neg (not_le.mpr owing),min_eq_left timely.le] at kept
      exact kept timely due
    · rintro ⟨_,rest,made⟩
      have low := after.floor
      have high := after.ceiling.trans (min_le_right _ _)
      have sized : 0 ≤ gate bucket need ∧ gate bucket need ≤ i64Max := by
        rw [gate]
        split
        · exact ⟨Int.le_refl 0,by decide⟩
        · exact ⟨Int.natCast_nonneg need,signed⟩
      refine ⟨zero,?_,⟨fits,products.mpr rest,?_,?_⟩⟩
      · intro timely due
        rw [wait] at timely due ⊢
        refine (granted rest).mpr ?_
        by_cases owing : deficit bucket now need ≤ 0
        · omega
        · simp only [if_neg owing] at timely due
          have exactly : min (waitFor bucket now need) u64Max = waitFor bucket now need := by omega
          rw [exactly] at timely due
          exact made (not_le.mp owing) timely due
      · rw [i64Min,i64Max] at *
        omega
      · rw [i64Min,i64Max] at *
        rw [nanosPerSec]
        omega
  · exact ⟨fun kept => absurd kept.exact.first fits,fun sufficient => absurd sufficient.first fits⟩

theorem sufficient_undisturbed {later : Nat} (rate : 0 < bucket.refillRate) (started : bucket.lastRefill ≤ now)
    (first : ProductFits bucket now) (second : bucket.refillRate * (later - markAt bucket now) < 2 ^ 128)
    (small : deficit bucket now need ≤ i64MaxNat) : Sufficient bucket now need [] later := by
  have single : waited bucket now [] later = [later - markAt bucket now] := by simp [waited,readings,windows]
  refine ⟨first,by simpa [single] using second,?_⟩
  intro owing _ due
  have marked : markAt bucket now ≤ now := by
    rw [markAt]
    split
    · exact started
    · exact le_refl now
  -- The wait is rounded up, so the tokens that accrue in it are not fewer than the deficit.
  have enough : (deficit bucket now need).toNat * nanosPerSec ≤ bucket.refillRate * waitFor bucket now need := by
    have rounded := lt_mul_div_succ ((deficit bucket now need).toNat * nanosPerSec + bucket.refillRate - 1) rate
    rw [← waitFor,mul_succ] at rounded
    omega
  have longer := mul_le_mul_left bucket.refillRate
    (show waitFor bucket now need ≤ later - markAt bucket now by omega)
  have accrues : (deficit bucket now need).toNat ≤ accrued nanosPerSec bucket.refillRate (later - markAt bucket now) :=
    (le_div_iff_mul_le (by decide)).mpr (enough.trans longer)
  rw [single,earned_cons,earned,map_nil,sum_nil]
  omega

def steadyBucket : TokenBucket := ⟨10,1,0,0,false⟩

def deepDebt : TokenBucket := ⟨1,1000000000,-9223372036854775807,0,false⟩

theorem steady_retry_kept : RetryKept steadyBucket 500000000 2 [] 2500000000 :=
  (retry_kept_iff steadyBucket 500000000 2 [] 2500000000 ⟨rfl,by decide,by decide⟩ (by decide) (by decide) (by decide)).mpr
    (sufficient_undisturbed steadyBucket 500000000 2 (by decide) (by decide) (by decide) (by decide) (by decide))

/-- From the deepest debt one refill cannot add the deficit, and a query shortly before the retry drops the fraction that
the wait counted on. -/
theorem retry_refused :
    (deepDebt.nanosUntilNTokens 0 1).2 = 9223372036854775808 ∧
      ((deepDebt.nanosUntilNTokens 0 1).1.consume 9223372036854775808 1).2 = false ∧
      ¬ RetryKept deepDebt 0 1 [] 9223372036854775808 ∧
      ¬ RetryKept steadyBucket 0 2 [(1900000000,.canConsume 2)] 2000000000 := by
  refine ⟨by decide,by decide,?_,?_⟩
  · intro kept
    exact absurd (kept.granted (by decide) (by decide)) (by decide)
  · intro kept
    exact absurd (kept.granted (by decide) (by decide)) (by decide)

end Ktstr.RetryWait
