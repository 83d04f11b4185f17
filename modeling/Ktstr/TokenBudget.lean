import Ktstr.Library.Accrual
import Ktstr.Library.Runs
import Ktstr.Source.Throttle

/-! Every call on a limited bucket is a few steps of an accruing ledger, so no run of
calls is granted more than the capacity and the accrual, one oversized grant apart. -/
namespace Ktstr.TokenBudget
open Source.Throttle Library.Accrual Library.Machine Library.Runs

inductive Call
  | consume (n : Nat)
  | canConsume (n : Nat)
  | nanosUntilNTokens (need : Nat)
deriving DecidableEq

/-- A bucket, the time, and the tokens it has granted so far; a request for no
tokens is answered without touching the bucket and is not a grant. -/
structure Metered where
  bucket : TokenBucket
  now : Nat
  granted : Nat
  lastGrant : Nat

def Metered.wait (self : Metered) (span : Nat) : Metered := {self with now := self.now + span}

def Metered.perform (self : Metered) : Call → Metered
  | .consume n =>
    let (bucket,ok) := self.bucket.consume self.now n
    if ok ∧ n ≠ 0 then {self with bucket := bucket,granted := self.granted + n,lastGrant := n}
    else {self with bucket := bucket}
  | .canConsume n => {self with bucket := (self.bucket.canConsume self.now n).1}
  | .nanosUntilNTokens need => {self with bucket := (self.bucket.nanosUntilNTokens self.now need).1}

def Metered.call (self : Metered) (event : Nat × Call) : Metered := (self.wait event.1).perform event.2

def Metered.new (cap rate start : Nat) : Metered := ⟨.new cap rate start,start,0,0⟩

def Metered.ledger (self : Metered) : Ledger :=
  ⟨self.bucket.available,self.bucket.lastRefill,self.now,self.granted,self.lastGrant⟩

structure Metered.Good (cap rate start : Nat) (meter : Metered) : Prop where
  capacity : meter.bucket.capacity = cap
  refillRate : meter.bucket.refillRate = rate
  limited : meter.bucket.unlimited = false
  floor : -i64Max ≤ meter.bucket.available
  ceiling : meter.bucket.available ≤ i64Max
  sound : Sound cap nanosPerSec rate start meter.ledger

theorem tryI64_getD (value : Nat) :
    0 ≤ (tryI64 value).getD i64Max ∧ (tryI64 value).getD i64Max ≤ value ∧ (tryI64 value).getD i64Max ≤ i64Max := by
  unfold tryI64
  split <;> simp [i64Max] at * <;> omega

variable (bucket : TokenBucket) (now : Nat)

theorem refill_cases (floor : -i64Max ≤ bucket.available) : bucket.refill now = bucket ∨
      ∃ balance amount, bucket.refill now = {bucket with available := balance,lastRefill := now} ∧
        amount ≤ accrued nanosPerSec bucket.refillRate (now - bucket.lastRefill) ∧
        balance ≤ bucket.capacity ∧ balance ≤ bucket.available + amount ∧
        -i64Max ≤ balance ∧ balance ≤ i64Max := by
  by_cases unlimited : bucket.unlimited
  · simp [TokenBucket.refill,unlimited]
  by_cases still : now - bucket.lastRefill = 0
  · simp [TokenBucket.refill,still]
  by_cases none : min (bucket.refillRate * (now - bucket.lastRefill) % 2 ^ 128 / nanosPerSec) u64Max = 0
  · simp only [TokenBucket.refill,none]
    simp
  right
  have earned : min (bucket.refillRate * (now - bucket.lastRefill) % 2 ^ 128 / nanosPerSec) u64Max ≤
      accrued nanosPerSec bucket.refillRate (now - bucket.lastRefill) :=
    (Nat.min_le_left _ _).trans (Nat.div_le_div_right (Nat.mod_le _ _))
  simp only [TokenBucket.refill,unlimited,still,none]
  generalize min (bucket.refillRate * (now - bucket.lastRefill) % 2 ^ 128 / nanosPerSec) u64Max = tokens at *
  obtain ⟨addLow,addHigh,_⟩ := tryI64_getD tokens
  obtain ⟨capLow,capHigh,capFits⟩ := tryI64_getD bucket.capacity
  have above : i64Min ≤ bucket.available + (tryI64 tokens).getD i64Max := by
    simp only [i64Min,i64Max] at *
    omega
  rw [saturateI64_min above capFits]
  refine ⟨_,tokens,rfl,earned,?_,?_,?_,(min_le_right _ _).trans capFits⟩
  · exact (min_le_right _ _).trans capHigh
  · exact (min_le_left _ _).trans (by omega)
  · exact le_min (by omega) (by simp only [i64Max] at *; omega)

variable (cap rate start : Nat) (self : Metered)

theorem Metered.refill_good (good : self.Good cap rate start) :
    Good cap rate start {self with bucket := self.bucket.refill self.now} := by
  obtain ⟨capacity,refillRate,limited,floor,ceiling,sound⟩ := good
  rcases refill_cases self.bucket self.now floor with
    same | ⟨balance,amount,moved,earned,capped,credited,above,below⟩
  · rw [same]
    exact ⟨capacity,refillRate,limited,floor,ceiling,sound⟩
  · rw [moved]
    rw [refillRate] at earned
    rw [capacity] at capped
    exact ⟨capacity,refillRate,limited,above,below,Step.sound _ _ _ _ _ _
      (Step.credit self.ledger amount earned balance capped credited) sound⟩

theorem Metered.wait_good (span : Nat) (self : Metered) (good : self.Good cap rate start) :
    (self.wait span).Good cap rate start :=
  ⟨good.capacity,good.refillRate,good.limited,good.floor,good.ceiling,
    Step.sound _ _ _ _ _ _ (Step.wait self.ledger span) good.sound⟩

theorem consume_cases (n : Nat) (limited : bucket.unlimited = false) :
    bucket.consume now n = (bucket,true) ∧ n = 0 ∨
      bucket.consume now n = (bucket.refill now,false) ∨
      n ≠ 0 ∧ 0 ≤ (bucket.refill now).available ∧
        (n ≤ (bucket.refill now).capacity → (n : Int) ≤ (bucket.refill now).available) ∧
        (n : Int) ≤ i64Max ∧ bucket.consume now n =
          ({bucket.refill now with available := saturateI64 ((bucket.refill now).available - n)},true) := by
  by_cases zero : n = 0
  · simp [TokenBucket.consume,zero]
  right
  simp only [TokenBucket.consume,limited,zero,if_false,Bool.false_eq_true,tryI64]
  by_cases fits : (n : Int) ≤ i64Max
  · rw [if_pos fits]
    by_cases affords : (bucket.refill now).affords n n
    · right
      simp only [affords,if_true]
      unfold TokenBucket.affords at affords
      split at affords <;> simp at affords <;> exact ⟨zero,by omega,by omega,fits,trivial⟩
    · left
      simp only [affords,if_false,Bool.false_eq_true]
  · left
    rw [if_neg fits]

theorem Metered.consume_good (n : Nat) (self : Metered) (good : self.Good cap rate start) :
    (self.perform (.consume n)).Good cap rate start := by
  have refilled := self.refill_good cap rate start good
  rcases consume_cases self.bucket self.now n good.limited with
    ⟨taken,zero⟩ | taken | ⟨some,solvent,covered,fits,taken⟩
  · subst zero
    simp only [perform,taken,ne_eq,not_true_eq_false,and_false,if_false]
    exact good
  · simpa [perform,taken] using refilled
  · have ceiling := refilled.ceiling
    have debited : saturateI64 ((self.bucket.refill self.now).available - n) =
        (self.bucket.refill self.now).available - n := by
      apply saturateI64_of_range
      · simp only [i64Min,i64Max] at *
        omega
      · simp only [i64Max] at *
        omega
    simp only [perform,taken,debited,some,ne_eq,not_false_eq_true,and_self,if_true]
    refine ⟨refilled.capacity,refilled.refillRate,refilled.limited,?_,?_,Step.sound _ _ _ _ _ _
      (Step.spend _ n solvent ?_) refilled.sound⟩
    · simp only
      omega
    · simp only at ceiling ⊢
      omega
    · intro small
      exact covered (small.trans_eq refilled.capacity.symm)

theorem le_tryI64_getD {value : Nat} {balance : Int} (within : balance ≤ value) (fits : balance ≤ i64Max) :
    balance ≤ (tryI64 value).getD i64Max := by
  unfold tryI64
  split
  · exact within
  · exact fits

theorem refill_ge (floor : -i64Max ≤ bucket.available) (ceiling : bucket.available ≤ i64Max)
    (capped : bucket.available ≤ bucket.capacity) : bucket.available ≤ (bucket.refill now).available := by
  have within := le_tryI64_getD capped ceiling
  unfold TokenBucket.refill
  split
  · exact le_rfl
  dsimp only
  split
  · exact le_rfl
  split
  · exact le_rfl
  obtain ⟨addLow,_,_⟩ :=
    tryI64_getD (min (bucket.refillRate * (now - bucket.lastRefill) % 2 ^ 128 / nanosPerSec) u64Max)
  obtain ⟨_,_,capFits⟩ := tryI64_getD bucket.capacity
  rw [saturateI64_min (by simp only [i64Min,i64Max] at *; omega) capFits]
  exact le_min (by omega) within

theorem affords_mono {first second : TokenBucket} {n : Nat} {signed : Int}
    (capacity : second.capacity = first.capacity) (more : first.available ≤ second.available)
    (affords : first.affords n signed) : second.affords n signed := by
  unfold TokenBucket.affords at *
  rw [capacity]
  split at affords
  · rename_i beyond
    rw [if_pos beyond]
    exact decide_eq_true ((of_decide_eq_true affords).le.trans more)
  · rename_i within
    rw [if_neg within]
    exact decide_eq_true ((of_decide_eq_true affords).le.trans more)

theorem refill_capacity :
    (bucket.refill now).capacity = bucket.capacity ∧ (bucket.refill now).unlimited = bucket.unlimited := by
  unfold TokenBucket.refill
  split
  · exact ⟨rfl,rfl⟩
  dsimp only
  split
  · exact ⟨rfl,rfl⟩
  split
  · exact ⟨rfl,rfl⟩
  · exact ⟨rfl,rfl⟩

theorem consume_after_canConsume {span n : Nat} {self : Metered} (good : self.Good cap rate start)
    (ok : (self.bucket.canConsume self.now n).2) :
    ((self.perform (.canConsume n)).bucket.consume (self.now + span) n).2 := by
  by_cases zero : n = 0
  · simp [TokenBucket.consume,zero]
  have refilled := self.refill_good cap rate start good
  simp only [TokenBucket.canConsume,good.limited,zero] at ok
  simp only [Metered.perform,TokenBucket.canConsume,good.limited,zero]
  cases fits : tryI64 n with
  | none => simp [fits] at ok
  | some signed =>
    simp only [fits] at ok ⊢
    have limited : (self.bucket.refill self.now).unlimited = false := refilled.limited
    have grown := refill_ge (self.bucket.refill self.now) (self.now + span) refilled.floor refilled.ceiling
      (refilled.sound.capped.trans_eq (by rw [refilled.capacity]))
    have affords := affords_mono
      (refill_capacity _ _).1 grown ok
    simp [TokenBucket.consume,limited,zero,fits,affords]

theorem Metered.perform_good (call : Call) (good : self.Good cap rate start) :
    (self.perform call).Good cap rate start := by
  have refilled := self.refill_good cap rate start good
  cases call with
  | consume n => exact self.consume_good cap rate start n good
  | canConsume n =>
    simp only [perform,TokenBucket.canConsume,good.limited,Bool.false_eq_true,if_false]
    split
    · exact good
    · split
      · exact refilled
      · exact refilled
  | nanosUntilNTokens need =>
    simp only [perform,TokenBucket.nanosUntilNTokens,good.limited,Bool.false_eq_true,false_or]
    split
    · exact good
    · split
      · split
        · exact refilled
        · exact refilled
      · split
        · exact refilled
        · exact refilled

theorem Metered.new_good (capPos : 0 < cap) (ratePos : 0 < rate) :
    (Metered.new cap rate start).Good cap rate start := by
  obtain ⟨low,high,fits⟩ := tryI64_getD cap
  have built : TokenBucket.new cap rate start = ⟨cap,rate,(tryI64 cap).getD i64Max,start,false⟩ := by
    rw [TokenBucket.new,if_neg (by omega)]
  rw [Metered.new,built]
  exact ⟨rfl,rfl,rfl,by simp only [i64Max] at *; omega,fits,Sound.opening cap nanosPerSec rate start _ high⟩

def Metered.after (cap rate start : Nat) (calls : List (Nat × Call)) : Metered :=
  run Metered.call (.new cap rate start) calls

/-- Every call of every run: balance and grants together are within the capacity and
the accrual, and the grants alone exceed it by at most the last grant, if that one
was over the capacity. -/
theorem granted_le_cap_add_accrual (cap rate start : Nat) (capPos : 0 < cap) (ratePos : 0 < rate)
    (calls : List (Nat × Call)) :
    (Metered.after cap rate start calls).bucket.available +
        (Metered.after cap rate start calls).granted ≤
      cap + (rate * ((Metered.after cap rate start calls).now - start) / nanosPerSec : Nat) ∧
    (Metered.after cap rate start calls).bucket.available ≤ cap ∧
    (Metered.after cap rate start calls).granted ≤
      cap + rate * ((Metered.after cap rate start calls).now - start) / nanosPerSec +
        if (Metered.after cap rate start calls).lastGrant > cap then
          (Metered.after cap rate start calls).lastGrant else 0 := by
  have kept : ∀ meter event, Metered.Good cap rate start meter → (Metered.call meter event).Good cap rate start := by
    intro meter event good
    exact Metered.perform_good cap rate start _ _ (meter.wait_good cap rate start event.1 good)
  have good := run_invariant Metered.call (Metered.Good cap rate start) kept _ calls
    (Metered.new_good cap rate start capPos ratePos)
  change (Metered.after cap rate start calls).Good cap rate start at good
  generalize Metered.after cap rate start calls = final at *
  refine ⟨?_,good.sound.capped,good.sound.total⟩
  have later := accrued_mono nanosPerSec rate (final.bucket.lastRefill - start) (final.now - start)
    (Nat.sub_le_sub_right good.sound.ordered start)
  exact good.sound.funded.trans (by simp only [accrued,Metered.ledger] at *; omega)

theorem granted_after_oversized_grant :
    (Metered.after 2 3 0 [(0,.consume 7),(1000000000,.canConsume 1),(2000000000,.consume 2)]).granted = 9 ∧
      9 ≤ 2 + 3 * 3000000000 / nanosPerSec + 0 := by
  have bound := granted_le_cap_add_accrual 2 3 0 (by decide) (by decide)
    [(0,.consume 7),(1000000000,.canConsume 1),(2000000000,.consume 2)]
  have granted : (Metered.after 2 3 0 [(0,.consume 7),(1000000000,.canConsume 1),(2000000000,.consume 2)]).granted = 9 := by decide
  exact ⟨granted,granted ▸ bound.2.2⟩

end Ktstr.TokenBudget
