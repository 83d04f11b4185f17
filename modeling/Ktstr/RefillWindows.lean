import Ktstr.Library.Runs
import Ktstr.Library.Windows
import Ktstr.Source.Throttle

/-! A bucket's refills credit whole tokens and move the mark past the fraction they drop, so what a run of calls credits
is what its windows earn one by one. -/
namespace Ktstr.RefillWindows
open List Source.Throttle Library.Accrual Library.Machine Library.Runs Library.Windows TokenBucket Nat

def i64MaxNat : Nat := 9223372036854775807

def ceilingOf (bucket : TokenBucket) : Int := min (bucket.capacity : Int) i64Max

structure Ranged (bucket : TokenBucket) : Prop where
  limited : bucket.unlimited = false
  floor : i64Min ≤ bucket.available
  ceiling : bucket.available ≤ ceilingOf bucket

def span (bucket : TokenBucket) (now : Nat) : Nat := now - bucket.lastRefill

def tokens (bucket : TokenBucket) (now : Nat) : Nat := accrued nanosPerSec bucket.refillRate (span bucket now)

def spans (bucket : TokenBucket) (times : List Nat) : List Nat :=
  windows nanosPerSec bucket.refillRate bucket.lastRefill times

theorem tryI64_getD_eq (value : Nat) : (tryI64 value).getD i64Max = min (value : Int) i64Max := by
  unfold tryI64
  split
  · next fits => exact (min_eq_left fits).symm
  · next beyond => exact (min_eq_right (Int.le_of_lt (not_le.mp beyond))).symm

variable (bucket : TokenBucket) (now : Nat)

variable {bucket}

theorem refill_eq (ranged : Ranged bucket) : bucket.refill now =
      if bucket.refillRate * span bucket now % 2 ^ 128 / nanosPerSec = 0 then bucket
      else {bucket with
        available := min (bucket.available +
          (min (bucket.refillRate * span bucket now % 2 ^ 128 / nanosPerSec) i64MaxNat : Nat)) (ceilingOf bucket)
        lastRefill := now} := by
  rw [span]
  by_cases still : now - bucket.lastRefill = 0
  · rw [still,Nat.mul_zero,Nat.zero_mod,Nat.zero_div]
    simp [refill,still]
  simp only [refill,ranged.limited,Bool.false_eq_true,still,if_false]
  generalize bucket.refillRate * (now - bucket.lastRefill) % 2 ^ 128 / nanosPerSec = earned
  by_cases none : earned = 0
  · simp [none]
  · have some : ¬ min earned u64Max = 0 := by
      rw [u64Max]
      omega
    have add : min ((min earned u64Max : Nat) : Int) i64Max = ((min earned i64MaxNat : Nat) : Int) := by
      rw [u64Max,i64Max,i64MaxNat]
      omega
    have above : i64Min ≤ bucket.available + ((min earned i64MaxNat : Nat) : Int) := by
      have := ranged.floor
      omega
    rw [if_neg some,if_neg none,tryI64_getD_eq,tryI64_getD_eq,add,saturateI64_min above (min_le_right _ _),ceilingOf]

variable (bucket)

theorem wrapped_le : bucket.refillRate * span bucket now % 2 ^ 128 / nanosPerSec ≤ tokens bucket now :=
  Nat.div_le_div_right (Nat.mod_le _ _)

variable {bucket now}

theorem refill_quiet (ranged : Ranged bucket) (quiet : tokens bucket now = 0) : bucket.refill now = bucket := by
  rw [refill_eq now ranged,if_pos (le_zero.mp (quiet ▸ wrapped_le bucket now))]

theorem refill_found (ranged : Ranged bucket) (fits : bucket.refillRate * span bucket now < 2 ^ 128)
    (found : tokens bucket now ≠ 0) : bucket.refill now = {bucket with
      available := min (bucket.available + (min (tokens bucket now) i64MaxNat : Nat)) (ceilingOf bucket)
      lastRefill := now} := by
  rw [refill_eq now ranged,mod_eq_of_lt fits]
  exact if_neg found

variable (bucket now)

theorem Ranged.refill (ranged : Ranged bucket) : Ranged (bucket.refill now) := by
  rw [refill_eq now ranged]
  split
  · exact ranged
  · refine ⟨ranged.limited,?_,min_le_right _ _⟩
    exact le_min (ranged.floor.trans (Int.le_add_of_nonneg_right (Int.natCast_nonneg _))) (ranged.floor.trans ranged.ceiling)

theorem Ranged.refill_ge (ranged : Ranged bucket) : bucket.available ≤ (bucket.refill now).available := by
  rw [refill_eq now ranged]
  split
  · exact le_refl _
  · exact le_min (Int.le_add_of_nonneg_right (Int.natCast_nonneg _)) ranged.ceiling

variable (times : List Nat)

variable {times}

theorem refills_available (ranged : Ranged bucket)
    (fits : ∀ window ∈ spans bucket times, bucket.refillRate * window < 2 ^ 128) :
    (run refill bucket times).available =
      min (bucket.available + earned nanosPerSec bucket.refillRate i64MaxNat (spans bucket times)) (ceilingOf bucket) := by
  induction times generalizing bucket with
  | nil =>
    have := ranged.ceiling
    simp [spans,windows,earned,this]
  | cons now times ih =>
    rw [run_cons]
    by_cases quiet : tokens bucket now = 0
    · rw [refill_quiet ranged quiet]
      rw [spans,windows_quiet nanosPerSec bucket.refillRate bucket.lastRefill now times quiet] at fits ⊢
      split
      · next last =>
        have nothing : accrued nanosPerSec bucket.refillRate (now - bucket.lastRefill) = 0 := quiet
        have := ranged.ceiling
        simp [last,earned,nothing,this]
      · next more =>
        rw [if_neg more] at fits
        exact ih bucket ranged fits
    · rw [spans,windows_cut nanosPerSec bucket.refillRate bucket.lastRefill now times quiet] at fits ⊢
      obtain ⟨here,rest⟩ := forall_mem_cons.mp fits
      have after := ranged.refill bucket now
      rw [refill_found ranged here quiet] at after ⊢
      rw [ih _ after rest,earned_cons,tokens,span,Int.natCast_add]
      simp only [spans,ceilingOf]
      omega

/-! Against one refill at the last time -/

variable (times)

/-- Whole tokens from the bucket's mark to the last of the times. -/
def whole (bucket : TokenBucket) (times : List Nat) : Nat :=
  accrued nanosPerSec bucket.refillRate (times.getLastD bucket.lastRefill - bucket.lastRefill)

def credited (bucket : TokenBucket) (times : List Nat) : Int :=
  (run TokenBucket.refill bucket times).available - bucket.available

/-- The refills at the given times credit what one at the last of them is due, up to less than one token. -/
def KeepsTime (bucket : TokenBucket) (times : List Nat) : Prop :=
  (credited bucket times - whole bucket times).natAbs < 1

/-- No window earns more than a refill can add, the fractions dropped make less than one token, and the bucket can hold
what is due. -/
structure Unclipped (bucket : TokenBucket) (times : List Nat) : Prop where
  window : ∀ window ∈ spans bucket times, accrued nanosPerSec bucket.refillRate window ≤ i64MaxNat
  fraction : remainders nanosPerSec bucket.refillRate (spans bucket times) < nanosPerSec
  room : bucket.available + whole bucket times ≤ ceilingOf bucket

theorem whole_sum (ordered : (bucket.lastRefill::times).Pairwise (· ≤ ·)) :
    whole bucket times = accrued nanosPerSec bucket.refillRate (spans bucket times).sum := by
  rw [whole,spans,sum_windows _ _ _ _ ordered]

theorem earned_le_whole (ordered : (bucket.lastRefill::times).Pairwise (· ≤ ·)) :
    ((spans bucket times).map (accrued nanosPerSec bucket.refillRate)).sum ≤ whole bucket times := by
  rw [whole_sum bucket times ordered]
  generalize spans bucket times = windows
  induction windows with
  | nil => simp
  | cons window windows ih =>
    exact (Nat.add_le_add_left ih _).trans (accrued_add _ _ _ _)

theorem earned_of_small {rate : Nat} {windows : List Nat}
    (small : ∀ window ∈ windows, accrued nanosPerSec rate window ≤ i64MaxNat) :
    earned nanosPerSec rate i64MaxNat windows = (windows.map (accrued nanosPerSec rate)).sum := by
  rw [earned]
  congr 1
  exact map_congr_left fun window member => min_eq_left (small window member)

theorem fits_of_small {rate window : Nat} (small : accrued nanosPerSec rate window ≤ i64MaxNat) :
    rate * window < 2 ^ 128 := by
  rw [accrued,nanosPerSec,i64MaxNat] at small
  omega

theorem whole_cons (after : TokenBucket) (now : Nat) (times : List Nat)
    (ordered : (bucket.lastRefill::now::times).Pairwise (· ≤ ·)) (rate : after.refillRate = bucket.refillRate)
    (mark : after.lastRefill = now) : tokens bucket now + whole after times ≤ whole bucket (now::times) := by
  obtain ⟨above,later⟩ := pairwise_cons.mp ordered
  have first := above now mem_cons_self
  have last := le_getLastD now times (pairwise_cons.mp later).1
  rw [tokens,span,whole,whole,rate,mark,getLastD_cons]
  refine (accrued_add _ _ _ _).trans (le_of_eq ?_)
  congr 1
  omega

theorem whole_skip (next : Nat) (times : List Nat) :
    whole bucket (now::next::times) = whole bucket (next::times) := by
  rw [whole,whole,getLastD_cons,getLastD_cons,getLastD_cons]

theorem ordered_skip (mark now : Nat) (times : List Nat) (ordered : (mark::now::times).Pairwise (· ≤ ·)) :
    (mark::times).Pairwise (· ≤ ·) := by
  obtain ⟨above,later⟩ := pairwise_cons.mp ordered
  exact pairwise_cons.mpr ⟨fun other member => above other (mem_cons_of_mem _ member),later.of_cons⟩

theorem refill_bound (ranged : Ranged bucket) : bucket.refill now = bucket ∨
      (bucket.refill now).refillRate = bucket.refillRate ∧ (bucket.refill now).lastRefill = now ∧
      (bucket.refill now).available ≤ bucket.available + (min (tokens bucket now) i64MaxNat : Nat) := by
  rw [refill_eq now ranged]
  have := wrapped_le bucket now
  split
  · exact Or.inl rfl
  · refine Or.inr ⟨rfl,rfl,(min_le_left _ _).trans ?_⟩
    omega

theorem refills_le (ranged : Ranged bucket) (ordered : (bucket.lastRefill::times).Pairwise (· ≤ ·)) :
    (run refill bucket times).available ≤ bucket.available + whole bucket times := by
  induction times generalizing bucket with
  | nil => simp [whole]
  | cons now times ih =>
    rw [run_cons]
    have after := ranged.refill bucket now
    rcases refill_bound bucket now ranged with same | ⟨rate,mark,credit⟩
    · rw [same]
      have rest := ih bucket ranged (ordered_skip _ _ _ ordered)
      cases times with
      | nil =>
        simp only [run_nil]
        omega
      | cons next times => rwa [whole_skip]
    · have rest := ih _ after (by rw [mark]; exact ordered.of_cons)
      have due := whole_cons bucket _ now times ordered rate mark
      omega

theorem refills_lt_of_overflow (ranged : Ranged bucket) (ordered : (bucket.lastRefill::now::times).Pairwise (· ≤ ·))
    (beyond : 2 ^ 128 ≤ bucket.refillRate * span bucket now) :
    (run refill bucket (now::times)).available < bucket.available + whole bucket (now::times) := by
  have many : i64MaxNat < tokens bucket now := by
    rw [tokens,accrued,nanosPerSec,i64MaxNat]
    omega
  induction times generalizing now with
  | nil =>
    have due : whole bucket [now] = tokens bucket now := rfl
    rw [run_cons,run_nil]
    rcases refill_bound bucket now ranged with same | ⟨_,_,credit⟩
    · rw [same]
      omega
    · omega
  | cons next times ih =>
    rw [run_cons]
    rcases refill_bound bucket now ranged with same | ⟨rate,mark,credit⟩
    · have later : span bucket now ≤ span bucket next := by
        have := (pairwise_cons.mp ordered.of_cons).1 next mem_cons_self
        simp only [span]
        omega
      rw [same]
      exact ih next (ordered_skip _ _ _ ordered) (beyond.trans (mul_le_mul_left _ later))
        (many.trans_le (accrued_mono _ _ _ _ later))
    · have rest := refills_le _ (next::times) (ranged.refill bucket now) (by rw [mark]; exact ordered.of_cons)
      have due := whole_cons bucket _ now (next::times) ordered rate mark
      omega

theorem refills_lt_of_clipped (ranged : Ranged bucket) (ordered : (bucket.lastRefill::times).Pairwise (· ≤ ·))
    (clipped : ∃ window ∈ spans bucket times, i64MaxNat < accrued nanosPerSec bucket.refillRate window) :
    (run refill bucket times).available < bucket.available + whole bucket times := by
  induction times generalizing bucket with
  | nil => simp [spans,windows] at clipped
  | cons now times ih =>
    rcases lt_or_ge (bucket.refillRate * span bucket now) (2 ^ 128) with fits | beyond
    · obtain ⟨window,member,large⟩ := clipped
      by_cases quiet : tokens bucket now = 0
      · rw [spans,windows_quiet nanosPerSec bucket.refillRate bucket.lastRefill now times quiet] at member
        cases times with
        | nil =>
          have nothing : accrued nanosPerSec bucket.refillRate (now - bucket.lastRefill) = 0 := quiet
          rw [if_pos rfl,mem_singleton] at member
          rw [member,nothing] at large
          exact absurd large (not_lt_zero _)
        | cons next times =>
          rw [run_cons,refill_quiet ranged quiet]
          exact ih bucket ranged (ordered_skip _ _ _ ordered) ⟨window,member,large⟩
      · rw [spans,windows_cut nanosPerSec bucket.refillRate bucket.lastRefill now times quiet] at member
        have found := refill_found ranged fits quiet
        have after := ranged.refill bucket now
        have rate : (bucket.refill now).refillRate = bucket.refillRate := by rw [found]
        have mark : (bucket.refill now).lastRefill = now := by rw [found]
        have credit : (bucket.refill now).available ≤ bucket.available + (min (tokens bucket now) i64MaxNat : Nat) := by
          rw [found]
          exact min_le_left _ _
        have chain : ((bucket.refill now).lastRefill::times).Pairwise (· ≤ ·) := by
          rw [mark]
          exact ordered.of_cons
        have due := whole_cons bucket _ now times ordered rate mark
        rw [run_cons]
        rcases mem_cons.mp member with rfl | later
        · have rest := refills_le _ times after chain
          have here : i64MaxNat < tokens bucket now := large
          omega
        · have rest := ih _ after chain ⟨window,by rw [spans,rate,mark]; exact later,by rw [rate]; exact large⟩
          omega
    · exact refills_lt_of_overflow bucket now times ranged ordered beyond

/-- A run of refills keeps the time that passed exactly when nothing of it is clipped. -/
theorem refills_keep_time_iff (bucket : TokenBucket) (times : List Nat) (ranged : Ranged bucket)
    (ordered : (bucket.lastRefill::times).Pairwise (· ≤ ·)) : KeepsTime bucket times ↔ Unclipped bucket times := by
  have kept : KeepsTime bucket times ↔
      (run refill bucket times).available = bucket.available + whole bucket times := by
    rw [KeepsTime,credited]
    omega
  rw [kept]
  by_cases small : ∀ window ∈ spans bucket times, accrued nanosPerSec bucket.refillRate window ≤ i64MaxNat
  · have total := refills_available bucket ranged fun window member => fits_of_small (small window member)
    rw [earned_of_small small] at total
    have bound := earned_le_whole bucket times ordered
    have exact := earned_whole_iff nanosPerSec bucket.refillRate (by decide) (spans bucket times)
    rw [← whole_sum bucket times ordered] at exact
    rw [total]
    constructor
    · intro equal
      exact ⟨small,exact.mp (by omega),by omega⟩
    · rintro ⟨_,fraction,room⟩
      rw [exact.mpr fraction]
      exact min_eq_left room
  · push Not at small
    have lost := refills_lt_of_clipped bucket times ranged ordered small
    constructor
    · intro equal
      omega
    · intro unclipped
      obtain ⟨window,member,large⟩ := small
      exact absurd (unclipped.window window member) (not_le.mpr large)

def slowBucket : TokenBucket := ⟨10,1,0,0,false⟩

theorem ranged_slowBucket : Ranged slowBucket := ⟨rfl,by decide,by decide⟩

theorem whole_seconds_kept : KeepsTime slowBucket [2000000000,5000000000] :=
  (refills_keep_time_iff slowBucket _ ranged_slowBucket (by decide)).mpr ⟨by decide,by decide,by decide⟩

/-- Two calls, 1.9 seconds apart, each drop nine tenths of a token. -/
theorem tenths_of_seconds_lost :
    credited slowBucket [1900000000,3800000000] = 2 ∧ whole slowBucket [1900000000,3800000000] = 3 ∧
      ¬ KeepsTime slowBucket [1900000000,3800000000] := by
  rw [KeepsTime]
  decide

end Ktstr.RefillWindows
