import Mathlib.Data.List.Infix

/-! Runs of consecutive hits in a sequence of flags, and the counter that detects them
in one pass. -/
namespace Ktstr.Library.Streaks
open List

def Streak (k : Nat) (flags : List Bool) : Prop := List.replicate k true <:+: flags

instance (k : Nat) (flags : List Bool) : Decidable (Streak k flags) :=
  inferInstanceAs (Decidable (List.replicate k true <:+: flags))

theorem streak_iff {k : Nat} (pos : 0 < k) (flags : List Bool) :
    Streak k flags ↔ ∃ first, ∀ offset, offset < k → flags[first + offset]? = some true := by
  rw [Streak,infix_iff_getElem?]
  simp only [length_replicate,getElem_replicate]
  constructor
  · rintro ⟨first,_,hits⟩
    exact ⟨first,fun offset inside => by rw [Nat.add_comm]; exact hits offset inside⟩
  · rintro ⟨first,hits⟩
    refine ⟨first,?_,fun offset inside => by rw [Nat.add_comm]; exact hits offset inside⟩
    have last := hits (k - 1) (by omega)
    have inside := (List.getElem?_eq_some_iff.mp last).1
    omega

structure Counter where
  current : Nat
  longest : Nat

def Counter.push (self : Counter) (hit : Bool) : Counter :=
  if hit then ⟨self.current + 1,max self.longest (self.current + 1)⟩ else ⟨0,self.longest⟩

def count (flags : List Bool) : Counter := flags.foldl Counter.push ⟨0,0⟩

theorem count_snoc (flags : List Bool) (hit : Bool) : count (flags ++ [hit]) = (count flags).push hit := by
  rw [count,foldl_append]
  rfl

theorem suffix_hit (m : Nat) (flags : List Bool) :
    replicate (m + 1) true <:+ flags ++ [true] ↔ replicate m true <:+ flags := by
  rw [suffix_concat_iff]
  constructor
  · rintro (none | ⟨init,same,inside⟩)
    · simp at none
    · rw [replicate_succ'] at same
      rwa [append_inj_left' same rfl]
  · intro inside
    exact Or.inr ⟨replicate m true,replicate_succ',inside⟩

theorem suffix_miss (m : Nat) (flags : List Bool) : replicate m true <:+ flags ++ [false] ↔ m = 0 := by
  rw [suffix_concat_iff]
  constructor
  · rintro (none | ⟨init,same,_⟩)
    · simpa using none
    · have last := congrArg getLast? same
      cases m with
      | zero => rfl
      | succ m => simp [replicate_succ'] at last
  · rintro rfl
    exact Or.inl rfl

theorem count_current (flags : List Bool) (m : Nat) : m ≤ (count flags).current ↔ replicate m true <:+ flags := by
  induction flags using reverseRecOn generalizing m with
  | nil => simp [count]
  | append_singleton flags hit ih =>
    rw [count_snoc]
    cases hit with
    | false => simp [Counter.push,suffix_miss]
    | true =>
      cases m with
      | zero => simp
      | succ m =>
        rw [suffix_hit,← ih]
        simp [Counter.push]

theorem count_longest {flags : List Bool} {k : Nat} (pos : 0 < k) : k ≤ (count flags).longest ↔ Streak k flags := by
  induction flags using reverseRecOn with
  | nil =>
    simp only [count,foldl_nil,Streak]
    constructor
    · omega
    · intro none
      simp at none
      omega
  | append_singleton flags hit ih =>
    rw [Streak,infix_concat_iff,← count_current,← Streak,← ih,count_snoc]
    cases hit with
    | false =>
      simp only [Counter.push,Bool.false_eq_true,if_false]
      omega
    | true =>
      simp only [Counter.push,if_true]
      omega

def RunsTo (hit : Nat → Prop) (stop run : Nat) : Prop := run ≤ stop ∧ ∀ j, stop - run ≤ j → j < stop → hit j

theorem runsTo_zero {hit : Nat → Prop} {stop : Nat} : RunsTo hit stop 0 :=
  ⟨Nat.zero_le stop,fun j above below => by omega⟩

variable {hit : Nat → Prop} {stop run : Nat}

theorem runsTo_succ : RunsTo hit (stop + 1) (run + 1) ↔ hit stop ∧ RunsTo hit stop run := by
  constructor
  · rintro ⟨fits,hits⟩
    exact ⟨hits stop (by omega) (by omega),by omega,fun j above below => hits j (by omega) (by omega)⟩
  · rintro ⟨last,fits,hits⟩
    refine ⟨by omega,fun j above below => ?_⟩
    by_cases here : j = stop
    · rwa [here]
    · exact hits j (by omega) (by omega)

theorem runsTo_of_miss (miss : ¬ hit stop) (runs : RunsTo hit (stop + 1) run) : run = 0 := by
  cases run with
  | zero => rfl
  | succ run => exact absurd (runsTo_succ.mp runs).1 miss

structure FirstLongest (hit : Nat → Prop) (bound stop run : Nat) : Prop where
  within : stop ≤ bound
  runs : RunsTo hit stop run
  longest : ∀ other, other ≤ bound → ∀ length, RunsTo hit other length → length ≤ run
  first : ∀ earlier, earlier < stop → ¬ RunsTo hit earlier run

theorem FirstLongest.unique {bound stop' run' : Nat} (one : FirstLongest hit bound stop run)
    (other : FirstLongest hit bound stop' run') : stop = stop' ∧ run = run' := by
  have same : run = run' :=
    Nat.le_antisymm (other.longest stop one.within run one.runs) (one.longest stop' other.within run' other.runs)
  subst same
  refine ⟨?_,rfl⟩
  rcases Nat.lt_trichotomy stop stop' with before | same | after
  · exact absurd one.runs (other.first stop before)
  · exact same
  · exact absurd other.runs (one.first stop' after)

end Ktstr.Library.Streaks
