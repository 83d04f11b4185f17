import Mathlib.Algebra.Order.Group.Int

/-! An account credited at a fixed rate and capped from above. Credits are whole
tokens: the fraction left over stays with the mark up to which time was credited.
A spend may overdraw the account once; a refund to the cap is a separate step. -/
namespace Ktstr.Library.Accrual

/-- Whole tokens that accrue at `rate` per `unit` during `span`. -/
def accrued (unit rate span : Nat) : Nat := rate * span / unit

theorem accrued_add (unit rate first second : Nat) :
    accrued unit rate first + accrued unit rate second ≤ accrued unit rate (first + second) := by
  rw [accrued,accrued,accrued,Nat.mul_add]
  exact Nat.div_add_div_le_add_div

theorem accrued_mono (unit rate first second : Nat) (le : first ≤ second) :
    accrued unit rate first ≤ accrued unit rate second :=
  Nat.div_le_div_right (Nat.mul_le_mul_left rate le)

structure Ledger where
  balance : Int
  mark : Nat
  now : Nat
  spent : Nat
  lastSpend : Nat

variable (cap unit rate start : Nat)

inductive Step : Ledger → Ledger → Prop
  | wait (ledger : Ledger) (span : Nat) : Step ledger {ledger with now := ledger.now + span}
  | credit (ledger : Ledger) (amount : Nat) (earned : amount ≤ accrued unit rate (ledger.now - ledger.mark))
      (balance : Int) (capped : balance ≤ cap) (credited : balance ≤ ledger.balance + amount) :
      Step ledger {ledger with balance := balance,mark := ledger.now}
  | spend (ledger : Ledger) (amount : Nat) (solvent : 0 ≤ ledger.balance)
      (covered : amount ≤ cap → (amount : Int) ≤ ledger.balance) :
      Step ledger {ledger with
        balance := ledger.balance - amount,spent := ledger.spent + amount,lastSpend := amount}
  | refund (ledger : Ledger) (balance : Int) (capped : balance ≤ cap)
      (earned : ledger.spent ≤ accrued unit rate (ledger.now - start)) :
      Step ledger {ledger with balance := balance,mark := ledger.now}

/-- What a ledger opened at the cap at time `start` satisfies after any steps. -/
structure Sound (ledger : Ledger) : Prop where
  opened : start ≤ ledger.mark
  ordered : ledger.mark ≤ ledger.now
  capped : ledger.balance ≤ cap
  funded : ledger.balance + ledger.spent ≤ cap + accrued unit rate (ledger.mark - start)
  recent : ledger.lastSpend ≤ ledger.spent
  regular : ledger.lastSpend ≤ cap → ledger.spent ≤ cap + accrued unit rate (ledger.now - start)
  oversized : ledger.spent ≤ cap + accrued unit rate (ledger.now - start) + ledger.lastSpend

theorem Step.sound (before after : Ledger) (step : Step cap unit rate start before after)
    (sound : Sound cap unit rate start before) : Sound cap unit rate start after := by
  obtain ⟨opened,ordered,capped,funded,recent,regular,oversized⟩ := sound
  cases step with
  | wait span =>
    have later := accrued_mono unit rate (before.now - start) (before.now + span - start) (by omega)
    exact ⟨opened,by simp only; omega,capped,funded,recent,
      fun small => by have := regular small; simp only; omega,by simp only; omega⟩
  | credit amount earned balance inCap credited =>
    have total := accrued_add unit rate (before.mark - start) (before.now - before.mark)
    have span : before.mark - start + (before.now - before.mark) = before.now - start := by omega
    rw [span] at total
    exact ⟨by simp only; omega,le_rfl,inCap,by simp only; omega,recent,regular,oversized⟩
  | spend amount solvent covered =>
    have later := accrued_mono unit rate (before.mark - start) (before.now - start) (by omega)
    refine ⟨opened,ordered,by simp only; omega,by simp only; omega,by simp only; omega,?_,by simp only; omega⟩
    -- A covered spend leaves a balance that is not negative, so the account still bounds the total.
    intro small
    have := covered small
    simp only
    omega
  | refund balance inCap earned =>
    exact ⟨by simp only; omega,le_rfl,inCap,by simp only; omega,recent,regular,oversized⟩

theorem Sound.opening (balance : Int) (inCap : balance ≤ cap) :
    Sound cap unit rate start ⟨balance,start,start,0,0⟩ := by
  refine ⟨le_rfl,le_rfl,inCap,?_,le_rfl,fun _ => Nat.zero_le _,Nat.zero_le _⟩
  simp only
  omega

theorem Sound.total (ledger : Ledger) (sound : Sound cap unit rate start ledger) :
    ledger.spent ≤ cap + accrued unit rate (ledger.now - start) +
      if ledger.lastSpend > cap then ledger.lastSpend else 0 := by
  split
  · exact sound.oversized
  · have := sound.regular (by omega)
    omega

end Ktstr.Library.Accrual
