import Mathlib.Algebra.Order.Ring.Int
import Ktstr.Library.Accrual

/-! Accrual read in windows. The span from a mark to the last of a list of readings is cut at the readings that find a
whole token; each window earns its own whole tokens and drops the rest. -/
namespace Ktstr.Library.Windows
open List Accrual

variable (unit rate : Nat)

def windows (mark : Nat) : List Nat → List Nat
  | [] => []
  | reading::rest =>
    if accrued unit rate (reading - mark) = 0 ∧ rest ≠ [] then windows mark rest
    else (reading - mark)::windows reading rest

def earned (limit : Nat) (spans : List Nat) : Nat := (spans.map fun span => min (accrued unit rate span) limit).sum

def remainders (spans : List Nat) : Nat := (spans.map fun span => rate * span % unit).sum

theorem windows_quiet (mark reading : Nat) (rest : List Nat) (quiet : accrued unit rate (reading - mark) = 0) :
    windows unit rate mark (reading::rest) = if rest = [] then [reading - mark] else windows unit rate mark rest := by
  cases rest with
  | nil => simp [windows]
  | cons next rest =>
    rw [windows,if_pos ⟨quiet,cons_ne_nil _ _⟩,if_neg (cons_ne_nil _ _)]

theorem windows_cut (mark reading : Nat) (rest : List Nat) (found : accrued unit rate (reading - mark) ≠ 0) :
    windows unit rate mark (reading::rest) = (reading - mark)::windows unit rate reading rest := by
  rw [windows,if_neg fun both => found both.1]

theorem earned_cons (limit span : Nat) (spans : List Nat) :
    earned unit rate limit (span::spans) = min (accrued unit rate span) limit + earned unit rate limit spans := rfl

theorem le_getLastD (mark : Nat) (readings : List Nat) (above : ∀ reading ∈ readings, mark ≤ reading) :
    mark ≤ readings.getLastD mark := by
  cases readings with
  | nil => exact Nat.le_refl mark
  | cons reading rest =>
    rw [getLastD_cons,getLastD_eq_getLast?]
    cases last : rest.getLast? with
    | none => exact above reading mem_cons_self
    | some final => exact above final (mem_cons_of_mem _ (mem_of_getLast? last))

theorem sum_windows (mark : Nat) (readings : List Nat) (ordered : (mark::readings).Pairwise (· ≤ ·)) :
    (windows unit rate mark readings).sum = readings.getLastD mark - mark := by
  induction readings generalizing mark with
  | nil => simp [windows]
  | cons reading rest ih =>
    obtain ⟨above,later⟩ := pairwise_cons.mp ordered
    obtain ⟨least,tail⟩ := pairwise_cons.mp later
    have first := above reading mem_cons_self
    by_cases quiet : accrued unit rate (reading - mark) = 0
    · rw [windows_quiet unit rate mark reading rest quiet]
      split
      · next last => simp [last]
      · next more =>
        obtain ⟨next,others,rfl⟩ := exists_cons_of_ne_nil more
        rw [ih mark (pairwise_cons.mpr ⟨fun other member => above other (mem_cons_of_mem _ member),tail⟩)]
        simp only [getLastD_cons]
    · have := le_getLastD reading rest least
      rw [windows_cut unit rate mark reading rest quiet,sum_cons,ih reading later,getLastD_cons]
      omega

theorem earned_whole_iff (positive : 0 < unit) (spans : List Nat) :
    (spans.map (accrued unit rate)).sum = accrued unit rate spans.sum ↔ remainders unit rate spans < unit := by
  have split : rate * spans.sum = unit * (spans.map (accrued unit rate)).sum + remainders unit rate spans := by
    induction spans with
    | nil => simp [remainders]
    | cons span spans ih =>
      have here : rate * span = unit * accrued unit rate span + rate * span % unit := (Nat.div_add_mod _ _).symm
      rw [sum_cons,Nat.mul_add,ih]
      simp only [remainders,map_cons,sum_cons,Nat.mul_add]
      omega
  have whole : accrued unit rate spans.sum = (spans.map (accrued unit rate)).sum + remainders unit rate spans / unit := by
    rw [accrued,split,Nat.mul_add_div positive]
  have := Nat.div_eq_zero_iff (a := remainders unit rate spans) (b := unit)
  omega

end Ktstr.Library.Windows
