import Mathlib.Data.List.Basic

/-! Advisory locks with shared and exclusive holders, as a list of who holds what. -/
namespace Ktstr.Library.Locks

inductive Mode
  | shared
  | exclusive
deriving DecidableEq

variable {π : Type}

def tryLock (holders : List (π × Mode)) (process : π) : Mode → Option (List (π × Mode))
  | .exclusive => if holders.isEmpty then some [(process,.exclusive)] else none
  | .shared => if holders.any (·.2 = .exclusive) then none else some ((process,.shared)::holders)

def unlock [DecidableEq π] (holders : List (π × Mode)) (process : π) : List (π × Mode) := holders.filter (·.1 ≠ process)

def Excluding (holders : List (π × Mode)) : Prop :=
  ∀ process, (process,Mode.exclusive) ∈ holders → ∀ other ∈ holders, other = (process,.exclusive)

variable (holders : List (π × Mode))

variable {holders}

theorem mem_unlock [DecidableEq π] (process : π) (other : π × Mode) :
    other ∈ unlock holders process ↔ other ∈ holders ∧ other.1 ≠ process := by
  simp [unlock]

theorem excluding_unlock [DecidableEq π] {process : π} (excluding : Excluding holders) :
    Excluding (unlock holders process) := by
  intro owner held other mem
  exact excluding owner ((mem_unlock ..).mp held).1 other ((mem_unlock ..).mp mem).1

variable (next : List (π × Mode)) (process : π)

theorem tryLock_exclusive (granted : tryLock holders process .exclusive = some next) :
    holders = [] ∧ next = [(process,.exclusive)] := by
  simp only [tryLock] at granted
  split at granted
  · rename_i free
    cases granted
    exact ⟨List.isEmpty_iff.mp free,rfl⟩
  · cases granted

theorem tryLock_shared (granted : tryLock holders process .shared = some next) :
    (∀ other, (other,Mode.exclusive) ∉ holders) ∧ next = (process,.shared)::holders := by
  simp only [tryLock] at granted
  split at granted
  · cases granted
  · rename_i free
    cases granted
    refine ⟨fun other mem => free ?_,rfl⟩
    exact List.any_eq_true.mpr ⟨_,mem,by simp⟩

theorem excluding_tryLock {mode : Mode} (granted : tryLock holders process mode = some next) : Excluding next := by
  intro owner held other mem
  cases mode with
  | exclusive =>
    obtain ⟨_,rfl⟩ := tryLock_exclusive next process granted
    rw [List.mem_singleton.mp mem,List.mem_singleton.mp held]
  | shared =>
    obtain ⟨free,rfl⟩ := tryLock_shared next process granted
    rcases List.mem_cons.mp held with same | old
    · cases same
    · exact absurd old (free owner)

end Ktstr.Library.Locks
