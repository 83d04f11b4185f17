import Mathlib.Data.List.Basic

/-! Effects in a history that only grows, each with an earlier position that warrants it and warrants no other. -/
namespace Ktstr.Library.Histories
open List Function

variable {ε : Type} (effect : ε → Prop) (warrant : List ε → Nat → ε → Prop)

structure Attribution (history : List ε) (origin : Nat → Nat) : Prop where
  warranted : ∀ k entry, history[k]? = some entry → effect entry → warrant (history.take k) (origin k) entry
  once : ∀ k l entry other, history[k]? = some entry → effect entry → history[l]? = some other → effect other →
    origin k = origin l → k = l

def Unused (history : List ε) (origin : Nat → Nat) (position : Nat) : Prop :=
  ∀ k entry, history[k]? = some entry → effect entry → origin k ≠ position

variable {effect warrant} {history : List ε} {origin : Nat → Nat}

theorem Attribution.empty : Attribution effect warrant [] origin := ⟨by simp,by simp⟩

theorem at_end {entry last : ε} {k : Nat} (found : (history ++ [last])[k]? = some entry) :
    history[k]? = some entry ∧ k < history.length ∨ k = history.length ∧ entry = last := by
  rcases Nat.lt_trichotomy k history.length with below | same | above
  · rw [getElem?_append_left below] at found
    exact .inl ⟨found,below⟩
  · rw [same,getElem?_concat_length] at found
    exact .inr ⟨same,(Option.some.inj found).symm⟩
  · rw [getElem?_eq_none (by simp; omega)] at found
    cases found

theorem Attribution.skip (kept : Attribution effect warrant history origin) (last : ε) (plain : ¬ effect last) :
    Attribution effect warrant (history ++ [last]) origin where
  warranted k entry found is := by
    rcases at_end found with ⟨old,below⟩ | ⟨_,rfl⟩
    · rw [take_append_of_le_length (Nat.le_of_lt below)]
      exact kept.warranted k entry old is
    · exact absurd is plain
  once k l entry other found is also too same := by
    rcases at_end found with ⟨old,_⟩ | ⟨_,rfl⟩
    · rcases at_end also with ⟨older,_⟩ | ⟨_,rfl⟩
      · exact kept.once k l entry other old is older too same
      · exact absurd too plain
    · exact absurd is plain

theorem Attribution.extend (kept : Attribution effect warrant history origin) (last : ε) (position : Nat)
    (unused : Unused effect history origin position) (warrants : warrant history position last) :
    Attribution effect warrant (history ++ [last]) (update origin history.length position) where
  warranted k entry found is := by
    rcases at_end found with ⟨old,below⟩ | ⟨rfl,rfl⟩
    · rw [take_append_of_le_length (Nat.le_of_lt below),update_of_ne (Nat.ne_of_lt below)]
      exact kept.warranted k entry old is
    · rw [take_left,update_self]
      exact warrants
  once k l entry other found is also too same := by
    rcases at_end found with ⟨old,below⟩ | ⟨rfl,rfl⟩ <;> rcases at_end also with ⟨older,under⟩ | ⟨rfl,rfl⟩
    · rw [update_of_ne (Nat.ne_of_lt below),update_of_ne (Nat.ne_of_lt under)] at same
      exact kept.once k l entry other old is older too same
    · rw [update_of_ne (Nat.ne_of_lt below),update_self] at same
      exact absurd same (unused k entry old is)
    · rw [update_of_ne (Nat.ne_of_lt under),update_self] at same
      exact absurd same.symm (unused l other older too)
    · rfl

theorem Unused.skip {position : Nat} (unused : Unused effect history origin position) (last : ε)
    (plain : ¬ effect last) : Unused effect (history ++ [last]) origin position := by
  intro k entry found is
  rcases at_end found with ⟨old,_⟩ | ⟨_,rfl⟩
  · exact unused k entry old is
  · exact absurd is plain

theorem Unused.extend {position other : Nat} (unused : Unused effect history origin position) (last : ε)
    (apart : other ≠ position) : Unused effect (history ++ [last]) (update origin history.length other) position := by
  intro k entry found is
  rcases at_end found with ⟨old,below⟩ | ⟨rfl,rfl⟩
  · rw [update_of_ne (Nat.ne_of_lt below)]
    exact unused k entry old is
  · rw [update_self]
    exact apart

theorem Attribution.fresh (kept : Attribution effect warrant history origin) (last : ε) (plain : ¬ effect last)
    (earlier : ∀ past position entry, warrant past position entry → position < past.length) :
    Unused effect (history ++ [last]) origin history.length := by
  intro k entry found is same
  rcases at_end found with ⟨old,below⟩ | ⟨_,rfl⟩
  · have before := earlier _ _ _ (kept.warranted k entry old is)
    rw [length_take] at before
    omega
  · exact absurd is plain

end Ktstr.Library.Histories
