import Mathlib.Data.List.Basic

/-! A stream of frames of one size, read in pieces. -/
namespace Ktstr.Library.Framing
open List

variable {α β : Type} (frame : α → List β) (size : Nat) (each : ∀ item, (frame item).length = size)
include each

variable {frame}

theorem length_stream {items : List α} : (items.flatMap frame).length = size * items.length := by
  induction items with
  | nil => rfl
  | cons item items ih =>
    rw [flatMap_cons,length_append,each item,ih,length_cons,Nat.mul_succ,Nat.add_comm]

theorem first_frame {items : List α} {got unread : List β} (whole : got ++ unread = items.flatMap frame)
    (more : got ++ unread ≠ []) (short : got.length ≤ size) :
    ∃ item tail missing, items = item::tail ∧ frame item = got ++ missing ∧
      unread = missing ++ tail.flatMap frame := by
  cases items with
  | nil => exact absurd whole more
  | cons item tail =>
    rw [flatMap_cons] at whole
    obtain ⟨missing,first⟩ : got <+: frame item :=
      prefix_of_prefix_length_le ⟨unread,whole⟩ ⟨tail.flatMap frame,rfl⟩ (by rw [each item]; exact short)
    rw [← first,append_assoc] at whole
    exact ⟨item,tail,missing,rfl,first.symm,append_cancel_left whole⟩

end Ktstr.Library.Framing
