import Mathlib.Data.List.Basic

/-! Incremental parsing over an arbitrary alphabet. A parser takes one item off
the front of its input; what it takes must not depend on bytes that arrive later.
Greedy decoding is then independent of how the input was cut into chunks. -/
namespace Ktstr.Library.Incremental

structure Parser (β α : Type) where
  next : List β → Option (α × List β)
  shrinks : ∀ input item rest, next input = some (item,rest) → rest.length < input.length
  stable : ∀ input item rest more, next input = some (item,rest) →
    next (input ++ more) = some (item,rest ++ more)

variable {β α : Type} (parser : Parser β α)

def decode (input : List β) : List α × List β :=
  match taken : parser.next input with
  | none => ([],input)
  | some (item,rest) =>
    have _ := parser.shrinks input item rest taken
    (item::(decode rest).1,(decode rest).2)
termination_by input.length

variable {parser}

theorem decode_none {input : List β} (stuck : parser.next input = none) : decode parser input = ([],input) := by
  rw [decode]
  split
  · rfl
  · rename_i item rest taken
    rw [stuck] at taken
    contradiction

variable (parser)

theorem decode_some (input rest : List β) (item : α) (taken : parser.next input = some (item,rest)) :
    decode parser input = (item::(decode parser rest).1,(decode parser rest).2) := by
  rw [decode]
  split
  · rename_i stuck
    rw [stuck] at taken
    contradiction
  · rename_i other left found
    rw [taken] at found
    cases found
    rfl

theorem decode_append (input more : List β) :
    decode parser (input ++ more) =
      ((decode parser input).1 ++ (decode parser ((decode parser input).2 ++ more)).1,
        (decode parser ((decode parser input).2 ++ more)).2) := by
  -- Induction on the length left to decode: every item taken strictly shortens the input.
  induction size : input.length using Nat.strongRecOn generalizing input with
  | ind n ih =>
    cases taken : parser.next input with
    | none => simp [decode_none taken]
    | some found =>
      obtain ⟨item,rest⟩ := found
      have shorter := parser.shrinks input item rest taken
      have tail := ih rest.length (by omega) rest rfl
      rw [decode_some parser input rest item taken,
        decode_some parser (input ++ more) (rest ++ more) item (parser.stable _ _ _ _ taken),tail]
      simp

end Ktstr.Library.Incremental
