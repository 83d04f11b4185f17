import Ktstr.Source.Drain

/-! What became of a popped ring position, read off the effects of its turn. -/
namespace Ktstr.Semantics.Turns
open Source.BlkRequest Source.Drain

def usedHeads (effects : List Effect) : List UInt16 :=
  effects.filterMap fun
    | .addUsed head _ true => some head
    | _ => none

def outward : Effect → Bool
  | .backing => true
  | .guestWrite _ _ => true
  | .statusByte _ _ _ => true
  | .addUsed _ _ _ => true
  | _ => false

def Turn.stalled (self : Turn) : Bool := self.effects.contains .rewind

def Turn.dropped (self : Turn) : Bool := !Turn.stalled self && usedHeads self.effects == []

/-- A turn that kept its position resolved it in exactly one of two ways; one that
handed it back left no trace outside the device. -/
structure Turn.Sound (turn : Turn) : Prop where
  settled : Turn.stalled turn = false →
    usedHeads turn.effects = [turn.head] ∨ usedHeads turn.effects = [] ∧ .recordIoError ∈ turn.effects
  untouched : Turn.stalled turn = true → ∀ effect ∈ turn.effects, outward effect = false

/-- The turns that resolved their position, in the order they ran. -/
def resolved (turns : List Turn) : List Turn := turns.filter fun turn => !Turn.stalled turn

/-- Ring positions from one on, wrapping at the end of the index range. -/
def ringFrom (first : UInt16) (count : Nat) : List UInt16 :=
  (List.range count).map fun offset => first + UInt16.ofNat offset

end Ktstr.Semantics.Turns
