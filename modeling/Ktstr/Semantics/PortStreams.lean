import Ktstr.Source.Console

/-! The byte streams of a console port, read off what has happened to the device. -/
namespace Ktstr.Semantics.PortStreams
open List Library.Scatter Source.VmMemory Source.Console
open Source.BlkRequest (ChainDescriptor)
open Source.Drain (Chain)

variable (port : Fin 3) (history : List Effect)

def pushedTo : List UInt8 :=
  history.flatMap fun
    | .pushed target data => if target = port then data else []
    | _ => []

/-- Bytes covered by the used lengths of the receive chains published for the port. -/
def delivered : List UInt8 :=
  history.flatMap fun
    | .published queue _ _ bytes => if queue = rxq port then bytes else []
    | _ => []

/-- Bytes of a transmitted chain: its readable descriptors, each cut, without those that
cannot be read. -/
def chainBytes (mem : GuestMemoryMmap) (chain : Chain) : List UInt8 :=
  (chain.descriptors.filter fun desc => !desc.isWriteOnly).flatMap fun desc =>
    (mem.readSlice desc.addr (min desc.len.toNat txDescMax)).getD []

def transmitted : List UInt8 :=
  history.flatMap fun
    | .popped queue chain mem => if queue = txq port then chainBytes mem chain else []
    | _ => []

def captured : List UInt8 :=
  history.flatMap fun
    | .appended target bytes => if target = port then bytes else []
    | _ => []

def bufferStep (buffer : List UInt8) : Effect → List UInt8
  | .appended target bytes => if target = port then buffer ++ bytes else buffer
  | .drained target _ => if target = port then [] else buffer
  | .pushedBack target bytes => if target = port then bytes ++ buffer else buffer
  | _ => buffer

def buffered : List UInt8 := history.foldl (bufferStep port) []

/-- The writable buffers of every chain popped from a receive queue lie apart. -/
def Separate : Prop :=
  ∀ port chain mem, .popped (rxq port) chain mem ∈ history → (writable chain).Pairwise Apart

theorem Separate.shorten (before after : List Effect) (separate : Separate after) (grows : before <+: after) :
    Separate before :=
  fun port chain mem member => separate port chain mem (grows.subset member)

def popsApart : Effect → Bool
  | .popped _ chain _ => decide ((writable chain).Pairwise Apart)
  | _ => true

theorem apart_of_popsApart (all : history.all popsApart) (queue : Fin 8) (chain : Chain)
    (mem : GuestMemoryMmap) (member : .popped queue chain mem ∈ history) : (writable chain).Pairwise Apart :=
  of_decide_eq_true (all_eq_true.mp all _ member)

section
variable (port : Fin 3) (before after : List Effect)

@[simp] theorem pushedTo_append : pushedTo port (before ++ after) = pushedTo port before ++ pushedTo port after :=
  flatMap_append

@[simp] theorem delivered_append : delivered port (before ++ after) = delivered port before ++ delivered port after :=
  flatMap_append

@[simp] theorem transmitted_append :
    transmitted port (before ++ after) = transmitted port before ++ transmitted port after :=
  flatMap_append

@[simp] theorem captured_append : captured port (before ++ after) = captured port before ++ captured port after :=
  flatMap_append

theorem buffered_append : buffered port (before ++ after) = after.foldl (bufferStep port) (buffered port before) :=
  foldl_append

end

end Ktstr.Semantics.PortStreams
