import Ktstr.Library.Scatter
import Ktstr.Source.Registers

/-! Guest memory as the virtio devices reach it, through the slice accesses of the memory
crate: an access goes through or fails, and a write that fails may have placed some of
its bytes. -/
namespace Ktstr.Source.VmMemory
open Library.Scatter BlkRequest Drain Registers

structure GuestMemoryMmap where
  byte : Nat → UInt8
  accepts : UInt64 → Nat → Bool
  torn : UInt64 → Nat → Nat

namespace GuestMemoryMmap

def readSlice (self : GuestMemoryMmap) (addr : UInt64) (len : Nat) : Option (List UInt8) :=
  if self.accepts addr len then some (load self.byte addr.toNat len) else none

def writeSlice (self : GuestMemoryMmap) (bytes : List UInt8) (addr : UInt64) : GuestMemoryMmap × Bool :=
  if self.accepts addr bytes.length then ({self with byte := store self.byte addr.toNat bytes},true)
  else ({self with byte := store self.byte addr.toNat (bytes.take (self.torn addr bytes.length))},false)

end GuestMemoryMmap

def extent (desc : ChainDescriptor) : Extent := (desc.addr.toNat,desc.len.toNat)

def writable (chain : Chain) : List Extent := (chain.descriptors.filter ChainDescriptor.isWriteOnly).map extent

/-- The bytes a used length covers: the device-written part of the chain's buffers. -/
def covered (mem : GuestMemoryMmap) (chain : Chain) (len : UInt32) : List UInt8 :=
  (gather mem.byte (writable chain)).take len.toNat

/-- Taking a chain with the iterator's errors read as an empty queue. -/
def popDescriptorChain {Q ω : Type} (api : QueueApi Q ω) (mem : ω) (queue : Q) : Q × Option Chain :=
  match api.iterNext mem queue with
  | (queue,.ok found) => (queue,found)
  | (queue,.error _) => (queue,none)

structure PostedQueue where
  chains : List Chain := []
  taken : UInt16 := 0
  isReady : Bool := false

/-- The memory an operation sees decides whether a used entry can be written. -/
def postedQueue : QueueApi PostedQueue Bool where
  ready := PostedQueue.isReady
  nextAvail := PostedQueue.taken
  setNextAvail queue position := {queue with taken := position}
  iterNext _ queue :=
    match queue.chains with
    | [] => (queue,.ok none)
    | chain::chains => ({queue with chains := chains,taken := queue.taken + 1},.ok (some chain))
  addUsed written queue _ _ := (queue,written)
  disableNotification _ queue := queue
  enableNotification _ queue := (queue,some false)
  needsNotification _ queue := (queue,some true)

def postedRegisters : QueueRegisters PostedQueue where
  size _ := 256
  ready := PostedQueue.isReady
  descTable _ := 0
  availRing _ := 0
  usedRing _ := 0
  setSize queue _ := queue
  setReady queue ready := {queue with isReady := ready}
  setDescTableAddress queue _ _ := queue
  setAvailRingAddress queue _ _ := queue
  setUsedRingAddress queue _ _ := queue
  setEventIdx queue _ := queue
  reset _ := {}

end Ktstr.Source.VmMemory
