import Ktstr.Semantics.PortStreams

/-! The console as its byte streams and its control channel see it, and the parts that its work consists of. -/
namespace Ktstr.Semantics.ConsoleParts
open Source.VmMemory Source.Console PortStreams
open Source.BlkRequest (ChainDescriptor)
open Source.Drain (Chain dataLen)
open Source.Registers (registerValue)

/-- The device without registers and queues, and with every port closed. -/
structure View where
  ports : Fin 3 → Port
  controlOut : List ControlOut
  deviceReady : Bool
  history : List Effect

def view {Q : Type} (self : VirtioConsole Q) : View :=
  ⟨fun port => {self.ports port with opened := false},self.controlOut,self.deviceReady,self.history⟩

namespace View
variable (self : View)

def log (effects : List Effect) : View := {self with history := self.history ++ effects}

def setPort (index : Fin 3) (port : Port) : View := {self with ports := Function.update self.ports index port}

def enqueue (messages : List ControlOut) : View :=
  {self with controlOut := self.controlOut ++ messages,history := self.history ++ [.enqueued messages]}

def capture (port : Fin 3) (pieces : List (List UInt8)) : View :=
  (self.setPort port {self.ports port with txBuf := (self.ports port).txBuf ++ pieces.flatten}).log
    (pieces.map (.appended port))

/-- Output is kept for the host; whatever was meant for the guest is dropped. -/
def reset : View :=
  ⟨fun port => {self.ports port with pendingRx := [],readied := false},[],false,self.history ++ [.reset]⟩

end View

/-- What is read from a transmitted chain, descriptor by descriptor. -/
def pieces (mem : GuestMemoryMmap) (descs : List ChainDescriptor) : List (List UInt8) :=
  (descs.filter fun desc => !desc.isWriteOnly).filterMap fun desc =>
    mem.readSlice desc.addr (min desc.len.toNat txDescMax)

def announcements : List ControlOut := (List.range 3).map fun port => .cmd ⟨UInt32.ofNat port,evPortAdd,1⟩

inductive Part (self : View) : View → Prop
  | popped (index : Fin 8) (chain : Chain) (mem : GuestMemoryMmap) (foreign : ∀ port, index ≠ txq port) :
      Part self (self.log [.popped index chain mem])
  | returned (index : Fin 8) (head : UInt16) (len : UInt32) (bytes : List UInt8)
      (empty : index = cOvq ∨ len = 0 ∧ bytes = []) : Part self (self.log [.published index head len bytes])
  | captured (port : Fin 3) (chain : Chain) (mem : GuestMemoryMmap) :
      Part self ((self.log [.popped (txq port) chain mem]).capture port (pieces mem chain.descriptors))
  | received (port : Fin 3) (chain : Chain) (mem : GuestMemoryMmap) (split : Nat) (fill : Fill)
      (recorded : .popped (rxq port) chain mem ∈ self.history)
      (filled : fillChain split (self.ports port).pendingRx chain.descriptors {mem := mem} = fill)
      (whole : fill.torn = false) :
      Part self ((self.setPort port
        {self.ports port with pendingRx := (self.ports port).pendingRx.drop fill.consumedOffset}).log
          [.published (rxq port) chain.headIndex fill.written (covered fill.mem chain fill.written)])
  | announced (fresh : self.deviceReady = false) : Part self ({self with deviceReady := true}.enqueue announcements)
  | answered (port : Fin 3) (id : UInt32) (found : portOf id = some port) (fresh : (self.ports port).readied = false) :
      Part self ((self.setPort port {self.ports port with readied := true}).enqueue
        (readyReplies id (self.ports port).name))
  | sent (message : ControlOut) (messages : List ControlOut) (chain : Chain) (mem final : GuestMemoryMmap) (written : Nat)
      (waiting : self.controlOut = message::messages) (recorded : .popped cIvq chain mem ∈ self.history)
      (room : message.len ≤ dataLen (chain.descriptors.filter ChainDescriptor.isWriteOnly))
      (wrote : writeControl (chain.descriptors.filter ChainDescriptor.isWriteOnly) message.bytes mem 0 =
        (final,written,false)) :
      Part self ({self with controlOut := messages}.log
        [.published cIvq chain.headIndex (UInt32.ofNat written) (covered final chain (UInt32.ofNat written))])

/-- The device gets from one state to another by parts of its work. -/
abbrev Reaches {Q : Type} (before after : VirtioConsole Q) : Prop := Relation.ReflTransGen Part (view before) (view after)

/-- What the guest or the host does. Where nothing may get lost, input is below 4 GiB and is never dropped. -/
inductive Act (lossy : Prop) (self : View) : View → Prop
  | part (next : View) (part : Part self next) : Act lossy self next
  | pushed (port : Fin 3) (data : List UInt8)
      (fits : lossy ∨ (self.ports port).pendingRx.length + data.length < 2 ^ 32) :
      Act lossy self ((self.setPort port {self.ports port with pendingRx := (self.ports port).pendingRx ++ data}).log
        [.pushed port data])
  | drained (port : Fin 3) : Act lossy self ((self.setPort port {self.ports port with txBuf := []}).log
      [.drained port (self.ports port).txBuf])
  | pushedBack (bytes : List UInt8) : Act lossy self
      ((self.setPort 1 {self.ports 1 with txBuf := bytes ++ (self.ports 1).txBuf}).log [.pushedBack 1 bytes])
  | cleared (allowed : lossy) : Act lossy self (self.setPort 2 {self.ports 2 with pendingRx := []})
  | reset (allowed : lossy) : Act lossy self self.reset

def Resets (offset : Nat) (data : List UInt8) : Prop :=
  ¬ (0x100 ≤ offset ∧ offset < 0x10c) ∧ data.length = 4 ∧ offset % 2 ^ 32 = 0x70 ∧ registerValue data = 0

instance (offset : Nat) (data : List UInt8) : Decidable (Resets offset data) :=
  inferInstanceAs (Decidable (_ ∧ _))

/-- The events that keep the receive streams: pushes below 4 GiB, every register write but
a reset, and the host's handling of captured output. -/
def Streaming {Q ω : Type} (self : VirtioConsole Q) : Event ω → Prop
  | .queueInput port data _ => (self.ports port).pendingRx.length + data.length < 2 ^ 32
  | .mmioWrite offset data _ => ¬ Resets offset data
  | .clearPort2PendingRx => False
  | _ => True

end Ktstr.Semantics.ConsoleParts
