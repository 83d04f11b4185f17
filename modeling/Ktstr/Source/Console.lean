import Ktstr.Source.VmMemory

/-! `virtio_console.rs`: the three ports with their byte streams, the multiport control
protocol, the MMIO registers and reset. A loop over a queue runs on a list of turns, one
for each chain it asks for: what the queue, guest memory and the used ring answer then.
Where the list ends the queue has nothing more. -/
namespace Ktstr.Source.Console
open Library.Bytes BlkRequest Drain Registers VmMemory

def txDescMax : Nat := 32 * 1024

def txPerCallMax : Nat := 256 * 1024

def controlChainsPerCallMax : Nat := 32

def rxChainsPerCallMax : Nat := 64

def fMultiport : BitVec 64 := 1 <<< 1

def intVring : BitVec 32 := 1

def portQueues : Fin 3 → Fin 8 × Fin 8
  | 0 => (0,1)
  | 1 => (4,5)
  | 2 => (6,7)

def rxq (port : Fin 3) : Fin 8 := (portQueues port).1

def txq (port : Fin 3) : Fin 8 := (portQueues port).2

def cIvq : Fin 8 := 2

def cOvq : Fin 8 := 3

def queueToPort : Fin 8 → Option (Fin 3 × Bool)
  | 0 => some (0,false)
  | 1 => some (0,true)
  | 4 => some (1,false)
  | 5 => some (1,true)
  | 6 => some (2,false)
  | 7 => some (2,true)
  | _ => none

structure VirtioConsoleControl where
  id : UInt32
  event : UInt16
  value : UInt16
deriving DecidableEq

def vcControlSize : Nat := 8

def evDeviceReady : UInt16 := 0

def evPortAdd : UInt16 := 1

def evPortReady : UInt16 := 3

def evConsolePort : UInt16 := 4

def evPortOpen : UInt16 := 6

def evPortName : UInt16 := 7

def leBytes : Nat → Nat → List UInt8
  | 0,_ => []
  | width + 1,value => UInt8.ofNat value::leBytes width (value / 256)

def VirtioConsoleControl.asBytes (self : VirtioConsoleControl) : List UInt8 :=
  leBytes 4 self.id.toNat ++ leBytes 2 self.event.toNat ++ leBytes 2 self.value.toNat

def VirtioConsoleControl.readFromBytes (buf : List UInt8) : Option VirtioConsoleControl :=
  if buf.length = vcControlSize then
    some ⟨leU32 (slice buf 0 4),UInt16.ofNat (leNat (slice buf 4 6)),UInt16.ofNat (leNat (slice buf 6 8))⟩
  else none

inductive ControlOut
  | cmd (control : VirtioConsoleControl)
  | name (id : UInt32) (label : String)

def ControlOut.len : ControlOut → Nat
  | .cmd _ => vcControlSize
  | .name _ label => vcControlSize + label.utf8ByteSize + 1

def ControlOut.bytes : ControlOut → List UInt8
  | .cmd control => control.asBytes
  | .name id label => (VirtioConsoleControl.mk id evPortName 1).asBytes ++ label.toUTF8.toList ++ [0]

structure Port where
  txBuf : List UInt8 := []
  pendingRx : List UInt8 := []
  opened : Bool := false
  readied : Bool := false
  name : String

inductive Effect
  | pushed (port : Fin 3) (data : List UInt8)
  | popped (queue : Fin 8) (chain : Chain) (mem : GuestMemoryMmap)
  | published (queue : Fin 8) (head : UInt16) (len : UInt32) (bytes : List UInt8)
  | appended (port : Fin 3) (bytes : List UInt8)
  | drained (port : Fin 3) (bytes : List UInt8)
  | pushedBack (port : Fin 3) (bytes : List UInt8)
  | enqueued (messages : List ControlOut)
  | reset

/-- The device. `history` is what has happened so far, oldest first; nothing reads it. -/
structure VirtioConsole (Q : Type) where
  queues : Fin 8 → Q
  queueSelect : BitVec 32 := 0
  deviceFeaturesSel : BitVec 32 := 0
  driverFeaturesSel : BitVec 32 := 0
  driverFeatures : BitVec 64 := 0
  deviceStatus : BitVec 32 := 0
  interruptStatus : BitVec 32 := 0
  mem : Bool := false
  ports : Fin 3 → Port
  controlOut : List ControlOut := []
  deviceReady : Bool := false
  history : List Effect := []

def portName : Fin 3 → String
  | 0 => "ktstr-console"
  | 1 => "ktstr-bulk"
  | 2 => "ktstr-stats"

def new {Q : Type} (queues : Fin 8 → Q) : VirtioConsole Q :=
  {queues := queues,ports := fun port => {name := portName port}}

/-- One turn of a loop over a queue: what the queue's memory holds when the next chain is
asked for and when it is handed back, guest memory as the chain's buffers see it, and
where the ring of pending bytes wraps around. -/
structure Turn (ω : Type) where
  pop : ω
  mem : GuestMemoryMmap
  split : Nat
  used : ω

inductive Site
  | rx
  | tx (port : Fin 3)
  | opened (position : Nat)
  | controlTx
  | controlIn

section
variable {Q ω : Type} (api : QueueApi Q ω)

variable (self : VirtioConsole Q)

def emit (effect : Effect) : VirtioConsole Q :=
  {self with history := self.history ++ [effect]}

def setQueue (index : Fin 8) (queue : Q) : VirtioConsole Q :=
  {self with queues := Function.update self.queues index queue}

def setPort (index : Fin 3) (port : Port) : VirtioConsole Q :=
  {self with ports := Function.update self.ports index port}

def signalUsed : VirtioConsole Q :=
  {self with interruptStatus := self.interruptStatus ||| intVring}

def multiportNegotiated : Bool := self.driverFeatures &&& fMultiport != 0

def driverReady : Bool := self.deviceStatus &&& driverOk != 0

def queueConfigAllowed : Bool :=
  self.deviceStatus &&& sFeat == sFeat && self.deviceStatus &&& driverOk == 0

def featuresWriteAllowed : Bool :=
  self.deviceStatus &&& sDrv == sDrv && self.deviceStatus &&& featuresOk == 0

def addUsed (self : VirtioConsole Q) (used : ω) (index : Fin 8) (chain : Chain) (mem : GuestMemoryMmap)
    (len : UInt32) : VirtioConsole Q × Bool :=
  match api.addUsed used (self.queues index) chain.headIndex len with
  | (queue,true) => (emit (setQueue self index queue) (.published index chain.headIndex len (covered mem chain len)),true)
  | (queue,false) => (setQueue self index queue,false)

def popChain (turn : Turn ω) (index : Fin 8) : VirtioConsole Q × Option Chain :=
  match popDescriptorChain api turn.pop (self.queues index) with
  | (queue,none) => (setQueue self index queue,none)
  | (queue,some chain) => (emit (setQueue self index queue) (.popped index chain turn.mem),some chain)

structure Capture (Q : Type) where
  device : VirtioConsole Q
  hadData : Bool := false
  cumulativeBytes : Nat := 0

variable (port : Fin 3)

def captureDescriptor (mem : GuestMemoryMmap) (state : Capture Q) (desc : ChainDescriptor) : Capture Q :=
  if desc.isWriteOnly then state
  else
    let dlen := min desc.len.toNat txDescMax
    match mem.readSlice desc.addr dlen with
    | none => state
    | some bytes =>
      let target := state.device.ports port
      let device :=
        emit (setPort state.device port {target with txBuf := target.txBuf ++ bytes}) (.appended port bytes)
      if dlen > 0 then ⟨device,true,min (state.cumulativeBytes + dlen) (2 ^ 64 - 1)⟩
      else {state with device := device}

/-- The loop of `process_tx` and `drain_tx_into_capture_buf`. A failed `add_used` is only
logged. -/
def captureLoop (port : Fin 3) : List (Turn ω) → Capture Q → Capture Q
  | [],state => state
  | turn::turns,state =>
    match popChain api state.device turn (txq port) with
    | (device,none) => {state with device := device}
    | (device,some chain) =>
      let state := chain.descriptors.foldl (captureDescriptor port turn.mem) {state with device := device}
      let state := {state with device := (addUsed api state.device turn.used (txq port) chain turn.mem 0).1}
      if state.cumulativeBytes ≥ txPerCallMax then state else captureLoop port turns state

def txAllowed : Bool :=
  driverReady self && (port == 0 || multiportNegotiated self) && self.mem

variable (turns : List (Turn ω))

def processTx : VirtioConsole Q :=
  if txAllowed self port then
    let state := captureLoop api port turns {device := self}
    if state.hadData then signalUsed state.device else state.device
  else self

def drainTxIntoCaptureBuf : VirtioConsole Q :=
  if txAllowed self port then (captureLoop api port turns {device := self}).device else self

def drainPortTx : VirtioConsole Q :=
  emit (setPort self port {self.ports port with txBuf := []}) (.drained port (self.ports port).txBuf)

def finalDrain : VirtioConsole Q :=
  drainPortTx (processTx api self 1 turns) 1

def pushBackBulk (bytes : List UInt8) : VirtioConsole Q :=
  if bytes = [] then self
  else
    let target := self.ports 1
    emit (setPort self 1 {target with txBuf := bytes ++ target.txBuf}) (.pushedBack 1 bytes)

def stage (split : Nat) (pending : List UInt8) (consumedOffset chunk : Nat) : List UInt8 :=
  let headSlice := pending.take split
  let tailSlice := pending.drop split
  let headSkip := min consumedOffset headSlice.length
  let tailSkip := consumedOffset - headSkip
  let headAvail := headSlice.drop headSkip
  let tailAvail := if tailSkip < tailSlice.length then tailSlice.drop tailSkip else []
  let fromHead := min headAvail.length chunk
  headAvail.take fromHead ++
    if fromHead < chunk then tailAvail.take (min (chunk - fromHead) tailAvail.length) else []

structure Fill where
  mem : GuestMemoryMmap
  consumedOffset : Nat := 0
  written : UInt32 := 0
  torn : Bool := false

def fillChain (split : Nat) (pending : List UInt8) : List ChainDescriptor → Fill → Fill
  | [],state => state
  | desc::descs,state =>
    if desc.isWriteOnly ∧ state.consumedOffset < pending.length then
      let chunk := min (pending.length - state.consumedOffset) desc.len.toNat
      let scratch := stage split pending state.consumedOffset chunk
      match state.mem.writeSlice scratch desc.addr with
      | (mem,true) =>
        fillChain split pending descs
          ⟨mem,state.consumedOffset + scratch.length,state.written + UInt32.ofNat scratch.length,false⟩
      | (mem,false) => {state with mem := mem,torn := true}
    else fillChain split pending descs state

/-- The loop of `drain_pending_rx`. A torn chain goes back empty, and bytes leave
`pending_rx` only with a chain that was published. -/
def deliverLoop (port : Fin 3) : List (Turn ω) → VirtioConsole Q → UInt32 → Nat → VirtioConsole Q × UInt32
  | [],self,totalWritten,_ => (self,totalWritten)
  | turn::turns,self,totalWritten,chainsDrained =>
    if (self.ports port).pendingRx = [] then (self,totalWritten)
    else
      match popChain api self turn (rxq port) with
      | (self,none) => (self,totalWritten)
      | (self,some chain) =>
        let target := self.ports port
        let fill := fillChain turn.split target.pendingRx chain.descriptors {mem := turn.mem}
        if fill.torn then ((addUsed api self turn.used (rxq port) chain fill.mem 0).1,totalWritten)
        else
          match addUsed api self turn.used (rxq port) chain fill.mem fill.written with
          | (self,false) => (self,totalWritten)
          | (self,true) =>
            let self := setPort self port {target with pendingRx := target.pendingRx.drop fill.consumedOffset}
            if chainsDrained + 1 ≥ rxChainsPerCallMax then (self,totalWritten + fill.written)
            else deliverLoop port turns self (totalWritten + fill.written) (chainsDrained + 1)

def drainPendingRx : VirtioConsole Q :=
  if (self.ports port).pendingRx = [] then self
  else if !driverReady self then self
  else if port ≠ 0 ∧ !multiportNegotiated self then self
  else if port ≠ 0 ∧ !(self.ports port).opened then self
  else if !self.mem then self
  else if !api.ready (self.queues (rxq port)) then self
  else
    let (self,totalWritten) := deliverLoop api port turns self 0 0
    if totalWritten > 0 then signalUsed self else self

/-- `queue_input`, `queue_input_port1` and `queue_input_port2`. -/
def queueInput (data : List UInt8) (turns : List (Turn ω)) : VirtioConsole Q :=
  let target := self.ports port
  let self := emit (setPort self port {target with pendingRx := target.pendingRx ++ data}) (.pushed port data)
  drainPendingRx api self port turns

def clearPort2PendingRx : VirtioConsole Q :=
  setPort self 2 {self.ports 2 with pendingRx := []}

def readControl (mem : GuestMemoryMmap) : List ChainDescriptor → List UInt8 → List UInt8
  | [],filled => filled
  | desc::descs,filled =>
    let take := min desc.len.toNat (vcControlSize - filled.length)
    if desc.isWriteOnly ∨ take = 0 then readControl mem descs filled
    else
      match mem.readSlice desc.addr take with
      | none => filled
      | some bytes => readControl mem descs (filled ++ bytes)

/-- The loop over the guest's control messages: the device, the frames in order, and
whether anything was published. -/
def controlTxLoop : List (Turn ω) → VirtioConsole Q → List VirtioConsoleControl → Bool → Nat →
    VirtioConsole Q × List VirtioConsoleControl × Bool
  | [],self,events,anyPublished,_ => (self,events,anyPublished)
  | turn::turns,self,events,anyPublished,chainsDrained =>
    match popChain api self turn cOvq with
    | (self,none) => (self,events,anyPublished)
    | (self,some chain) =>
      let buf := readControl turn.mem chain.descriptors []
      let events := events ++ (VirtioConsoleControl.readFromBytes buf).toList
      let (self,ok) := addUsed api self turn.used cOvq chain turn.mem (UInt32.ofNat buf.length)
      if chainsDrained + 1 ≥ controlChainsPerCallMax then (self,events,anyPublished || ok)
      else controlTxLoop turns self events (anyPublished || ok) (chainsDrained + 1)

def pushControl (messages : List ControlOut) : VirtioConsole Q :=
  emit {self with controlOut := self.controlOut ++ messages} (.enqueued messages)

def portOf (id : UInt32) : Option (Fin 3) := if inside : id.toNat < 3 then some ⟨id.toNat,inside⟩ else none

def readyReplies (id : UInt32) (label : String) : List ControlOut :=
  (if id = 0 then [.cmd ⟨id,evConsolePort,1⟩] else []) ++ [.name id label,.cmd ⟨id,evPortOpen,1⟩]

/-- A port 1 or 2 that opens has its pending bytes drained at once. -/
def handleControlEvent (control : VirtioConsoleControl) (turns : List (Turn ω)) : VirtioConsole Q :=
  if control.event = evDeviceReady then
    if control.value ≠ 1 ∨ self.deviceReady then self
    else pushControl {self with deviceReady := true}
      ((List.range 3).map fun port => .cmd ⟨UInt32.ofNat port,evPortAdd,1⟩)
  else if control.event = evPortReady then
    if control.value ≠ 1 then self
    else
      match portOf control.id with
      | none => self
      | some port =>
        let target := self.ports port
        if target.readied then self
        else pushControl (setPort self port {target with readied := true}) (readyReplies control.id target.name)
  else if control.event = evPortOpen then
    match portOf control.id with
    | none => self
    | some port =>
      let target := self.ports port
      let nowOpen := control.value == 1
      let self := setPort self port {target with opened := nowOpen}
      if nowOpen ∧ ¬ target.opened ∧ port ≠ 0 then drainPendingRx api self port turns else self
  else self

/-- Writes a control message over a chain's segments: memory, how much was written, and
whether a write failed. -/
def writeControl : List ChainDescriptor → List UInt8 → GuestMemoryMmap → Nat → GuestMemoryMmap × Nat × Bool
  | [],_,mem,written => (mem,written,false)
  | desc::descs,message,mem,written =>
    if message = [] then (mem,written,false)
    else
      let chunk := min desc.len.toNat message.length
      match mem.writeSlice (message.take chunk) desc.addr with
      | (mem,true) => writeControl descs (message.drop chunk) mem (written + chunk)
      | (mem,false) => (mem,written,true)

/-- The loop over pending host messages: one chain for each, a chain too small goes back
empty, and a message leaves the queue only with a chain that was published. -/
def controlInLoop : List (Turn ω) → VirtioConsole Q → Bool → VirtioConsole Q × Bool
  | [],self,anyPublished => (self,anyPublished)
  | turn::turns,self,anyPublished =>
    match self.controlOut with
    | [] => (self,anyPublished)
    | message::messages =>
      match popChain api self turn cIvq with
      | (self,none) => (self,anyPublished)
      | (self,some chain) =>
        let segs := chain.descriptors.filter ChainDescriptor.isWriteOnly
        if dataLen segs < message.len then
          let (self,ok) := addUsed api self turn.used cIvq chain turn.mem 0
          controlInLoop turns self (anyPublished || ok)
        else
          let (mem,written,torn) := writeControl segs message.bytes turn.mem 0
          if torn then
            let (self,ok) := addUsed api self turn.used cIvq chain mem 0
            (self,anyPublished || ok)
          else
            match addUsed api self turn.used cIvq chain mem (UInt32.ofNat written) with
            | (self,false) => (self,anyPublished)
            | (self,true) => controlInLoop turns {self with controlOut := messages} true

def drainControlIn : VirtioConsole Q :=
  if self.controlOut.isEmpty then self
  else if !driverReady self then self
  else if !multiportNegotiated self then self
  else if !self.mem then self
  else if !api.ready (self.queues cIvq) then self
  else
    let (self,anyPublished) := controlInLoop api turns self false
    if anyPublished then signalUsed self else self

def processControlTx (world : Site → List (Turn ω)) : VirtioConsole Q :=
  if !driverReady self then self
  else if !multiportNegotiated self then self
  else if !self.mem then self
  else
    let (self,events,anyPublished) := controlTxLoop api (world .controlTx) self [] false 0
    let self := events.zipIdx.foldl (fun self (control,position) =>
      handleControlEvent api self control (world (.opened position))) self
    let self := if anyPublished then signalUsed self else self
    drainControlIn api self (world .controlIn)

def notify (index : Nat) (world : Site → List (Turn ω)) : VirtioConsole Q :=
  if inside : index < 8 then
    let index : Fin 8 := ⟨index,inside⟩
    if index = cIvq then drainControlIn api self (world .controlIn)
    else if index = cOvq then processControlTx api self world
    else
      match queueToPort index with
      | some (port,false) => drainPendingRx api self port (world .rx)
      | some (port,true) => processTx api self port (world (.tx port))
      | none => self
  else self

def validTransition (newBits : BitVec 32) : Bool :=
  if newBits = acknowledge then self.deviceStatus == 0
  else if newBits = driver then self.deviceStatus == sAck
  else if newBits = featuresOk then self.deviceStatus == sDrv
  else if newBits = driverOk then self.deviceStatus == sFeat
  else false

def setStatus (val : BitVec 32) (world : Site → List (Turn ω)) : VirtioConsole Q :=
  if val &&& self.deviceStatus ≠ self.deviceStatus then self
  else
    let newBits := val &&& ~~~self.deviceStatus
    if newBits = statusFailed then {self with deviceStatus := val}
    else if validTransition self newBits then
      let self := {self with deviceStatus := val}
      if newBits = driverOk then
        drainControlIn api (drainPendingRx api self 0 (world .rx)) (world .controlIn)
      else self
    else self

def reset (registers : QueueRegisters Q) (self : VirtioConsole Q) (world : Site → List (Turn ω)) : VirtioConsole Q :=
  let self := [0,1,2].foldl (fun self port => drainTxIntoCaptureBuf api self port (world (.tx port))) self
  {emit self .reset with
    deviceStatus := 0,interruptStatus := 0,queueSelect := 0,deviceFeaturesSel := 0,driverFeaturesSel := 0,
    driverFeatures := 0,
    ports := fun port => {self.ports port with pendingRx := [],opened := false,readied := false},
    controlOut := [],deviceReady := false,
    queues := fun index => registers.reset (self.queues index)}

def configureQueue (change : Q → Q) : VirtioConsole Q :=
  if queueConfigAllowed self then
    if inside : self.queueSelect.toNat < 8 then
      setQueue self ⟨self.queueSelect.toNat,inside⟩ (change (self.queues ⟨self.queueSelect.toNat,inside⟩))
    else self
  else self

def writeDriverFeatures (val : BitVec 32) : VirtioConsole Q :=
  if featuresWriteAllowed self then
    if self.driverFeaturesSel = 0 then
      {self with driverFeatures := self.driverFeatures &&& 0xFFFFFFFF00000000 ||| val.setWidth 64}
    else if self.driverFeaturesSel = 1 then
      {self with driverFeatures := self.driverFeatures &&& 0x00000000FFFFFFFF ||| val.setWidth 64 <<< 32}
    else self
  else self

def writeRegister (registers : QueueRegisters Q) (self : VirtioConsole Q) (offset : Nat) (val : BitVec 32)
    (world : Site → List (Turn ω)) : VirtioConsole Q :=
  match offset % 2 ^ 32 with
  | 0x14 => {self with deviceFeaturesSel := val}
  | 0x24 => {self with driverFeaturesSel := val}
  | 0x20 => writeDriverFeatures self val
  | 0x30 => {self with queueSelect := val}
  | 0x38 => configureQueue self fun queue => registers.setSize queue (UInt16.ofNat val.toNat)
  | 0x44 => configureQueue self fun queue => registers.setReady queue (val == 1)
  | 0x50 => notify api self val.toNat world
  | 0x64 => {self with interruptStatus := self.interruptStatus &&& ~~~val}
  | 0x70 => if val = 0 then reset api registers self world else setStatus api self val world
  | 0x80 => configureQueue self fun queue => registers.setDescTableAddress queue (some val) none
  | 0x84 => configureQueue self fun queue => registers.setDescTableAddress queue none (some val)
  | 0x90 => configureQueue self fun queue => registers.setAvailRingAddress queue (some val) none
  | 0x94 => configureQueue self fun queue => registers.setAvailRingAddress queue none (some val)
  | 0xa0 => configureQueue self fun queue => registers.setUsedRingAddress queue (some val) none
  | 0xa4 => configureQueue self fun queue => registers.setUsedRingAddress queue none (some val)
  | _ => self

def mmioWrite (registers : QueueRegisters Q) (self : VirtioConsole Q) (offset : Nat) (data : List UInt8)
    (world : Site → List (Turn ω)) : VirtioConsole Q :=
  if 0x100 ≤ offset ∧ offset < 0x10c then self
  else if data.length ≠ 4 then self
  else writeRegister api registers self offset (registerValue data) world

inductive Event (ω : Type)
  | setMem
  | queueInput (port : Fin 3) (data : List UInt8) (turns : List (Turn ω))
  | mmioWrite (offset : Nat) (data : List UInt8) (world : Site → List (Turn ω))
  | drainPortTx (port : Fin 3)
  | finalDrain (turns : List (Turn ω))
  | pushBackBulk (bytes : List UInt8)
  | clearPort2PendingRx

def step (registers : QueueRegisters Q) (self : VirtioConsole Q) : Event ω → VirtioConsole Q
  | .setMem => {self with mem := true}
  | .queueInput port data turns => queueInput api self port data turns
  | .mmioWrite offset data world => mmioWrite api registers self offset data world
  | .drainPortTx port => drainPortTx self port
  | .finalDrain turns => finalDrain api self turns
  | .pushBackBulk bytes => pushBackBulk self bytes
  | .clearPort2PendingRx => clearPort2PendingRx self

end

end Ktstr.Source.Console
