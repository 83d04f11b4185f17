import Ktstr.Library.Words
import Ktstr.Source.VmMemory

/-! `virtio_net/device.rs`: transmitted frames are looped back into the guest's receive
chains. A function that may panic answers with an option, `none` where an index, a slice,
an `expect` or an arithmetic operation fails; a device that has panicked does nothing
more. One turn of the transmit loop holds what both queues and guest memory answer. -/
namespace Ktstr.Source.Net
open Library.Bytes Library.Words BlkRequest Drain Registers VmMemory

def hdrLen : Nat := 12

def maxFrameSize : Nat := 65536

def txDescMax : Nat := maxFrameSize

def netDeviceFeatures : BitVec 64 := fVersion1 ||| 1 <<< 5

def rxq : Fin 2 := 0

def txq : Fin 2 := 1

structure VirtioNetCounters where
  txPackets : UInt64 := 0
  txBytes : UInt64 := 0
  rxPackets : UInt64 := 0
  rxBytes : UInt64 := 0
  txDroppedNoRxBuffer : UInt64 := 0
  txChainInvalid : UInt64 := 0
  rxChainInvalid : UInt64 := 0
  rxWriteFailed : UInt64 := 0
  txAddUsedFailures : UInt64 := 0
  rxAddUsedFailures : UInt64 := 0
  invalidAvailIdxCount : UInt64 := 0

/-- What the device did with the chains it was given. A receive entry holds the frame it
was for, and guest memory as the guest finds it. -/
inductive Effect
  | txCaptured (chain : Chain) (mem : GuestMemoryMmap) (frame : Option (List UInt8))
  | rxPopped (frame : List UInt8) (chain : Chain) (mem : GuestMemoryMmap)
  | rxPublished (frame : List UInt8) (chain : Chain) (before after : GuestMemoryMmap) (len : UInt32) (rejected : Bool)

/-- The device. `history` is what has happened so far, oldest first; nothing reads it. -/
structure VirtioNet (Q : Type) where
  queues : Fin 2 → Q
  queueSelect : BitVec 32 := 0
  deviceFeaturesSel : BitVec 32 := 0
  driverFeaturesSel : BitVec 32 := 0
  driverFeatures : BitVec 64 := 0
  deviceStatus : BitVec 32 := 0
  interruptStatus : BitVec 32 := 0
  mem : Bool := false
  counters : VirtioNetCounters := {}
  txFrameScratch : List UInt8 := []
  queuePoisoned : Fin 2 → Bool := fun _ => false
  panicked : Bool := false
  history : List Effect := []

/-- One turn of the transmit loop: the memory each queue operation sees, and guest memory
as the transmitted and the received chain's buffers see it. -/
structure Turn (ω : Type) where
  txPop : ω
  txMem : GuestMemoryMmap
  rxPop : ω
  rxMem : GuestMemoryMmap
  rxUsed : ω
  txUsed : ω

def subslice (bytes : List UInt8) (start stop : Nat) : Option (List UInt8) :=
  if start ≤ stop ∧ stop ≤ bytes.length then some (slice bytes start stop) else none

def addrAdd (addr : UInt64) (offset : Nat) : Option UInt64 :=
  (checkedAdd addr.toNat offset).map UInt64.ofNat

def checkedAdd32 (first second : Nat) : Option Nat := if first + second < 2 ^ 32 then some (first + second) else none

structure TxWalk where
  scratch : List UInt8 := []
  hdrRemaining : Nat := hdrLen
  totalDataBytes : Nat := 0
  chainInvalid : Bool := false

/-- The bytes of a transmit descriptor past what is left of the header; an address that
overflows is told apart from a panic. -/
def skipHeader (hdrRemaining descLen : Nat) (addr : UInt64) : Option (Option (Nat × Nat × UInt64)) :=
  if hdrRemaining > 0 then
    let skip := min hdrRemaining descLen
    match addrAdd addr skip with
    | none => some none
    | some newAddr => do
      let hdrRemaining ← checkedSub hdrRemaining skip
      let descLen ← checkedSub descLen skip
      return some (hdrRemaining,descLen,newAddr)
  else some (some (hdrRemaining,descLen,addr))

def txWalk (mem : GuestMemoryMmap) : List ChainDescriptor → TxWalk → Option TxWalk
  | [],state => some state
  | desc::descs,state =>
    if desc.isWriteOnly then some {state with chainInvalid := true}
    else do
      match ← skipHeader state.hdrRemaining (min desc.len.toNat txDescMax) desc.addr with
      | none => return {state with chainInvalid := true}
      | some (hdrRemaining,descLen,descAddr) =>
        let state := {state with hdrRemaining := hdrRemaining}
        if descLen = 0 then txWalk mem descs state
        else
          let remaining := maxFrameSize - state.totalDataBytes
          let take := min descLen remaining
          if take = 0 then return state
          else
            let _ ← checkedAdd state.scratch.length take
            match mem.readSlice descAddr take with
            | none => return {state with chainInvalid := true}
            | some bytes =>
              let totalDataBytes ← checkedAdd state.totalDataBytes take
              txWalk mem descs {state with scratch := state.scratch ++ bytes,totalDataBytes := totalDataBytes}

def rxHdr : List UInt8 := [0,0,0,0,0,0,0,0,0,0,1,0]

/-- The walk of a receive chain. `slots` is the filled part of the table of twelve places
the header was written to. -/
structure RxWalk where
  mem : GuestMemoryMmap
  bytesWritten : Nat := 0
  hdrRemaining : Nat := hdrLen
  framePos : Nat := 0
  slots : List (UInt64 × Nat) := []

inductive InvalidReason
  | shape
  | writeFailed
deriving DecidableEq

def pushSlot (slots : List (UInt64 × Nat)) (slot : UInt64 × Nat) : Option (List (UInt64 × Nat)) :=
  if slots.length < hdrLen then some (slots ++ [slot]) else none

/-- What is left of the header goes into a receive descriptor first: the walk with the
rest of the descriptor, or the reason the chain is rejected. -/
def placeHeader (state : RxWalk) (addr : UInt64) (descLen : Nat) :
    Option (RxWalk × Except InvalidReason (Nat × UInt64)) :=
  if state.hdrRemaining > 0 then do
    let take := min state.hdrRemaining descLen
    let hdrStart ← checkedSub hdrLen state.hdrRemaining
    let hdrSlice ← subslice rxHdr hdrStart (hdrStart + take)
    match state.mem.writeSlice hdrSlice addr with
    | (mem,false) => return ({state with mem := mem},.error .writeFailed)
    | (mem,true) =>
      let slots ← pushSlot state.slots (addr,take)
      let state := {state with mem := mem,slots := slots}
      match addrAdd addr take with
      | none => return (state,.error .shape)
      | some newAddr =>
        let bytesWritten ← checkedAdd32 state.bytesWritten take
        let hdrRemaining ← checkedSub state.hdrRemaining take
        let descLen ← checkedSub descLen take
        return ({state with bytesWritten := bytesWritten,hdrRemaining := hdrRemaining},.ok (descLen,newAddr))
  else some (state,.ok (descLen,addr))

/-- The frame bytes that go into the rest of a receive descriptor: the walk, and whether
the write went through. -/
def placeFrame (scratch : List UInt8) (frameLen : Nat) (state : RxWalk) (addr : UInt64) (descLen : Nat) :
    Option (RxWalk × Bool) := do
  let left ← checkedSub frameLen state.framePos
  let take := min descLen left
  let bytes ← subslice scratch state.framePos (state.framePos + take)
  match state.mem.writeSlice bytes addr with
  | (mem,false) => return ({state with mem := mem},false)
  | (mem,true) =>
    let bytesWritten ← checkedAdd32 state.bytesWritten take
    return ({state with mem := mem,bytesWritten := bytesWritten,framePos := state.framePos + take},true)

/-- The descriptors of a receive chain, up to the one that completes the frame or the one
that rejects the chain. -/
def rxWalk (scratch : List UInt8) (frameLen : Nat) :
    List ChainDescriptor → RxWalk → Option (RxWalk × Option InvalidReason)
  | [],state => some (state,none)
  | desc::descs,state =>
    if !desc.isWriteOnly then some (state,some .shape)
    else do
      match ← placeHeader state desc.addr desc.len.toNat with
      | (state,.error reason) => return (state,some reason)
      | (state,.ok (descLen,descAddr)) =>
        if descLen = 0 ∨ state.framePos = frameLen then rxWalk scratch frameLen descs state
        else
          match ← placeFrame scratch frameLen state descAddr descLen with
          | (state,false) => return (state,some .writeFailed)
          | (state,true) =>
            if state.framePos = frameLen ∧ state.hdrRemaining = 0 then return (state,none)
            else rxWalk scratch frameLen descs state

def rollBack (mem : GuestMemoryMmap) (slots : List (UInt64 × Nat)) : Option GuestMemoryMmap :=
  slots.foldlM (fun mem slot => do
    let zeros ← subslice (List.replicate hdrLen 0) 0 slot.2
    return (mem.writeSlice zeros slot.1).1) mem

inductive TxPopOutcome
  | empty
  | justPoisoned
  | chain (chain : Chain) (frameLen : Option Nat)

inductive LoopbackOutcome
  | delivered (l2BytesWritten : Nat)
  | deliveredButAddUsedFailed
  | noRxBuffer
  | rxChainInvalid (addUsedOk : Bool)
  | justRxPoisoned
  | rxAlreadyPoisoned

section
variable {Q ω : Type} (api : QueueApi Q ω)

variable (self : VirtioNet Q)

def emit (effect : Effect) : VirtioNet Q := {self with history := self.history ++ [effect]}

def setQueue (index : Fin 2) (queue : Q) : VirtioNet Q :=
  {self with queues := Function.update self.queues index queue}

def count (record : VirtioNetCounters → VirtioNetCounters) : VirtioNet Q :=
  {self with counters := record self.counters}

def panic : VirtioNet Q := {self with panicked := true}

def poison (index : Fin 2) : VirtioNet Q :=
  count {self with queuePoisoned := Function.update self.queuePoisoned index true} fun counters =>
    {counters with invalidAvailIdxCount := counters.invalidAvailIdxCount + 1}

def recordTxCompleted (frameBytes : Nat) (counters : VirtioNetCounters) : VirtioNetCounters :=
  {counters with
    txPackets := counters.txPackets + 1,txBytes := counters.txBytes + UInt64.ofNat frameBytes}

def recordRxDelivered (frameBytes : Nat) (counters : VirtioNetCounters) : VirtioNetCounters :=
  {counters with
    rxPackets := counters.rxPackets + 1,rxBytes := counters.rxBytes + UInt64.ofNat frameBytes}

variable (turn : Turn ω)

def popAndCaptureTx : VirtioNet Q × TxPopOutcome :=
  if self.queuePoisoned txq then (self,.empty)
  else
    match api.iterNext turn.txPop (self.queues txq) with
    | (queue,.error _) => (poison (setQueue self txq queue) txq,.justPoisoned)
    | (queue,.ok none) => (setQueue self txq queue,.empty)
    | (queue,.ok (some chain)) =>
      let self := setQueue self txq queue
      match txWalk turn.txMem chain.descriptors {} with
      | none => (panic self,.empty)
      | some state =>
        let self := {self with txFrameScratch := state.scratch}
        if state.chainInvalid ∨ state.hdrRemaining ≠ 0 then
          let self := count self fun counters => {counters with txChainInvalid := counters.txChainInvalid + 1}
          (emit self (.txCaptured chain turn.txMem none),.chain chain none)
        else
          (emit self (.txCaptured chain turn.txMem (some (state.scratch.take state.totalDataBytes))),
            .chain chain (some state.totalDataBytes))

def rejectChain (frame : List UInt8) (chain : Chain) (state : RxWalk) (reason : InvalidReason) :
    VirtioNet Q × LoopbackOutcome :=
  let self := count self fun counters =>
    match reason with
    | .shape => {counters with rxChainInvalid := counters.rxChainInvalid + 1}
    | .writeFailed => {counters with rxWriteFailed := counters.rxWriteFailed + 1}
  match rollBack state.mem state.slots with
  | none => (panic self,.rxChainInvalid false)
  | some mem =>
    match api.addUsed turn.rxUsed (self.queues rxq) chain.headIndex 0 with
    | (queue,true) =>
      (emit (setQueue self rxq queue) (.rxPublished frame chain turn.rxMem mem 0 true),.rxChainInvalid true)
    | (queue,false) =>
      (count (setQueue self rxq queue) fun counters =>
        {counters with rxAddUsedFailures := counters.rxAddUsedFailures + 1},.rxChainInvalid false)

def deliverChain (frame : List UInt8) (chain : Chain) (state : RxWalk) : VirtioNet Q × LoopbackOutcome :=
  match checkedSub hdrLen state.hdrRemaining with
  | none => (panic self,.rxAlreadyPoisoned)
  | some hdrTaken =>
    let len := UInt32.ofNat state.bytesWritten
    match api.addUsed turn.rxUsed (self.queues rxq) chain.headIndex len with
    | (queue,true) =>
      (emit (setQueue self rxq queue) (.rxPublished frame chain turn.rxMem state.mem len false),
        .delivered (state.bytesWritten - hdrTaken))
    | (queue,false) =>
      (count (setQueue self rxq queue) fun counters =>
        {counters with rxAddUsedFailures := counters.rxAddUsedFailures + 1},.deliveredButAddUsedFailed)

def tryLoopbackToRx (frameLen : Nat) : VirtioNet Q × LoopbackOutcome :=
  if self.queuePoisoned rxq then (self,.rxAlreadyPoisoned)
  else if !api.ready (self.queues rxq) then (self,.noRxBuffer)
  else
    match api.iterNext turn.rxPop (self.queues rxq) with
    | (queue,.error _) => (poison (setQueue self rxq queue) rxq,.justRxPoisoned)
    | (queue,.ok none) => (setQueue self rxq queue,.noRxBuffer)
    | (queue,.ok (some chain)) =>
      let frame := self.txFrameScratch.take frameLen
      let self := emit (setQueue self rxq queue) (.rxPopped frame chain turn.rxMem)
      match rxWalk self.txFrameScratch frameLen chain.descriptors {mem := turn.rxMem} with
      | none => (panic self,.rxAlreadyPoisoned)
      | some (state,some reason) => rejectChain api self turn frame chain state reason
      | some (state,none) => deliverChain api self turn frame chain state

structure Drained where
  hadUsedRingPublish : Bool := false
  txJustPoisoned : Bool := false
  rxJustPoisoned : Bool := false

def loopBack (seen : Drained) : Option Nat → VirtioNet Q × Drained
  | none => (self,seen)
  | some frameLen =>
    match tryLoopbackToRx api self turn frameLen with
    | (self,.delivered l2) => (count self (recordRxDelivered l2),{seen with hadUsedRingPublish := true})
    | (self,.justRxPoisoned) => (self,{seen with rxJustPoisoned := true})
    | (self,.noRxBuffer) =>
      (count self fun counters => {counters with txDroppedNoRxBuffer := counters.txDroppedNoRxBuffer + 1},seen)
    | (self,.rxChainInvalid addUsedOk) => (self,{seen with hadUsedRingPublish := seen.hadUsedRingPublish || addUsedOk})
    | (self,.deliveredButAddUsedFailed) => (self,seen)
    | (self,.rxAlreadyPoisoned) => (self,seen)

def completeTx (chain : Chain) (frameLen : Option Nat) (seen : Drained) : VirtioNet Q × Drained :=
  match api.addUsed turn.txUsed (self.queues txq) chain.headIndex 0 with
  | (queue,true) =>
    let self := setQueue self txq queue
    (match frameLen with
      | some len => count self (recordTxCompleted len)
      | none => self,
      {seen with hadUsedRingPublish := true})
  | (queue,false) =>
    (count (setQueue self txq queue) fun counters =>
      {counters with txAddUsedFailures := counters.txAddUsedFailures + 1},seen)

def loopbackLoop : List (Turn ω) → VirtioNet Q → Drained → VirtioNet Q × Drained
  | [],self,seen => (self,seen)
  | turn::turns,self,seen =>
    match popAndCaptureTx api self turn with
    | (self,.empty) => (self,seen)
    | (self,.justPoisoned) => (self,{seen with txJustPoisoned := true})
    | (self,.chain chain frameLen) =>
      let (self,seen) := loopBack api self turn seen frameLen
      if self.panicked then (self,seen)
      else
        let (self,seen) := completeTx api self turn chain frameLen seen
        if seen.rxJustPoisoned then (self,seen) else loopbackLoop turns self seen

def signalUsed : VirtioNet Q := {self with interruptStatus := self.interruptStatus ||| 1}

def signalQueuePoisoned : VirtioNet Q :=
  {self with
    deviceStatus := self.deviceStatus ||| statusNeedsReset,interruptStatus := self.interruptStatus ||| 2}

def processTxLoopback (turns : List (Turn ω)) : VirtioNet Q :=
  if self.deviceStatus &&& driverOk = 0 then self
  else if !self.mem then self
  else
    let (self,seen) := loopbackLoop api turns self {}
    if self.panicked then self
    else
      let self := if seen.hadUsedRingPublish then signalUsed self else self
      if seen.txJustPoisoned || seen.rxJustPoisoned then signalQueuePoisoned self else self

def queueConfigAllowed : Bool :=
  self.deviceStatus &&& sFeat == sFeat && self.deviceStatus &&& driverOk == 0

def featuresWriteAllowed : Bool :=
  self.deviceStatus &&& sDrv == sDrv && self.deviceStatus &&& featuresOk == 0

def validTransition (newBits : BitVec 32) : Bool :=
  if newBits = acknowledge then self.deviceStatus == 0
  else if newBits = driver then self.deviceStatus == sAck
  else if newBits = featuresOk then self.deviceStatus == sDrv
  else if newBits = driverOk then self.deviceStatus == sFeat
  else false

/-- FEATURES_OK with features that were not offered, or without VERSION_1, fails the device. -/
def setStatus (val : BitVec 32) : VirtioNet Q :=
  if val &&& self.deviceStatus ≠ self.deviceStatus then self
  else
    let newBits := val &&& ~~~self.deviceStatus
    if !validTransition self newBits then self
    else if newBits = featuresOk ∧
        (self.driverFeatures &&& ~~~netDeviceFeatures ≠ 0 ∨ self.driverFeatures &&& fVersion1 = 0) then
      {self with deviceStatus := self.deviceStatus ||| statusFailed}
    else {self with deviceStatus := val}

def reset (registers : QueueRegisters Q) (self : VirtioNet Q) : VirtioNet Q :=
  {self with
    deviceStatus := 0,interruptStatus := 0,queueSelect := 0,deviceFeaturesSel := 0,driverFeaturesSel := 0,
    driverFeatures := 0,txFrameScratch := [],queuePoisoned := fun _ => false,
    queues := fun index => registers.reset (self.queues index)}

def configureQueue (change : Q → Q) : VirtioNet Q :=
  if queueConfigAllowed self then
    if inside : self.queueSelect.toNat < 2 then
      setQueue self ⟨self.queueSelect.toNat,inside⟩ (change (self.queues ⟨self.queueSelect.toNat,inside⟩))
    else self
  else self

def writeDriverFeatures (val : BitVec 32) : VirtioNet Q :=
  if featuresWriteAllowed self then
    if self.driverFeaturesSel = 0 then
      {self with driverFeatures := self.driverFeatures &&& 0xFFFFFFFF00000000 ||| val.setWidth 64}
    else if self.driverFeaturesSel = 1 then
      {self with driverFeatures := self.driverFeatures &&& 0x00000000FFFFFFFF ||| val.setWidth 64 <<< 32}
    else self
  else self

def mmioWrite (registers : QueueRegisters Q) (self : VirtioNet Q) (offset : Nat) (data : List UInt8)
    (turns : List (Turn ω)) : VirtioNet Q :=
  if offset ≥ 0x100 then self
  else if data.length ≠ 4 then self
  else
    let val := registerValue data
    match offset with
    | 0x14 => {self with deviceFeaturesSel := val}
    | 0x24 => {self with driverFeaturesSel := val}
    | 0x20 => writeDriverFeatures self val
    | 0x30 => {self with queueSelect := val}
    | 0x38 => configureQueue self fun queue => registers.setSize queue (UInt16.ofNat val.toNat)
    | 0x44 => configureQueue self fun queue => registers.setReady queue (val == 1)
    | 0x50 => if val = 1 then processTxLoopback api self turns else self
    | 0x64 => {self with interruptStatus := self.interruptStatus &&& ~~~val}
    | 0x70 => if val = 0 then reset registers self else setStatus self val
    | 0x80 => configureQueue self fun queue => registers.setDescTableAddress queue (some val) none
    | 0x84 => configureQueue self fun queue => registers.setDescTableAddress queue none (some val)
    | 0x90 => configureQueue self fun queue => registers.setAvailRingAddress queue (some val) none
    | 0x94 => configureQueue self fun queue => registers.setAvailRingAddress queue none (some val)
    | 0xa0 => configureQueue self fun queue => registers.setUsedRingAddress queue (some val) none
    | 0xa4 => configureQueue self fun queue => registers.setUsedRingAddress queue none (some val)
    | _ => self

def new (queues : Fin 2 → Q) : VirtioNet Q := {queues := queues}

inductive Event (ω : Type)
  | setMem
  | mmioWrite (offset : Nat) (data : List UInt8) (turns : List (Turn ω))

/-- A panic takes the device's thread down: it answers nothing more. -/
def step (registers : QueueRegisters Q) (self : VirtioNet Q) (event : Event ω) : VirtioNet Q :=
  if self.panicked then self
  else
    match event with
    | .setMem => {self with mem := true}
    | .mmioWrite offset data turns => mmioWrite api registers self offset data turns

end

end Ktstr.Source.Net
