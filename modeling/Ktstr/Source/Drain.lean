import Ktstr.Source.BlkRequest
import Ktstr.Source.Throttle

/-! `drain_bracket_impl` of `virtio_blk/drain.rs` as a resumable machine: one event
starts a call, every other event is one turn of the inner loop, up to and including
the end of the call when the turn leaves the loop. A run may stop between any two
turns, so a drain that the guest keeps busy forever is covered as well. -/
namespace Ktstr.Source.Drain
open BlkRequest Throttle

inductive IterError
  | invalidAvailRingIndex
  | other
deriving DecidableEq

structure Chain where
  headIndex : UInt16
  descriptors : List ChainDescriptor
deriving DecidableEq

/-- The virtqueue crate's interface. `ω` is what guest memory holds when an operation
runs, which the guest may change at any time. -/
structure QueueApi (Q ω : Type) where
  ready : Q → Bool
  nextAvail : Q → UInt16
  setNextAvail : Q → UInt16 → Q
  iterNext : ω → Q → Q × Except IterError (Option Chain)
  addUsed : ω → Q → UInt16 → UInt32 → Q × Bool
  disableNotification : ω → Q → Q
  enableNotification : ω → Q → Q × Option Bool
  needsNotification : ω → Q → Q × Option Bool

/-- Documented behaviour of the queue's avail cursor: taking a chain advances it by
one, setting it sets it, and nothing else moves it. -/
structure QueueApi.Lawful {Q ω : Type} (api : QueueApi Q ω) : Prop where
  popped : ∀ mem queue chain, (api.iterNext mem queue).2 = .ok (some chain) →
    api.nextAvail (api.iterNext mem queue).1 = api.nextAvail queue + 1
  idle : ∀ mem queue, (∀ chain, (api.iterNext mem queue).2 ≠ .ok (some chain)) →
    api.nextAvail (api.iterNext mem queue).1 = api.nextAvail queue
  rewound : ∀ queue position, api.nextAvail (api.setNextAvail queue position) = position
  used : ∀ mem queue head len, api.nextAvail (api.addUsed mem queue head len).1 = api.nextAvail queue
  disabled : ∀ mem queue, api.nextAvail (api.disableNotification mem queue) = api.nextAvail queue
  enabled : ∀ mem queue, api.nextAvail (api.enableNotification mem queue).1 = api.nextAvail queue
  notified : ∀ mem queue, api.nextAvail (api.needsNotification mem queue).1 = api.nextAvail queue

structure BlkWorkerState where
  opsBucket : TokenBucket
  bytesBucket : TokenBucket
  capacityBytes : Nat
  readOnly : Bool
  counters : Counters
  currentlyStalled : Bool
  queuePoisoned : Bool
deriving DecidableEq

structure Delays where
  opsCheck : Nat
  bytesCheck : Nat
  opsNext : Nat
  bytesNext : Nat

def Delays.total (self : Delays) : Nat := self.opsCheck + self.bytesCheck + self.opsNext + self.bytesNext

/-- Everything guest memory, the backing file and the clock answer during one turn. -/
structure Answer (ω : Type) where
  pop : ω
  used : ω
  enable : ω
  disable : ω
  signal : ω
  readHeader : UInt64 → Option OutHdr
  writeStatus : UInt64 → Bool
  io : IoAnswer
  delays : Delays

section
variable {Q ω : Type} (api : QueueApi Q ω)

/-- The status byte goes first; a chain is marked used only after it was written. -/
def publishCompletion (answer : Answer ω) (queue : Q) (head : UInt16) (statusAddr : UInt64)
    (statusByte : UInt8) (usedLen : UInt32) : Q × List Effect × Bool :=
  if answer.writeStatus statusAddr then
    match api.addUsed answer.used queue head usedLen with
    | (queue,true) => (queue,[.statusByte statusAddr statusByte true,.addUsed head usedLen true],true)
    | (queue,false) =>
      (queue,[.statusByte statusAddr statusByte true,.addUsed head usedLen false,.recordIoError],false)
  else (queue,[.statusByte statusAddr statusByte false,.recordIoError],false)

def scratchCap : Nat := segMax + 2

def headerAddr : List ChainDescriptor → Option UInt64
  | [] => none
  | first::_ => if !first.isWriteOnly && decide (outhdrSize ≤ first.len.toNat) then some first.addr else none

def statusAddr : List ChainDescriptor → Option UInt64
  | [] => none
  | _::rest =>
    match rest.getLast? with
    | none => none
    | some last =>
      if last.isWriteOnly && decide (1 ≤ last.len.toNat) then
        if last.addr.toNat + (last.len.toNat - 1) < 2 ^ 64 then
          some (last.addr + UInt64.ofNat (last.len.toNat - 1))
        else none
      else none

def dataLen (segs : List ChainDescriptor) : Nat := (segs.map fun seg => seg.len.toNat).sum

/-- Structural validation of a request whose header was read; each test rejects it
with an I/O error. -/
def malformed (reqType : UInt32) (segs : List ChainDescriptor) : Bool :=
  segs.any (fun seg => decide (sizeMax < seg.len.toNat)) ||
    ((reqType == tIn || reqType == tOut || reqType == tGetId) && segs.isEmpty) ||
    (reqType == tFlush && !segs.isEmpty) ||
    ((reqType == tIn || reqType == tOut) && dataLen segs % sectorSize != 0)

def directionViolation (reqType : UInt32) (segs : List ChainDescriptor) : Bool :=
  if reqType = tIn ∨ reqType = tGetId then segs.any fun seg => !seg.isWriteOnly
  else if reqType = tOut then segs.any fun seg => seg.isWriteOnly
  else false

/-- The throttle gate: both buckets are asked before either is charged. A stall
answers with the longer of the two waits. -/
def throttleGate (state : BlkWorkerState) (now : Nat) (delays : Delays) (dataLen : Nat) :
    BlkWorkerState × List Effect × Option Nat :=
  let opsTime := now + delays.opsCheck
  let bytesTime := opsTime + delays.bytesCheck
  let opsNext := bytesTime + delays.opsNext
  let bytesNext := opsNext + delays.bytesNext
  let (opsBucket,opsOk) := state.opsBucket.canConsume opsTime 1
  let (bytesBucket,bytesOk) := state.bytesBucket.canConsume bytesTime dataLen
  if !opsOk || !bytesOk then
    let (opsBucket,opsWait) := if !opsOk then opsBucket.nanosUntilNTokens opsNext 1 else (opsBucket,0)
    let (bytesBucket,bytesWait) :=
      if !bytesOk then bytesBucket.nanosUntilNTokens bytesNext dataLen else (bytesBucket,0)
    ({state with opsBucket := opsBucket,bytesBucket := bytesBucket,currentlyStalled := true},
      .recordThrottled::(if state.currentlyStalled then [] else [.recordThrottlePendingInc]),
      some (max opsWait bytesWait))
  else
    ({state with
        opsBucket := (opsBucket.consume opsNext 1).1,bytesBucket := (bytesBucket.consume bytesNext dataLen).1,
        currentlyStalled := false},
      if state.currentlyStalled then [.recordThrottlePendingDec] else [],none)

/-- How a turn ended: a completion was attempted (and the guest is to be signalled or
not), the chain was dropped without one, or it was handed back to the queue. -/
inductive Served
  | published (signal : Bool)
  | dropped
  | stalled (waitNanos : Nat)
deriving DecidableEq

def serveChain (state : BlkWorkerState) (now : Nat) (answer : Answer ω) (queue : Q) (chain : Chain) :
    Q × BlkWorkerState × List Effect × Served :=
  if scratchCap < chain.descriptors.length then (queue,state,[.recordIoError],.dropped)
  else
    match statusAddr chain.descriptors with
    | none => (queue,state,[.recordIoError],.dropped)
    | some status =>
      let publish (state : BlkWorkerState) (before : List Effect) (statusByte : UInt8) (usedLen : UInt32) :=
        let (queue,effects,signal) := publishCompletion api answer queue chain.headIndex status statusByte usedLen
        (queue,state,before ++ effects,Served.published signal)
      match headerAddr chain.descriptors with
      | none => publish state [.recordIoError] sIoerr 1
      | some header =>
        match answer.readHeader header with
        | none => publish state [.recordIoError] sIoerr 1
        | some hdr =>
          let segs := (chain.descriptors.drop 1).dropLast
          if malformed hdr.type segs then publish state [.recordIoError] sIoerr 1
          else
            match classifyPreThrottle hdr.type state.readOnly with
            | some (effects,statusByte,usedLen) => publish state effects statusByte usedLen
            | none =>
              if directionViolation hdr.type segs then publish state [.recordIoError] sIoerr 1
              else
                match throttleGate state now answer.delays (dataLen segs) with
                | (state,effects,some waitNanos) =>
                  (api.setNextAvail queue (api.nextAvail queue - 1),state,effects ++ [.rewind],.stalled waitNanos)
                | (state,effects,none) =>
                  let (handled,statusByte,usedLen) :=
                    dispatch answer.io state.capacityBytes hdr segs (dataLen segs)
                  publish state (effects ++ handled) statusByte usedLen

inductive DrainOutcome
  | done
  | throttleStalled (waitNanos : Nat)
deriving DecidableEq

/-- Between calls, with what the last one returned, or inside a call's inner loop. -/
inductive Phase
  | returned (outcome : DrainOutcome)
  | draining (signalNeeded : Bool)
deriving DecidableEq

structure Turn where
  position : UInt16
  head : UInt16
  effects : List Effect

structure Device (Q : Type) where
  queue : Q
  state : BlkWorkerState
  deviceStatus : BitVec 32
  interruptStatus : BitVec 32
  irqWrites : Nat
  now : Nat
  phase : Phase
  turns : List Turn

inductive Event (ω : Type)
  | call (delay : Nat) (disable : ω)
  | turn (answer : Answer ω)

def statusNeedsReset : BitVec 32 := 64

def intVring : BitVec 32 := 1

def intConfig : BitVec 32 := 2

variable (self : Device Q) (answer : Answer ω) (signalNeeded : Bool)

/-- The end of a call: the completion interrupt, unless event suppression says not
to; a failed query fires it anyway. -/
def finish (outcome : DrainOutcome) : Device Q :=
  if signalNeeded then
    let (queue,fire) := api.needsNotification answer.signal self.queue
    {self with
      queue := queue,interruptStatus := self.interruptStatus ||| intVring,
      irqWrites := self.irqWrites + (if fire.getD true then 1 else 0),phase := .returned outcome}
  else {self with phase := .returned outcome}

def poison (effect : Effect) (signalNeeded : Bool) : Device Q :=
  finish api {self with
    state := {self.state with queuePoisoned := true,counters := self.state.counters.record effect},
    deviceStatus := self.deviceStatus ||| statusNeedsReset,
    interruptStatus := self.interruptStatus ||| intConfig,irqWrites := self.irqWrites + 1}
    answer signalNeeded .done

/-- The end of an inner loop that found no chain: leave, unless the guest published
more between the last pop and the re-enabled notification. -/
def exhausted : Device Q :=
  let (queue,more) := api.enableNotification answer.enable self.queue
  if more = some true then
    {self with queue := api.disableNotification answer.disable queue,phase := .draining signalNeeded}
  else finish api {self with queue := queue} answer signalNeeded .done

def turn : Device Q :=
  match api.iterNext answer.pop self.queue with
  | (queue,.error .invalidAvailRingIndex) =>
    poison api {self with queue := queue} answer .recordInvalidAvailIdx signalNeeded
  | (queue,.error .other) => poison api {self with queue := queue} answer .recordIoError signalNeeded
  | (queue,.ok none) => exhausted api {self with queue := queue} answer signalNeeded
  | (queue,.ok (some chain)) =>
    let (queue,state,effects,served) := serveChain api self.state self.now answer queue chain
    let self := {self with
      queue := queue,state := {state with counters := effects.foldl Counters.record state.counters},
      now := self.now + answer.delays.total,
      turns := self.turns ++ [Turn.mk (api.nextAvail self.queue) chain.headIndex effects]}
    match served with
    | .published signal => {self with phase := .draining (signalNeeded || signal)}
    | .dropped => {self with phase := .draining signalNeeded}
    | .stalled waitNanos =>
      finish api {self with queue := (api.enableNotification answer.enable self.queue).1} answer signalNeeded
        (.throttleStalled waitNanos)

/-- A call that finds the queue not ready or poisoned returns at once. A turn outside
a call, or a call inside another, does not happen. -/
def step : Event ω → Device Q
  | .call delay disable =>
    match self.phase with
    | .draining _ => self
    | .returned _ =>
      let self := {self with now := self.now + delay}
      if !api.ready self.queue || self.state.queuePoisoned then {self with phase := .returned .done}
      else {self with queue := api.disableNotification disable self.queue,phase := .draining false}
  | .turn answer =>
    match self.phase with
    | .draining signalNeeded => turn api self answer signalNeeded
    | .returned _ => self

end

end Ktstr.Source.Drain
