import Ktstr.Library.Bytes
import Ktstr.Source.Drain

/-! The register side of `virtio_blk/device.rs`: guest MMIO writes, the status state
machine with its compare-exchange loop, and reset in both engine variants. -/
namespace Ktstr.Source.Registers
open Library.Bytes BlkRequest Throttle Drain

def acknowledge : BitVec 32 := 1

def driver : BitVec 32 := 2

def driverOk : BitVec 32 := 4

def featuresOk : BitVec 32 := 8

def statusFailed : BitVec 32 := 128

def sAck : BitVec 32 := acknowledge

def sDrv : BitVec 32 := sAck ||| driver

def sFeat : BitVec 32 := sDrv ||| featuresOk

def fVersion1 : BitVec 64 := 1 <<< 32

def fEventIdx : BitVec 64 := 1 <<< 29

def baseFeatures : BitVec 64 := fVersion1 ||| 1 <<< 6 ||| 1 <<< 2 ||| 1 <<< 1 ||| 1 <<< 9 ||| fEventIdx

def fRo : BitVec 64 := 1 <<< 5

structure QueueRegisters (Q : Type) where
  size : Q → UInt16
  ready : Q → Bool
  descTable : Q → UInt64
  availRing : Q → UInt64
  usedRing : Q → UInt64
  setSize : Q → UInt16 → Q
  setReady : Q → Bool → Q
  setDescTableAddress : Q → Option (BitVec 32) → Option (BitVec 32) → Q
  setAvailRingAddress : Q → Option (BitVec 32) → Option (BitVec 32) → Q
  setUsedRingAddress : Q → Option (BitVec 32) → Option (BitVec 32) → Q
  setEventIdx : Q → Bool → Q
  reset : Q → Q

def QueueRegisters.layout {Q : Type} (api : QueueRegisters Q) (queue : Q) :
    UInt16 × Bool × UInt64 × UInt64 × UInt64 :=
  (api.size queue,api.ready queue,api.descTable queue,api.availRing queue,api.usedRing queue)

/-- Documented behaviour: enabling event suppression configures nothing else. -/
structure QueueRegisters.Lawful {Q : Type} (api : QueueRegisters Q) : Prop where
  eventIdx : ∀ queue on, api.layout (api.setEventIdx queue on) = api.layout queue

/-- Test builds drain on the caller's thread; production builds own a worker thread,
or the state of a stopped one that waits for DRIVER_OK, or neither once a stop or a
spawn has failed. -/
inductive WorkerEngine
  | inline (state : BlkWorkerState)
  | spawned (worker respawnPending : Option BlkWorkerState)

structure VirtioBlk (Q : Type) where
  queueSelect : BitVec 32
  deviceFeaturesSel : BitVec 32
  driverFeaturesSel : BitVec 32
  driverFeatures : BitVec 64
  deviceStatus : BitVec 32
  interruptStatus : BitVec 32
  configGeneration : BitVec 32
  queue : Q
  readOnly : Bool
  throttle : DiskThrottle
  engine : WorkerEngine

/-- The two builds: `cfg(test)` drains inline, the other owns a worker thread. -/
inductive Build
  | test
  | production
deriving DecidableEq

/-- A device as constructed; the capacity is clipped to whole sectors, and a production
device waits for DRIVER_OK with its worker state pending. -/
def withOptions {Q : Type} (build : Build) (queue : Q) (capacityBytes : Nat) (throttle : DiskThrottle)
    (readOnly : Bool) (now : Nat) : VirtioBlk Q :=
  let state : BlkWorkerState :=
    { opsBucket := (bucketsFromThrottle throttle now).1
      bytesBucket := (bucketsFromThrottle throttle now).2
      capacityBytes := capacityBytes / sectorSize * sectorSize
      readOnly := readOnly
      counters := {}
      currentlyStalled := false
      queuePoisoned := false }
  { queueSelect := 0
    deviceFeaturesSel := 0
    driverFeaturesSel := 0
    driverFeatures := 0
    deviceStatus := 0
    interruptStatus := 0
    configGeneration := 0
    queue := queue
    readOnly := readOnly
    throttle := throttle
    engine :=
      match build with
      | .test => .inline state
      | .production => .spawned none (some state) }

/-- What the host answers during one MMIO write: the instant buckets are built at,
whether a stopping worker was joined in time, whether a new one could be spawned, and
before which compare-exchange the worker's NEEDS_RESET lands. -/
structure Host where
  now : Nat
  joined : Bool
  spawns : Bool
  races : Nat → Bool

section
variable {Q : Type}

variable (self : VirtioBlk Q)

def deviceFeatures : BitVec 64 :=
  if self.readOnly then baseFeatures ||| fRo else baseFeatures

def queueConfigAllowed : Bool :=
  self.deviceStatus &&& sFeat == sFeat && self.deviceStatus &&& driverOk == 0

def featuresWriteAllowed : Bool :=
  self.deviceStatus &&& sDrv == sDrv && self.deviceStatus &&& featuresOk == 0

def rebuild (throttle : DiskThrottle) (now : Nat) (state : BlkWorkerState) : BlkWorkerState :=
  {state with
    opsBucket := (bucketsFromThrottle throttle now).1,bytesBucket := (bucketsFromThrottle throttle now).2,
    counters :=
      if state.currentlyStalled then state.counters.record .recordThrottlePendingDec else state.counters,
    currentlyStalled := false,queuePoisoned := false}

variable (host : Host)

/-- Only a state that is pending is respawned; a failed spawn loses it. -/
def consumePendingRespawn : VirtioBlk Q :=
  match self.engine with
  | .spawned _ (some state) =>
    {self with engine := .spawned (if host.spawns then some (rebuild self.throttle host.now state) else none) none}
  | _ => self

/-- A second reset before DRIVER_OK keeps the state that is already pending. -/
def resetEngine : WorkerEngine :=
  match self.engine with
  | .inline state => .inline (rebuild self.throttle host.now state)
  | .spawned worker (some state) => .spawned worker (some state)
  | .spawned worker none => .spawned none (if host.joined then worker else none)

def reset (api : QueueRegisters Q) (self : VirtioBlk Q) (host : Host) : VirtioBlk Q :=
  {self with
    queueSelect := 0,deviceFeaturesSel := 0,driverFeaturesSel := 0,driverFeatures := 0,
    configGeneration := self.configGeneration + 1,engine := resetEngine self host,queue := api.reset self.queue,
    interruptStatus := 0,deviceStatus := 0}

def validTransition (current newBits : BitVec 32) : Bool :=
  if newBits = acknowledge then current == 0
  else if newBits = driver then current == sAck
  else if newBits = featuresOk then
    current == sDrv && self.driverFeatures &&& fVersion1 != 0 && self.driverFeatures &&& ~~~deviceFeatures self == 0
  else if newBits = driverOk then current == sFeat
  else false

def committed (api : QueueRegisters Q) (self : VirtioBlk Q) (host : Host) (newBits : BitVec 32) : VirtioBlk Q :=
  if newBits = featuresOk ∧ self.driverFeatures &&& fEventIdx ≠ 0 then
    {self with queue := api.setEventIdx self.queue true}
  else if newBits = driverOk then consumePendingRespawn self host
  else self

/-- The compare-exchange loop of `set_status`: the device, and how many exchanges were
attempted. `budget` is what is left of the retry budget; the worker may raise
NEEDS_RESET between the value at hand and each attempt. -/
def setStatusLoop (api : QueueRegisters Q) (host : Host) (val : BitVec 32) (budget attempts : Nat)
    (current : BitVec 32) (self : VirtioBlk Q) : VirtioBlk Q × Nat :=
  if val &&& current ≠ current then (self,attempts)
  else
    let newBits := val &&& ~~~current
    if newBits = 0 then (self,attempts)
    else if newBits = statusFailed ∨ validTransition self current newBits then
      let observed :=
        if host.races attempts then self.deviceStatus ||| statusNeedsReset else self.deviceStatus
      if observed = current then
        let self := {self with deviceStatus := val}
        (if newBits = statusFailed then self else committed api self host newBits,attempts + 1)
      else
        match budget with
        | 0 => ({self with deviceStatus := observed},attempts + 1)
        | budget + 1 =>
          setStatusLoop api host val budget (attempts + 1) observed {self with deviceStatus := observed}
    else (self,attempts)

def maxCasRetries : Nat := 4

def setStatus (api : QueueRegisters Q) (host : Host) (val : BitVec 32) (self : VirtioBlk Q) : VirtioBlk Q × Nat :=
  setStatusLoop api host val (maxCasRetries - 1) 0 self.deviceStatus self

def configureQueue (change : Q → Q) : VirtioBlk Q :=
  if queueConfigAllowed self ∧ self.queueSelect = 0 then {self with queue := change self.queue} else self

def writeDriverFeatures (val : BitVec 32) : VirtioBlk Q :=
  if featuresWriteAllowed self then
    if self.driverFeaturesSel = 0 then
      {self with driverFeatures := self.driverFeatures &&& 0xFFFFFFFF00000000 ||| val.setWidth 64}
    else if self.driverFeaturesSel = 1 then
      {self with driverFeatures := self.driverFeatures &&& 0x00000000FFFFFFFF ||| val.setWidth 64 <<< 32}
    else self
  else self

def offsetStatus : Nat := 0x70

def registerValue (data : List UInt8) : BitVec 32 := BitVec.ofNat 32 (leNat data)

/-- A kick only wakes the worker, whose turns are events of their own. -/
def mmioWrite (api : QueueRegisters Q) (self : VirtioBlk Q) (offset : Nat) (data : List UInt8) (host : Host) :
    VirtioBlk Q :=
  if offset ≥ 0x100 then self
  else if data.length ≠ 4 then self
  else
    let val := registerValue data
    match offset with
    | 0x14 => {self with deviceFeaturesSel := val}
    | 0x24 => {self with driverFeaturesSel := val}
    | 0x20 => writeDriverFeatures self val
    | 0x30 => {self with queueSelect := val}
    | 0x38 => configureQueue self fun queue => api.setSize queue (UInt16.ofNat val.toNat)
    | 0x44 => configureQueue self fun queue => api.setReady queue (val == 1)
    | 0x64 => {self with interruptStatus := self.interruptStatus &&& ~~~val}
    | 0x70 => if val = 0 then reset api self host else (setStatus api host val self).1
    | 0x80 => configureQueue self fun queue => api.setDescTableAddress queue (some val) none
    | 0x84 => configureQueue self fun queue => api.setDescTableAddress queue none (some val)
    | 0x90 => configureQueue self fun queue => api.setAvailRingAddress queue (some val) none
    | 0x94 => configureQueue self fun queue => api.setAvailRingAddress queue none (some val)
    | 0xa0 => configureQueue self fun queue => api.setUsedRingAddress queue (some val) none
    | 0xa4 => configureQueue self fun queue => api.setUsedRingAddress queue none (some val)
    | _ => self

def raiseNeedsReset : VirtioBlk Q :=
  {self with deviceStatus := self.deviceStatus ||| statusNeedsReset}

end

end Ktstr.Source.Registers
