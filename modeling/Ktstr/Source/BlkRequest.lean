import Mathlib.Algebra.Order.Ring.Int
import Mathlib.Data.List.Basic

/-! Request handlers of `virtio_blk`: the vectored read and write of `device.rs`, flush
and get-id of `handlers.rs`, and the counters they bump. A handler answers with the
effects it had, in order, its status byte and its used length; guest memory and the
backing file are asked through an `IoAnswer`. -/
namespace Ktstr.Source.BlkRequest

def sectorSize : Nat := 512

def segMax : Nat := 128

def sizeMax : Nat := 2 ^ 20

def outhdrSize : Nat := 16

def idBytes : Nat := 20

def tIn : UInt32 := 0

def tOut : UInt32 := 1

def tFlush : UInt32 := 4

def tGetId : UInt32 := 8

def sOk : UInt8 := 0

def sIoerr : UInt8 := 1

def sUnsupp : UInt8 := 2

structure ChainDescriptor where
  addr : UInt64
  len : UInt32
  isWriteOnly : Bool
deriving Repr,DecidableEq

structure OutHdr where
  type : UInt32
  sector : UInt64
deriving Repr,DecidableEq

/-- What the device does to anything outside itself, and the counters it bumps. -/
inductive Effect
  | recordRead (bytes : Nat)
  | recordWrite (bytes : Nat)
  | recordFlush
  | recordIoError
  | recordThrottled
  | recordThrottlePendingInc
  | recordThrottlePendingDec
  | recordInvalidAvailIdx
  | backing
  | guestWrite (addr : UInt64) (len : Nat)
  | statusByte (addr : UInt64) (byte : UInt8) (ok : Bool)
  | addUsed (head : UInt16) (len : UInt32) (ok : Bool)
  | rewind
deriving Repr,DecidableEq

structure Counters where
  readsCompleted : Nat := 0
  writesCompleted : Nat := 0
  flushesCompleted : Nat := 0
  bytesRead : Nat := 0
  bytesWritten : Nat := 0
  throttledCount : Nat := 0
  ioErrors : Nat := 0
  currentlyThrottledGauge : Nat := 0
  invalidAvailIdxCount : Nat := 0
deriving Repr,DecidableEq

def Counters.record (self : Counters) : Effect → Counters
  | .recordRead bytes =>
    {self with readsCompleted := self.readsCompleted + 1,bytesRead := self.bytesRead + bytes}
  | .recordWrite bytes =>
    {self with writesCompleted := self.writesCompleted + 1,bytesWritten := self.bytesWritten + bytes}
  | .recordFlush => {self with flushesCompleted := self.flushesCompleted + 1}
  | .recordIoError => {self with ioErrors := self.ioErrors + 1}
  | .recordThrottled => {self with throttledCount := self.throttledCount + 1}
  | .recordThrottlePendingInc => {self with currentlyThrottledGauge := self.currentlyThrottledGauge + 1}
  -- The gauge is decremented by a checked subtraction that leaves zero alone.
  | .recordThrottlePendingDec => {self with currentlyThrottledGauge := self.currentlyThrottledGauge - 1}
  | .recordInvalidAvailIdx => {self with invalidAvailIdxCount := self.invalidAvailIdxCount + 1}
  | _ => self

/-- Outcomes of the memory accesses and system calls one handler makes: the slices of
a mapped range (a length each, or a failure), `preadv` and `pwritev` (the byte count,
or a failure), `sync_data`, and `write_slice` at an address. -/
structure IoAnswer where
  getSlices : UInt64 → Nat → List (Option Nat)
  preadv : Option Nat
  pwritev : Option Nat
  syncData : Bool
  writeSlice : UInt64 → Nat → Bool

abbrev Handled := List Effect × UInt8 × UInt32

def failed (before : List Effect) : Handled := (before ++ [.recordIoError],sIoerr,1)

/-- The iovec lengths of the data segments; a segment in the wrong direction or a
range that is not mapped ends the request. Empty segments contribute nothing. -/
def iovecs (io : IoAnswer) (writeOnly : Bool) : List ChainDescriptor → Option (List Nat)
  | [] => some []
  | seg::segs =>
    if seg.isWriteOnly != writeOnly then none
    else if seg.len = 0 then iovecs io writeOnly segs
    else
      match (io.getSlices seg.addr seg.len.toNat).mapM id,iovecs io writeOnly segs with
      | some lens,some rest => some (lens ++ rest)
      | _,_ => none

def zeroBufLen : Nat := 65536

/-- Writes zeros from an address on, one buffer at a time: the effects, and whether
every write and every advance of the address succeeded. -/
def zeroChunks (io : IoAnswer) (addr : UInt64) (remaining : Nat) : List Effect × Bool :=
  if remaining = 0 then ([],true)
  else
    let chunk := min remaining zeroBufLen
    if io.writeSlice addr chunk then
      if addr.toNat + chunk < 2 ^ 64 then
        let (effects,ok) := zeroChunks io (addr + UInt64.ofNat chunk) (remaining - chunk)
        (.guestWrite addr chunk::effects,ok)
      else ([.guestWrite addr chunk],false)
    else ([],false)
termination_by remaining
decreasing_by
  simp only [zeroBufLen]
  omega

def zeroFill (io : IoAnswer) : List ChainDescriptor → Nat → Nat → List Effect × Bool
  | [],_,_ => ([],true)
  | seg::segs,filled,toZero =>
    if toZero = 0 then ([],true)
    else if seg.len.toNat ≤ filled then zeroFill io segs (filled - seg.len.toNat) toZero
    else
      let segRemaining := min (seg.len.toNat - filled) toZero
      if seg.addr.toNat + filled < 2 ^ 64 then
        let (effects,ok) := zeroChunks io (seg.addr + UInt64.ofNat filled) segRemaining
        if ok then
          let (more,done) := zeroFill io segs 0 (toZero - segRemaining)
          (effects ++ more,done)
        else (effects,false)
      else ([],false)

def outOfRange (capacityBytes sector dataLen : Nat) : Bool :=
  decide (2 ^ 64 ≤ sector * sectorSize) || decide (2 ^ 64 ≤ sector * sectorSize + dataLen) ||
    decide (capacityBytes < sector * sectorSize + dataLen)

variable (io : IoAnswer) (capacityBytes sector : Nat) (segs : List ChainDescriptor) (dataLen : Nat)

def handleReadVectoredImpl : Handled :=
  if outOfRange capacityBytes sector dataLen then failed []
  else
    match iovecs io true segs with
    | none => failed []
    | some lens =>
      match (if lens.isEmpty then some ([],0) else io.preadv.map fun r => ([Effect.backing],r)) with
      | none => failed [.backing]
      | some (called,bytesFromBacking) =>
        let (zeros,ok) :=
          if bytesFromBacking < dataLen then zeroFill io segs bytesFromBacking (dataLen - bytesFromBacking)
          else ([],true)
        if ok then
          (called ++ zeros ++ [.recordRead bytesFromBacking],sOk,UInt32.ofNat dataLen + 1)
        else failed (called ++ zeros)

def handleWriteVectoredImpl : Handled :=
  if outOfRange capacityBytes sector dataLen then failed []
  else
    match iovecs io false segs with
    | none => failed []
    | some lens =>
      if lens.isEmpty then ([.recordWrite 0],sOk,1)
      else
        match io.pwritev with
        | none => failed [.backing]
        | some totalWritten =>
          if totalWritten = dataLen then ([.backing,.recordWrite totalWritten],sOk,1)
          else failed [.backing]

def handleFlushImpl : Handled :=
  if io.syncData then ([.backing,.recordFlush],sOk,1) else failed [.backing]

def handleGetIdImpl : List ChainDescriptor → Handled
  | [] => failed []
  | first::_ =>
    if !first.isWriteOnly then failed []
    else if first.len.toNat < idBytes then failed []
    else if io.writeSlice first.addr idBytes then
      ([.guestWrite first.addr idBytes],sOk,UInt32.ofNat idBytes + 1)
    else failed []

def classifyPreThrottle (reqType : UInt32) (readOnly : Bool) : Option Handled :=
  if reqType = tOut ∧ readOnly then some ([.recordIoError],sIoerr,1)
  else if reqType = tFlush ∧ readOnly then some ([.recordFlush],sOk,1)
  else if reqType = tIn ∨ reqType = tOut ∨ reqType = tFlush ∨ reqType = tGetId then none
  else some ([],sUnsupp,1)

def dispatch (hdr : OutHdr) (segs : List ChainDescriptor) (dataLen : Nat) : Handled :=
  if hdr.type = tIn then handleReadVectoredImpl io capacityBytes hdr.sector.toNat segs dataLen
  else if hdr.type = tOut then handleWriteVectoredImpl io capacityBytes hdr.sector.toNat segs dataLen
  else if hdr.type = tFlush then handleFlushImpl io
  else if hdr.type = tGetId then handleGetIdImpl io segs
  else ([.recordIoError],sUnsupp,1)

end Ktstr.Source.BlkRequest
