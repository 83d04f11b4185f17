import Ktstr.Source.VmMemory

/-! The read handlers of `virtio_blk` with the bytes they move: `handle_read_vectored_impl` of `device.rs` and the
per-segment `handle_read_impl` of `handlers.rs`. A read of the backing file returns the longest prefix there is. -/
namespace Ktstr.Source.BlkRead
open Library.Scatter BlkRequest VmMemory

structure ReadResult where
  mem : GuestMemoryMmap
  counters : Counters
  status : UInt8
  usedLen : UInt32

def rejected (mem : GuestMemoryMmap) (counters : Counters) (usedLen : UInt32) : ReadResult :=
  ⟨mem,counters.record .recordIoError,sIoerr,usedLen⟩

def readAt (backing : List UInt8) (offset len : Nat) : List UInt8 := (backing.drop offset).take len

/-- The guest ranges behind the iovecs: one for each slice of each segment that is not empty. -/
def iovecRanges (getSlices : UInt64 → Nat → List (Option Nat)) : List ChainDescriptor → Option (List Extent)
  | [] => some []
  | seg::segs =>
    if !seg.isWriteOnly then none
    else if seg.len = 0 then iovecRanges getSlices segs
    else
      match (getSlices seg.addr seg.len.toNat).mapM id,iovecRanges getSlices segs with
      | some lens,some rest => some (tiles seg.addr.toNat lens ++ rest)
      | _,_ => none

def preadv (mem : GuestMemoryMmap) (backing : List UInt8) (iovecs : List Extent) (offset : Nat) : GuestMemoryMmap × Nat :=
  let bytes := readAt backing offset (total iovecs)
  ({mem with byte := scatter mem.byte iovecs bytes},bytes.length)

def zeroChunks (mem : GuestMemoryMmap) (addr : UInt64) (remaining : Nat) : GuestMemoryMmap × Bool :=
  if remaining = 0 then (mem,true)
  else
    let chunk := min remaining zeroBufLen
    match mem.writeSlice (List.replicate chunk 0) addr with
    | (mem,false) => (mem,false)
    | (mem,true) =>
      if addr.toNat + chunk < 2 ^ 64 then zeroChunks mem (addr + UInt64.ofNat chunk) (remaining - chunk) else (mem,false)
termination_by remaining
decreasing_by
  simp only [zeroBufLen]
  omega

def zeroFill (mem : GuestMemoryMmap) : List ChainDescriptor → Nat → Nat → GuestMemoryMmap × Bool
  | [],_,_ => (mem,true)
  | seg::segs,filled,toZero =>
    if toZero = 0 then (mem,true)
    else if seg.len.toNat ≤ filled then zeroFill mem segs (filled - seg.len.toNat) toZero
    else
      let segRemaining := min (seg.len.toNat - filled) toZero
      if seg.addr.toNat + filled < 2 ^ 64 then
        match zeroChunks mem (seg.addr + UInt64.ofNat filled) segRemaining with
        | (mem,false) => (mem,false)
        | (mem,true) => zeroFill mem segs 0 (toZero - segRemaining)
      else (mem,false)

def handleReadVectoredImpl (getSlices : UInt64 → Nat → List (Option Nat)) (backing : List UInt8) (capacityBytes : UInt64)
    (counters : Counters) (mem : GuestMemoryMmap) (sector : UInt64) (segs : List ChainDescriptor) (dataLen : Nat) :
    ReadResult :=
  if outOfRange capacityBytes.toNat sector.toNat dataLen then rejected mem counters 1
  else
    match iovecRanges getSlices segs with
    | none => rejected mem counters 1
    | some iovecs =>
      let (mem,bytesFromBacking) :=
        if iovecs.isEmpty then (mem,0) else preadv mem backing iovecs (sector.toNat * sectorSize)
      let (mem,ok) :=
        if bytesFromBacking < dataLen then zeroFill mem segs bytesFromBacking (dataLen - bytesFromBacking) else (mem,true)
      if ok then ⟨mem,counters.record (.recordRead bytesFromBacking),sOk,UInt32.ofNat dataLen + 1⟩
      else rejected mem counters 1

/-- `Vec::resize` with zeros: what is there already stays. -/
def resize (scratch : List UInt8) (len : Nat) : List UInt8 := scratch.take len ++ List.replicate (len - scratch.length) 0

def overwrite (scratch bytes : List UInt8) : List UInt8 := bytes ++ scratch.drop bytes.length

def readSegments (backing : List UInt8) (counters : Counters) (mem : GuestMemoryMmap) (scratch : List UInt8)
    (bytesToGuest : UInt32) (bytesFromBacking curOffset : Nat) : List ChainDescriptor → ReadResult
  | [] => ⟨mem,counters.record (.recordRead bytesFromBacking),sOk,bytesToGuest + 1⟩
  | seg::segs =>
    if !seg.isWriteOnly then rejected mem counters (bytesToGuest + 1)
    else
      let bytes := readAt backing curOffset seg.len.toNat
      let scratch := overwrite (resize scratch seg.len.toNat) bytes
      match mem.writeSlice scratch seg.addr with
      | (mem,false) => rejected mem counters (bytesToGuest + 1)
      | (mem,true) =>
        readSegments backing counters mem scratch (bytesToGuest + seg.len) (bytesFromBacking + bytes.length)
          (curOffset + seg.len.toNat) segs

def handleReadImpl (backing : List UInt8) (capacityBytes : UInt64) (counters : Counters) (mem : GuestMemoryMmap)
    (sector : UInt64) (segs : List ChainDescriptor) (dataLen : Nat) (scratch : List UInt8) : ReadResult :=
  if outOfRange capacityBytes.toNat sector.toNat dataLen then rejected mem counters 1
  else readSegments backing counters mem scratch 0 0 (sector.toNat * sectorSize) segs

end Ktstr.Source.BlkRead
