import Ktstr.Library.BitScan
import Ktstr.Source.Reader

/-! The dump of an arena allocator's radix tree, from `monitor/sdt_alloc.rs`. A rendered payload
is kept as the bytes and the type that are handed to the renderer. -/
namespace Ktstr.Source.SdtAlloc
open Library.Bytes Library.Words Library.BitScan Reader

def sdtTaskLevels : Nat := 3
def sdtTaskEntsPerPageShift : Nat := 9
def sdtTaskEntsPerChunk : Nat := 1 <<< sdtTaskEntsPerPageShift
def sdtTaskChunkBitmapU64s : Nat := sdtTaskEntsPerChunk / 64
def maxSdtAllocEntries : Nat := 4096
def minElemSize : Nat := 16
def maxElemSize : Nat := 4096

structure GuestKernel where
  arch : Arch
  mem : GuestMem
  cr3Pa : Nat
  l5 : Bool
  tcrEl1 : Nat

structure SdtAllocOffsets where
  allocatorPool : Nat
  allocatorRoot : Nat
  poolElemSize : Nat
  descAllocated : Nat
  descNrFree : Nat
  descChunk : Nat
  chunkUnion : Nat
  dataHeaderSize : Nat

inductive RenderedValue
  | unsupported (reason : String)
  | bytes (dumped : List UInt8)
  | typed (typeId : Nat) (content : List UInt8)
deriving DecidableEq

structure SdtAllocEntry where
  idx : Int
  genn : Int
  userAddr : Nat
  payload : RenderedValue
deriving DecidableEq

structure SdtAllocatorSnapshot where
  allocatorName : String
  entries : List SdtAllocEntry
  truncated : Bool
  skippedSubtrees : Nat
  elemSize : Nat
  targetTypeId : Nat
  payloadTypeReason : String
  allSlotAddrs : List Nat
deriving DecidableEq

structure TreeWalker where
  kernel : GuestKernel
  kernVmStart : Nat
  offsets : SdtAllocOffsets
  targetTypeId : Nat
  payloadSize : Nat

variable (self : TreeWalker)

def translateArenaPtr (ptr : Nat) : Option Nat :=
  if ptr = 0 then none
  else
    let kva := wrappingAdd self.kernVmStart (ptr &&& 0xFFFFFFFF)
    match translateKva self.kernel.arch self.kernel.mem self.kernel.cr3Pa kva self.kernel.l5 self.kernel.tcrEl1 with
    | none => none
    | some pa => if pa ≥ self.kernel.mem.size then none else some pa

def skipSubtree (out : SdtAllocatorSnapshot) : SdtAllocatorSnapshot :=
  { out with skippedSubtrees := min (out.skippedSubtrees + 1) (2 ^ 32 - 1) }

def asI32 (word : Nat) : Int := (BitVec.ofNat 32 word).toInt

def renderPayload (payloadBytes : List UInt8) : RenderedValue :=
  if self.targetTypeId ≠ 0 then .typed self.targetTypeId payloadBytes else .bytes payloadBytes

def leafEntry (dataPtr dataPa : Nat) : SdtAllocEntry :=
  let mem := self.kernel.mem
  let payloadBytes := readBytes mem (wrappingAdd dataPa self.offsets.dataHeaderSize) self.payloadSize
  { idx := asI32 (readU32 mem dataPa 0)
    genn := asI32 (readU32 mem dataPa 4)
    userAddr := dataPtr &&& 0xFFFFFFFF
    payload :=
      if payloadBytes.isEmpty then .unsupported "payload read failed: end-of-DRAM or unmapped page"
      else renderPayload self payloadBytes }

def emitLeaf (dataPtr : Nat) (out : SdtAllocatorSnapshot) : SdtAllocatorSnapshot :=
  let out := { out with allSlotAddrs := out.allSlotAddrs ++ [dataPtr &&& 0xFFFFFFFF] }
  if out.entries.length ≥ maxSdtAllocEntries then { out with truncated := true }
  else
    match translateArenaPtr self dataPtr with
    | none => skipSubtree out
    | some dataPa => { out with entries := out.entries ++ [leafEntry self dataPtr dataPa] }

variable (chunkPa : Nat)

def entryPtr (pos : Nat) : Nat :=
  readU64 self.kernel.mem chunkPa (self.offsets.chunkUnion + pos * 8)

def visitSlot (pos : Nat) (out : SdtAllocatorSnapshot) : SdtAllocatorSnapshot :=
  if pos ≥ sdtTaskEntsPerChunk then out
  -- The bit is set before the pointer is stored.
  else if entryPtr self chunkPa pos = 0 then out
  else emitLeaf self (entryPtr self chunkPa pos) out

def scanBitmap (allocated : List Nat) (out : SdtAllocatorSnapshot) : SdtAllocatorSnapshot :=
  allocated.zipIdx.foldl
    (fun out item => (setBits 64 item.1).foldl (fun out bit => visitSlot self chunkPa (item.2 * 64 + bit) out) out)
    out

def readDesc (descPtr : Nat) : Option (List Nat × Nat) :=
  let mem := self.kernel.mem
  match translateArenaPtr self descPtr with
  | none => none
  | some descPa =>
    let allocated :=
      (List.range sdtTaskChunkBitmapU64s).map fun i => readU64 mem descPa (self.offsets.descAllocated + i * 8)
    if readU64 mem descPa self.offsets.descNrFree > sdtTaskEntsPerChunk then none
    else
      let chunkPtr := readU64 mem descPa self.offsets.descChunk
      if chunkPtr = 0 then none
      else
        match translateArenaPtr self chunkPtr with
        | none => none
        | some chunkPa => some (allocated,chunkPa)

def descend (self : TreeWalker) : Nat → Nat → SdtAllocatorSnapshot → SdtAllocatorSnapshot
  | 0,_,out => out
  | below + 1,descPtr,out =>
    if out.truncated then out
    else
      match readDesc self descPtr with
      | none => skipSubtree out
      | some (allocated,chunkPa) =>
        if below = 0 then scanBitmap self chunkPa allocated out
        else
          -- Above the leaves a bit means a full subtree, so every pointer is followed.
          (List.range sdtTaskEntsPerChunk).foldl
            (fun out pos =>
              if entryPtr self chunkPa pos = 0 then out else descend self below (entryPtr self chunkPa pos) out)
            out

def readU64At (bytes : List UInt8) (offset : Nat) : Option Nat :=
  match checkedAdd offset 8 with
  | none => none
  | some stop => if stop ≤ bytes.length then some (leNat (slice bytes offset stop)) else none

def walkSdtAllocator (kernel : GuestKernel) (kernVmStart : Nat) (allocatorBytes : List UInt8)
    (offsets : SdtAllocOffsets) (targetTypeId : Nat) (payloadTypeReason allocatorName : String) :
    SdtAllocatorSnapshot :=
  let snap : SdtAllocatorSnapshot := {
    allocatorName, entries := [], truncated := false, skippedSubtrees := 0, elemSize := 0, targetTypeId
    payloadTypeReason, allSlotAddrs := [] }
  match readU64At allocatorBytes (offsets.allocatorPool + offsets.poolElemSize) with
  | none => snap
  | some elemSize =>
    let snap := { snap with elemSize }
    if elemSize < minElemSize ∨ maxElemSize < elemSize then snap
    else if elemSize < offsets.dataHeaderSize then snap
    else
      match readU64At allocatorBytes offsets.allocatorRoot with
      | none => snap
      | some rootPtr =>
        if rootPtr = 0 then snap
        else
          descend ⟨kernel,kernVmStart,offsets,targetTypeId,elemSize - offsets.dataHeaderSize⟩ sdtTaskLevels rootPtr snap

end Ktstr.Source.SdtAlloc
