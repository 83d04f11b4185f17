import Ktstr.Source.Reader

/-! Discovery of BPF maps in guest memory, from `monitor/idr.rs` and `monitor/bpf_map/mod.rs`:
the xarray lookup behind the kernel's map IDR, and the scan over its ids. Address sums
wrap as in release builds. -/
namespace Ktstr.Source.BpfMaps
open Library.Bytes Library.Words Reader

variable (mem : GuestMem)

def translateAnyKva (arch : Arch) (mem : GuestMem) (cr3Pa pageOffset kva : Nat) (l5 : Bool) (tcrEl1 : Nat) :
    Option Nat :=
  let directPa := kvaToPa kva pageOffset
  if directPa < mem.size then some directPa else translateKva arch mem cr3Pa kva l5 tcrEl1

def xaChunkSize : Nat := 64

def xaNodeShift (pageOffset nodeKva shiftOff : Nat) : Nat :=
  readU8 mem (kvaToPa nodeKva pageOffset) shiftOff

/-- The descent of `xaLoad` from a node on. Every turn lowers the shift by six, so that a
budget of eleven nodes is never used up. -/
def xaDescend (mem : GuestMem) (pageOffset index slotsOff budget nodeKva shift : Nat) : Option Nat :=
  if shift ≥ 64 then some 0
  else
    let slotIdx := (index >>> shift) &&& (xaChunkSize - 1)
    let slotPa := kvaToPa (wrappingAdd (wrappingAdd nodeKva slotsOff) (slotIdx * 8)) pageOffset
    let entry := readU64 mem slotPa 0
    if entry = 0 then some 0
    else if entry &&& 2 = 0 then some entry
    else if shift < 6 then some 0
    else
      match budget with
      | 0 => none
      | budget + 1 => xaDescend mem pageOffset index slotsOff budget (entry &&& flip 3) (shift - 6)

def xaLoad (pageOffset xaHead index slotsOff shiftOff : Nat) : Option Nat :=
  if xaHead = 0 then some 0
  else if xaHead &&& 2 = 0 then if index = 0 then some xaHead else some 0
  else
    let nodeKva := xaHead &&& flip 3
    xaDescend mem pageOffset index slotsOff 10 nodeKva (xaNodeShift mem pageOffset nodeKva shiftOff)

structure HtabOffsets where
  htabBuckets : Nat
  htabNBuckets : Nat
  bucketSize : Nat
  bucketHead : Nat
  hlistNullsHeadFirst : Nat
  hlistNullsNodeNext : Nat
  htabElemSizeBase : Nat

structure StructOpsOffsets where
  kvalue : Nat
  valueData : Nat

structure BpfMapOffsets where
  mapName : Nat
  mapType : Nat
  mapFlags : Nat
  keySize : Nat
  valueSize : Nat
  maxEntries : Nat
  arrayValue : Nat
  xaNodeSlots : Nat
  xaNodeShift : Nat
  idrXaHead : Nat
  idrNext : Nat
  mapBtf : Nat
  mapBtfValueTypeId : Nat
  mapBtfVmlinuxValueTypeId : Nat
  mapBtfKeyTypeId : Nat
  htabOffsets : Option HtabOffsets
  structOpsOffsets : Option StructOpsOffsets

structure AccessorCtx where
  arch : Arch
  mem : GuestMem
  cr3Pa : Nat
  pageOffset : Nat
  offsets : BpfMapOffsets
  l5 : Bool
  tcrEl1 : Nat
  startKernelMap : Nat
  physBase : Nat

variable (ctx : AccessorCtx)

def AccessorCtx.translate (kva : Nat) : Option Nat :=
  translateAnyKva ctx.arch ctx.mem ctx.cr3Pa ctx.pageOffset kva ctx.l5 ctx.tcrEl1

def bpfMapTypeHash : Nat := 1
def bpfMapTypeArray : Nat := 2
def bpfMapTypePercpuHash : Nat := 5
def bpfMapTypePercpuArray : Nat := 6
def bpfMapTypeLruHash : Nat := 9
def bpfMapTypeLruPercpuHash : Nat := 10
def bpfMapTypeStructOps : Nat := 26

def bpfObjNameLen : Nat := 16

structure BpfMapInfo where
  mapPa : Nat
  mapKva : Nat
  nameBytes : List UInt8
  nameLen : Nat
  mapType : Nat
  mapFlags : Nat
  keySize : Nat
  valueSize : Nat
  maxEntries : Nat
  valueKva : Option Nat
  btfKva : Nat
  btfValueTypeId : Nat
  btfVmlinuxValueTypeId : Nat
  btfKeyTypeId : Nat
deriving DecidableEq

def mapMetadataSpan : Nat := 384

/-- The batched copy of a `bpf_map`, as long as the read delivered it. -/
structure MapMetadata where
  mem : GuestMem
  mapPa : Nat
  buf : List UInt8

def MapMetadata.read (mapPa : Nat) : MapMetadata := ⟨mem,mapPa,readBytes mem mapPa mapMetadataSpan⟩

variable (self : MapMetadata)

def MapMetadata.u32At (off : Nat) : Nat :=
  if off + 4 ≤ self.buf.length then leNat (slice self.buf off (off + 4)) else readU32 self.mem self.mapPa off

def MapMetadata.u64At (off : Nat) : Nat :=
  if off + 8 ≤ self.buf.length then leNat (slice self.buf off (off + 8)) else readU64 self.mem self.mapPa off

def MapMetadata.nameBytes (nameOff : Nat) : List UInt8 :=
  if nameOff + bpfObjNameLen ≤ self.buf.length then slice self.buf nameOff (nameOff + bpfObjNameLen)
  else
    let copied := readBytes self.mem (wrappingAdd self.mapPa nameOff) bpfObjNameLen
    copied ++ List.replicate (bpfObjNameLen - copied.length) 0

def valueKvaOf (offsets : BpfMapOffsets) (mapType entry : Nat) : Option Nat :=
  if mapType = bpfMapTypeArray then some (wrappingAdd entry offsets.arrayValue)
  else if mapType = bpfMapTypeStructOps then
    offsets.structOpsOffsets.map fun so => wrappingAdd (wrappingAdd entry so.kvalue) so.valueData
  else none

def mapInfo (entry mapPa : Nat) : BpfMapInfo :=
  let offsets := ctx.offsets
  let info := MapMetadata.read ctx.mem mapPa
  let mapType := info.u32At offsets.mapType
  let nameBytes := info.nameBytes offsets.mapName
  { mapPa
    mapKva := entry
    nameBytes
    nameLen := (nameBytes.findIdx? (· == 0)).getD bpfObjNameLen
    mapType
    mapFlags := info.u32At offsets.mapFlags
    keySize := info.u32At offsets.keySize
    valueSize := info.u32At offsets.valueSize
    maxEntries := info.u32At offsets.maxEntries
    valueKva := valueKvaOf offsets mapType entry
    btfKva := info.u64At offsets.mapBtf
    btfValueTypeId := info.u32At offsets.mapBtfValueTypeId
    btfVmlinuxValueTypeId :=
      if offsets.mapBtfVmlinuxValueTypeId ≠ 0 then info.u32At offsets.mapBtfVmlinuxValueTypeId else 0
    btfKeyTypeId := info.u32At offsets.mapBtfKeyTypeId }

def scanId (xaHead id : Nat) : Option BpfMapInfo :=
  match xaLoad ctx.mem ctx.pageOffset xaHead id ctx.offsets.xaNodeSlots ctx.offsets.xaNodeShift with
  | none => none
  | some entry => if entry = 0 then none else (ctx.translate entry).map (mapInfo ctx entry)

variable (mapIdrKva : Nat)

def idrPa : Nat :=
  textKvaToPaWithBase mapIdrKva ctx.startKernelMap ctx.physBase

def idrBound : Nat :=
  min (readU32 ctx.mem (idrPa ctx mapIdrKva) ctx.offsets.idrNext) 65536

def findAllBpfMaps : List BpfMapInfo :=
  let xaHead := readU64 ctx.mem (idrPa ctx mapIdrKva) ctx.offsets.idrXaHead
  if xaHead = 0 then [] else (List.range (idrBound ctx mapIdrKva)).filterMap (scanId ctx xaHead)

end Ktstr.Source.BpfMaps
