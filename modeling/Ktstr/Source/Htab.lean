import Ktstr.Source.BpfMaps

/-! Reading BPF hash maps and per-CPU values out of guest memory, from
`monitor/bpf_map/htab.rs` and `monitor/bpf_map/mod.rs`. -/
namespace Ktstr.Source.Htab
open Library.Bytes Library.Words Reader BpfMaps

def htabIterMax : Nat := 1000000

def htabBucketsMax : Nat := 1 <<< 16

def maxValueSize : Nat := 16 * 1024 * 1024

def readWhole (mem : GuestMem) (pa len : Nat) : Option (List UInt8) :=
  let copied := readBytes mem pa len
  if copied.length ≠ len then none else some copied

/-- How a walk over one bucket's chain ended: at its end or at an address that does not
translate, with the visits left, or at the limit on visits. -/
inductive ChainEnd (T : Type)
  | next (out : List T) (remaining : Nat)
  | capped (out : List T)

section
variable {T : Type} (translate : Nat → Option Nat) (readWord : Nat → Nat → Nat) (htab : HtabOffsets)
  (extract : Nat → Option T)

def walkChain (remaining nodePtr : Nat) (out : List T) : ChainEnd T :=
  if nodePtr &&& 1 ≠ 0 ∨ nodePtr = 0 then .next out remaining
  else
    match remaining with
    | 0 => .capped out
    | remaining + 1 =>
      match translate nodePtr with
      | none => .next out remaining
      | some elemPa =>
        walkChain remaining (readWord elemPa htab.hlistNullsNodeNext) (out ++ (extract elemPa).toList)

def walkBuckets (bucketsKva : Nat) : List Nat → Nat → List T → List T
  | [],_,out => out
  | i::rest,remaining,out =>
    match translate (wrappingAdd bucketsKva (i * htab.bucketSize)) with
    | none => walkBuckets bucketsKva rest remaining out
    | some bucketPa =>
      let firstPtr := readWord bucketPa (htab.bucketHead + htab.hlistNullsHeadFirst)
      match walkChain translate readWord htab extract remaining firstPtr out with
      | .capped out => out
      | .next out remaining => walkBuckets bucketsKva rest remaining out

end

def valueOffInElem (htab : HtabOffsets) (keySize : Nat) : Nat := htab.htabElemSizeBase + ((keySize + 7) &&& flip 7)

variable {T : Type} (ctx : AccessorCtx) (map : BpfMapInfo)

def walkHtabAt (htab : HtabOffsets) (extract : Nat → Nat → Nat → Nat → Nat → GuestMem → Option T)
    (htabPa : Nat) : List T :=
  let nBuckets := readU32 ctx.mem htabPa htab.htabNBuckets
  let bucketsKva := readU64 ctx.mem htabPa htab.htabBuckets
  if nBuckets = 0 ∨ nBuckets > htabBucketsMax ∨ bucketsKva = 0 then []
  else if map.keySize > maxValueSize ∨ map.valueSize > maxValueSize then []
  else
    walkBuckets ctx.translate (readU64 ctx.mem) htab
      (fun elemPa => extract elemPa htab.htabElemSizeBase (valueOffInElem htab map.keySize) map.keySize
        map.valueSize ctx.mem)
      bucketsKva (List.range nBuckets) htabIterMax []

def walkHtab (extract : Nat → Nat → Nat → Nat → Nat → GuestMem → Option T) : List T :=
  match ctx.offsets.htabOffsets with
  | none => []
  | some htab =>
    match ctx.translate map.mapKva with
    | none => []
    | some htabPa => walkHtabAt ctx map htab extract htabPa

variable (valueSize : Nat)

def extractEntry (elemPa keyOffInElem valueOffInElem keySize valueSize : Nat) (mem : GuestMem) :
    Option (List UInt8 × List UInt8) :=
  match readWhole mem (wrappingAdd elemPa keyOffInElem) keySize with
  | none => none
  | some key =>
    match readWhole mem (wrappingAdd elemPa valueOffInElem) valueSize with
    | none => none
    | some value => some (key,value)

def iterHtabEntries : List (List UInt8 × List UInt8) :=
  if map.mapType ≠ bpfMapTypeHash ∧ map.mapType ≠ bpfMapTypeLruHash then []
  else walkHtab ctx map extractEntry

def readPercpuValue (percpuBase cpuIndex cpuOff : Nat) : Option (List UInt8) :=
  -- An unset offset would alias the first CPU.
  if cpuOff = 0 ∧ cpuIndex > 0 then none
  else
    match ctx.translate (wrappingAdd percpuBase cpuOff) with
    | none => none
    | some cpuPa =>
      match checkedAdd cpuPa valueSize with
      | none => none
      | some stop => if stop ≤ ctx.mem.size then readWhole ctx.mem cpuPa valueSize else none

def readPercpuValues (percpuBase : Nat) (perCpuOffsets : List Nat) : List (Option (List UInt8)) :=
  perCpuOffsets.mapIdx (readPercpuValue ctx valueSize percpuBase)

variable (perCpuOffsets : List Nat)

def extractPercpuEntry (elemPa keyOffInElem valueOffInElem keySize _valueSizeUnused : Nat) (mem : GuestMem) :
    Option (List UInt8 × List (Option (List UInt8))) :=
  match readWhole mem (wrappingAdd elemPa keyOffInElem) keySize with
  | none => none
  | some key =>
    let percpuBase := readU64 mem elemPa valueOffInElem
    if percpuBase = 0 then some (key,[])
    else some (key,readPercpuValues ctx valueSize percpuBase perCpuOffsets)

def iterPercpuHtabEntries : List (List UInt8 × List (Option (List UInt8))) :=
  if map.mapType ≠ bpfMapTypePercpuHash ∧ map.mapType ≠ bpfMapTypeLruPercpuHash then []
  else walkHtab ctx map (extractPercpuEntry ctx map.valueSize perCpuOffsets)

def pptrKva (key : Nat) : Nat :=
  wrappingAdd (wrappingAdd map.mapKva ctx.offsets.arrayValue) (key * 8)

def readPercpuArrayValue (key : Nat) (perCpuOffsets : List Nat) : List (Option (List UInt8)) :=
  if map.mapType ≠ bpfMapTypePercpuArray then []
  else if key ≥ map.maxEntries then []
  else
    match ctx.translate (pptrKva ctx map key) with
    | none => []
    | some pptrPa =>
      let percpuBase := readU64 ctx.mem pptrPa 0
      if percpuBase = 0 then [] else readPercpuValues ctx map.valueSize percpuBase perCpuOffsets

end Ktstr.Source.Htab
