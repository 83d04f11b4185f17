import Ktstr.Library.Bytes
import Ktstr.Library.Words

/-! Guest memory as the monitor sees it, from `monitor/reader.rs`: bounds-checked copies over
sorted regions, the page-table walks of both targets and the one-entry cache in front of them.
Addresses are 64-bit words. -/
namespace Ktstr.Source.Reader
open Library.Bytes Library.Words

structure MemRegion where
  offset : Nat
  size : Nat
  byteAt : Nat → UInt8

structure GuestMem where
  size : Nat
  regions : List MemRegion
  fits : size < wordSpan
  -- Regions lie in order, as the binary search over them needs, and do not overlap.
  apart : regions.Pairwise fun first second => first.offset + first.size ≤ second.offset

def GuestMem.new (base : Nat → UInt8) (size : Nat) (fits : size < wordSpan) : GuestMem :=
  ⟨size,[⟨0,size,base⟩],fits,List.pairwise_singleton _ _⟩

variable (self : GuestMem)

def resolvePtr (offset : Nat) : Option ((Nat → UInt8) × Nat) :=
  match (self.regions.takeWhile fun region => region.offset ≤ offset).getLast? with
  | none => none
  | some region =>
    let inner := offset - region.offset
    if inner < region.size then some (fun i => region.byteAt (inner + i),region.size - inner) else none

def copyBytes (ptr : Nat → UInt8) (len : Nat) : List UInt8 := (List.range len).map ptr

variable (pa offset : Nat)

def readScalar (width pa offset : Nat) : List UInt8 :=
  let zeros := List.replicate width 0
  match checkedAdd pa offset with
  | none => zeros
  | some addr =>
    match checkedAdd addr width with
    | none => zeros
    | some stop =>
      if stop > self.size then zeros
      else
        match resolvePtr self addr with
        | some (ptr,regionAvail) => if width > regionAvail then zeros else copyBytes ptr width
        | none => zeros

def readU8 : Nat := leNat (readScalar self 1 pa offset)

def readU32 : Nat := leNat (readScalar self 4 pa offset)

def readU64 : Nat := leNat (readScalar self 8 pa offset)

/-- The bytes copied into a buffer of the given length; their number is the return value. -/
def readBytes (len : Nat) : List UInt8 :=
  if pa ≥ self.size then []
  else
    let avail := min (self.size - pa) len
    match resolvePtr self pa with
    | some (ptr,regionAvail) => copyBytes ptr (min avail regionAvail)
    | none => []

def MemRegion.write (self : MemRegion) (pa : Nat) (data : List UInt8) : MemRegion :=
  { self with byteAt := fun i =>
      if self.offset ≤ pa ∧ pa < self.offset + self.size ∧ pa ≤ self.offset + i then
        (data[self.offset + i - pa]?).getD (self.byteAt i)
      else self.byteAt i }

def GuestMem.write (self : GuestMem) (pa : Nat) (data : List UInt8) : GuestMem :=
  ⟨self.size,self.regions.map fun region => region.write pa data,self.fits,List.pairwise_map.mpr self.apart⟩

def writeBytes (data : List UInt8) : GuestMem × Nat :=
  if pa ≥ self.size then (self,0)
  else
    let avail := min (self.size - pa) data.length
    match resolvePtr self pa with
    | some (_,regionAvail) => (self.write pa (data.take (min avail regionAvail)),min avail regionAvail)
    | none => (self,0)

def writeBytesAt (data : List UInt8) : GuestMem × Nat :=
  match checkedAdd pa offset with
  | some addr => writeBytes self addr data
  | none => (self,0)

def present : Nat := 1
def ps : Nat := 1 <<< 7
def addrMask : Nat := 0x000FFFFFFFFFF000

def walk4level (cr3Pa kva : Nat) : Option Nat :=
  let pgde := readU64 self ((cr3Pa &&& addrMask) + ((kva >>> 39) &&& 0x1FF) * 8) 0
  if pgde &&& present = 0 then none
  else
    let pude := readU64 self ((pgde &&& addrMask) + ((kva >>> 30) &&& 0x1FF) * 8) 0
    if pude &&& present = 0 then none
    else if pude &&& ps ≠ 0 then some ((pude &&& 0x000FFFFFC0000000) ||| (kva &&& 0x3FFFFFFF))
    else
      let pmde := readU64 self ((pude &&& addrMask) + ((kva >>> 21) &&& 0x1FF) * 8) 0
      if pmde &&& present = 0 then none
      else if pmde &&& ps ≠ 0 then some ((pmde &&& 0x000FFFFFFFE00000) ||| (kva &&& 0x1FFFFF))
      else
        let ptee := readU64 self ((pmde &&& addrMask) + ((kva >>> 12) &&& 0x1FF) * 8) 0
        if ptee &&& present = 0 then none else some ((ptee &&& addrMask) ||| (kva &&& 0xFFF))

def walk5level (cr3Pa kva : Nat) : Option Nat :=
  let pml5e := readU64 self ((cr3Pa &&& addrMask) + ((kva >>> 48) &&& 0x1FF) * 8) 0
  if pml5e &&& present = 0 then none
  else if pml5e &&& ps ≠ 0 then some ((pml5e &&& 0x000F000000000000) ||| (kva &&& 0x0000FFFFFFFFFFFF))
  else walk4level self (pml5e &&& addrMask) kva

structure Aarch64WalkParams where
  stride : Nat
  startLevel : Nat
  firstIndexmask : Nat
  indexmaskGrainsize : Nat
  descaddrmask : Nat

def granuleStride : Nat → Option Nat
  | 0b11 => some 13
  | 0b01 => some 11
  | 0b10 => some 9
  | _ => none

def Aarch64WalkParams.fromTcrEl1 (tcrEl1 : Nat) : Option Aarch64WalkParams :=
  if tcrEl1 = 0 then none
  else if tcrEl1 &&& (1 <<< 59) ≠ 0 then none
  else
    let t1sz := (tcrEl1 >>> 16) &&& 0x3F
    if t1sz = 0 then none
    else
      match granuleStride ((tcrEl1 >>> 30) &&& 0x3) with
      | none => none
      | some stride =>
        let vaWidth := 64 - t1sz
        if vaWidth < 4 then none
        else
          let levelsBelow := (vaWidth - 4) / stride
          if levelsBelow = 0 ∨ levelsBelow > 4 then none
          else
            let startLevel := 4 - levelsBelow
            let indexmaskGrainsize := flip 0 >>> (64 - (stride + 3))
            some {
              stride
              startLevel
              firstIndexmask := flip 0 >>> (64 - (vaWidth - stride * (4 - startLevel)))
              indexmaskGrainsize
              descaddrmask := (flip 0 >>> (64 - 50)) &&& flip indexmaskGrainsize }

def dramStart : Nat := 0x40000000

def toOffset (gpa : Nat) : Option Nat := checkedSub gpa dramStart

def blockLegal (stride level : Nat) : Bool :=
  match stride with
  | 9 => level == 1 || level == 2
  | 11 => level == 2
  | 13 => level == 2
  | _ => false

/-- The descriptor cascade with `below` levels left under the current one, down to the leaf:
its level and the address it holds. -/
def descriptorCascade (self : GuestMem) (kva : Nat) (params : Aarch64WalkParams)
    (below descaddr indexmask : Nat) : Option (Nat × Nat) :=
  let level := 3 - below
  let tableOffset := (kva >>> (params.stride * (4 - level))) &&& indexmask
  let entryAddr := (descaddr ||| tableOffset) &&& flip 7
  let descriptor := readU64 self entryAddr 0
  if descriptor &&& 1 = 0 then none
  else if level = 3 ∧ descriptor &&& 2 = 0 then none
  else if descriptor &&& 2 = 0 ∧ level < 3 ∧ blockLegal params.stride level = false then none
  else
    let next := descriptor &&& params.descaddrmask
    match below with
    | 0 => some (level,next)
    | below + 1 =>
      if descriptor &&& 2 ≠ 0 then
        match toOffset next with
        | none => none
        | some table => descriptorCascade self kva params below table params.indexmaskGrainsize
      else some (level,next)

def walkAarch64WithParams (ttbrPa kva : Nat) (params : Aarch64WalkParams) : Option Nat :=
  match descriptorCascade self kva params (3 - params.startLevel) (ttbrPa &&& (flip 0 >>> (64 - 48)))
      params.firstIndexmask with
  | none => none
  | some (level,descaddr) =>
    let pageSize := 1 <<< (params.stride * (4 - level) + 3)
    toOffset ((descaddr &&& flip (pageSize - 1)) ||| (kva &&& (pageSize - 1)))

def walkAarch64 (ttbrPa kva tcrEl1 : Nat) : Option Nat :=
  match Aarch64WalkParams.fromTcrEl1 tcrEl1 with
  | none => none
  | some params => walkAarch64WithParams self ttbrPa kva params

inductive Arch
  | x86
  | aarch64
deriving DecidableEq

def translateKva (arch : Arch) (self : GuestMem) (cr3Pa kva : Nat) (l5 : Bool) (tcrEl1 : Nat) : Option Nat :=
  match arch with
  | .x86 => if l5 then walk5level self cr3Pa kva else walk4level self cr3Pa kva
  | .aarch64 => walkAarch64 self cr3Pa kva tcrEl1

structure TlbEntry where
  cr3Pa : Nat
  l5 : Bool
  tcrEl1 : Nat
  kvaPage : Nat
  paPage : Nat

/-- `translate_kva` with its cache in front of the walk: the answer, and the slot afterwards. -/
def translateKvaCached (arch : Arch) (self : GuestMem) (pageTlb : Option TlbEntry) (cr3Pa kva : Nat) (l5 : Bool)
    (tcrEl1 : Nat) : Option Nat × Option TlbEntry :=
  let kvaPage := kva &&& flip (4096 - 1)
  match pageTlb.filter fun entry =>
      entry.cr3Pa == cr3Pa && entry.l5 == l5 && entry.tcrEl1 == tcrEl1 && entry.kvaPage == kvaPage with
  | some entry => (some (entry.paPage ||| (kva &&& (4096 - 1))),pageTlb)
  | none =>
    match translateKva arch self cr3Pa kva l5 tcrEl1 with
    | some pa => (some pa,some ⟨cr3Pa,l5,tcrEl1,kvaPage,pa &&& flip (4096 - 1)⟩)
    | none => (none,pageTlb)

def kvaToPa (kva pageOffset : Nat) : Nat := wrappingSub kva pageOffset

def textKvaToPaWithBase (kva startKernelMap physBase : Nat) : Nat :=
  wrappingAdd (wrappingSub kva startKernelMap) physBase

end Ktstr.Source.Reader
