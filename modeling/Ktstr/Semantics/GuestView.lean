import Ktstr.Source.Htab

/-! Guest memory as the guest sees it: every byte at its own translation. What it means for
the entries of a hash map and for per-CPU values to be the guest's own bytes. -/
namespace Ktstr.Semantics.GuestView
open Library.Bytes Library.Words Source.Reader Source.BpfMaps Source.Htab

def physByte (mem : GuestMem) (pa : Nat) : Option UInt8 :=
  if pa < mem.size then (resolvePtr mem pa).map fun found => found.1 0 else none

variable (ctx : AccessorCtx)

def guestByte (kva : Nat) : Option UInt8 :=
  (ctx.translate (kva % wordSpan)).bind (physByte ctx.mem)

def Shows (kva : Nat) (bytes : List UInt8) : Prop :=
  ∀ i < bytes.length, guestByte ctx (kva + i) = bytes[i]?

def Hidden (kva len : Nat) : Prop := ∃ i < len, guestByte ctx (kva + i) = none

def ShowsWord (kva width word : Nat) : Prop :=
  ∃ bytes : List UInt8, bytes.length = width ∧ Shows ctx kva bytes ∧ leNat bytes = word

/-- A word of an object that the guest sees and that also lies behind the translation of the
object's start. -/
structure WordAt (ctx : AccessorCtx) (base off width word : Nat) : Prop where
  visible : ShowsWord ctx (base + off) width word
  behind : ∃ pa, ctx.translate base = some pa ∧ leNat (readScalar ctx.mem width pa off) = word

/-- A chain of elements from a link word on, ended by zero or a nulls marker. -/
def Chain (ctx : AccessorCtx) (htab : HtabOffsets) : Nat → List Nat → Prop
  | word,[] => word = 0 ∨ word &&& 1 ≠ 0
  | word,elem::rest => word = elem ∧ elem ≠ 0 ∧ elem &&& 1 = 0 ∧
    ∃ next, WordAt ctx elem htab.hlistNullsNodeNext 8 next ∧ Chain ctx htab next rest

structure Table (ctx : AccessorCtx) (map : BpfMapInfo) (htab : HtabOffsets) (buckets : List (List Nat)) : Prop where
  layout : ctx.offsets.htabOffsets = some htab
  count : WordAt ctx map.mapKva htab.htabNBuckets 4 buckets.length
  bounded : buckets.length ≤ 65536
  chained : ∃ bucketsKva, bucketsKva ≠ 0 ∧ WordAt ctx map.mapKva htab.htabBuckets 8 bucketsKva ∧
    ∀ i chain, buckets[i]? = some chain → ∃ first, Chain ctx htab first chain ∧
      WordAt ctx (wrappingAdd bucketsKva (i * htab.bucketSize)) (htab.bucketHead + htab.hlistNullsHeadFirst) 8 first
  few : buckets.flatten.length ≤ 1000000
  distinct : buckets.flatten.Nodup

variable (map : BpfMapInfo) (len : Nat) (htab : HtabOffsets)

/-- An entry is the guest's key and value; no entry is given only for an element with a byte
outside guest memory. -/
def EntryTrue (elem : Nat) : Option (List UInt8 × List UInt8) → Prop
  | some (key,value) =>
    (key.length = map.keySize ∧ Shows ctx (elem + htab.htabElemSizeBase) key) ∧
      value.length = map.valueSize ∧ Shows ctx (elem + valueOffInElem htab map.keySize) value
  | none => Hidden ctx elem (valueOffInElem htab map.keySize + map.valueSize)

/-- A CPU's copy of the value at a per-CPU address is the guest's; CPUs without an offset and
a null address have no copy. -/
def ValueTrue (base cpu off : Nat) (value : Option (List UInt8)) : Prop :=
  if base = 0 ∨ (off = 0 ∧ cpu > 0) then value = none
  else
    match value with
    | some bytes => bytes.length = len ∧ Shows ctx (base + off) bytes
    | none => Hidden ctx (base + off) len

variable (offsets : List Nat) (elem : Nat)

def ValuesTrue (base : Nat) (offsets : List Nat) (values : List (Option (List UInt8))) : Prop :=
  ∀ cpu off, offsets[cpu]? = some off → ValueTrue ctx len base cpu off (values[cpu]?).join

def PercpuEntryTrue : Option (List UInt8 × List (Option (List UInt8))) → Prop
  | some (key,values) =>
    (key.length = map.keySize ∧ Shows ctx (elem + htab.htabElemSizeBase) key) ∧
      ∃ base, ShowsWord ctx (elem + valueOffInElem htab map.keySize) 8 base ∧
        ValuesTrue ctx map.valueSize base offsets values
  | none => Hidden ctx elem (valueOffInElem htab map.keySize + 8)

def OneRegion (mem : GuestMem) (pa len : Nat) : Prop :=
  len = 0 ∨ (pa + len ≤ mem.size ∧ ∃ ptr avail, resolvePtr mem pa = some (ptr,avail) ∧ len ≤ avail)

/-- The bytes from a physical address on are those the guest sees from a virtual one on. -/
def Agrees (pa kva len : Nat) : Prop :=
  ∀ i < len, guestByte ctx (kva + i) = physByte ctx.mem (pa + i)

def SizesFit : Prop := map.keySize ≤ maxValueSize ∧ map.valueSize ≤ maxValueSize

/-- An element whose key and value lie in one region each behind the translation of its start
has the guest's bytes there; any other has a byte outside guest memory. -/
def EntryBehind : Prop :=
  ∀ pa, ctx.translate elem = some pa →
    let keyPa := wrappingAdd pa htab.htabElemSizeBase
    let valuePa := wrappingAdd pa (valueOffInElem htab map.keySize)
    (SizesFit map ∧ OneRegion ctx.mem keyPa map.keySize ∧ OneRegion ctx.mem valuePa map.valueSize ∧
      Agrees ctx keyPa (elem + htab.htabElemSizeBase) map.keySize ∧
      Agrees ctx valuePa (elem + valueOffInElem htab map.keySize) map.valueSize) ∨
    (¬ (SizesFit map ∧ OneRegion ctx.mem keyPa map.keySize ∧ OneRegion ctx.mem valuePa map.valueSize) ∧
      Hidden ctx elem (valueOffInElem htab map.keySize + map.valueSize))

/-- A CPU's copy: the run the reader takes for it, at the address made from the pointer word
physically behind the object's start. -/
def Reached (physical off pa : Nat) : Prop :=
  physical ≠ 0 ∧ ctx.translate (wrappingAdd physical off) = some pa ∧ pa + len ≤ ctx.mem.size ∧
    OneRegion ctx.mem pa len

/-- Where the reader reaches a run for a CPU, it repeats the guest's view of that CPU's copy;
where it reaches none, the copy has a byte outside guest memory or there is no copy. -/
def ValueBehind (physical visible cpu off : Nat) : Prop :=
  if off = 0 ∧ cpu > 0 then True
  else if visible = 0 then ¬ ∃ pa, Reached ctx len physical off pa
  else (∃ pa, Reached ctx len physical off pa ∧ Agrees ctx pa (visible + off) len) ∨
    (¬ (∃ pa, Reached ctx len physical off pa) ∧ Hidden ctx (visible + off) len)

def ValuesBehind (physical visible : Nat) (offsets : List Nat) : Prop :=
  ∀ cpu off, offsets[cpu]? = some off → ValueBehind ctx len physical visible cpu off

/-- The same for an element with per-CPU values, whose pointer word the guest must see. -/
def PercpuEntryBehind : Prop :=
  ∀ pa, ctx.translate elem = some pa →
    let keyPa := wrappingAdd pa htab.htabElemSizeBase
    (SizesFit map ∧ OneRegion ctx.mem keyPa map.keySize ∧
      Agrees ctx keyPa (elem + htab.htabElemSizeBase) map.keySize ∧
      ∃ base, ShowsWord ctx (elem + valueOffInElem htab map.keySize) 8 base ∧
        ValuesBehind ctx map.valueSize (readU64 ctx.mem pa (valueOffInElem htab map.keySize)) base offsets) ∨
    (¬ (SizesFit map ∧ OneRegion ctx.mem keyPa map.keySize) ∧ Hidden ctx elem (valueOffInElem htab map.keySize + 8))

/-- The per-CPU pointer of an array slot as it lies behind the translation of the slot. -/
def pointerBehind (key : Nat) : Nat :=
  ((ctx.translate (pptrKva ctx map key)).map fun pa => readU64 ctx.mem pa 0).getD 0

end Ktstr.Semantics.GuestView
