import Ktstr.Source.Reader

/-! What page-table walks read, and the lookup that the architecture prescribes for aarch64. Offsets are relative to the
start of DRAM; words outside of guest memory read as zero. -/
namespace Ktstr.Semantics.TableWalks
open Library.Words Source.Reader

variable (mem : GuestMem) (cr3Pa kva : Nat)

/-- Addresses of the entries that `walk4level` reads, in order. -/
def walk4Reads : List Nat :=
  let pgd := (cr3Pa &&& addrMask) + ((kva >>> 39) &&& 0x1FF) * 8
  let pgde := readU64 mem pgd 0
  let pud := (pgde &&& addrMask) + ((kva >>> 30) &&& 0x1FF) * 8
  let pude := readU64 mem pud 0
  let pmd := (pude &&& addrMask) + ((kva >>> 21) &&& 0x1FF) * 8
  let pmde := readU64 mem pmd 0
  if pgde &&& present = 0 then [pgd]
  else if pude &&& present = 0 ∨ pude &&& ps ≠ 0 then [pgd,pud]
  else if pmde &&& present = 0 ∨ pmde &&& ps ≠ 0 then [pgd,pud,pmd]
  else [pgd,pud,pmd,(pmde &&& addrMask) + ((kva >>> 12) &&& 0x1FF) * 8]

def walk5Reads : List Nat :=
  let pml5 := (cr3Pa &&& addrMask) + ((kva >>> 48) &&& 0x1FF) * 8
  let pml5e := readU64 mem pml5 0
  if pml5e &&& present = 0 ∨ pml5e &&& ps ≠ 0 then [pml5] else pml5::walk4Reads mem (pml5e &&& addrMask) kva

/-- Addresses of the descriptors that the cascade reads, in order. -/
def descriptorReads (mem : GuestMem) (kva : Nat) (params : Aarch64WalkParams) (below descaddr indexmask : Nat) : List Nat :=
  let entryAddr := (descaddr ||| ((kva >>> (params.stride * (4 - (3 - below)))) &&& indexmask)) &&& flip 7
  let descriptor := readU64 mem entryAddr 0
  match below,toOffset (descriptor &&& params.descaddrmask) with
  | below + 1,some table =>
    if descriptor &&& 1 ≠ 0 ∧ descriptor &&& 2 ≠ 0 then
      entryAddr::descriptorReads mem kva params below table params.indexmaskGrainsize
    else [entryAddr]
  | _,_ => [entryAddr]

def aarch64Reads (ttbrPa kva : Nat) (params : Aarch64WalkParams) : List Nat :=
  descriptorReads mem kva params (3 - params.startLevel) (ttbrPa &&& (flip 0 >>> (64 - 48))) params.firstIndexmask

def walkReads (arch : Arch) (mem : GuestMem) (cr3Pa kva : Nat) (l5 : Bool) (tcrEl1 : Nat) : List Nat :=
  match arch,Aarch64WalkParams.fromTcrEl1 tcrEl1 with
  | .x86,_ => if l5 then walk5Reads mem cr3Pa kva else walk4Reads mem cr3Pa kva
  | .aarch64,some params => aarch64Reads mem cr3Pa kva params
  | .aarch64,none => []

/-- Levels at which a descriptor may map a block: the last but one, and for pages of 4 KiB also the one above it. -/
def MapsBlocks (stride level : Nat) : Prop := level = 2 ∨ level = 1 ∧ stride = 9

instance decidableMapsBlocks (stride level : Nat) : Decidable (MapsBlocks stride level) :=
  inferInstanceAs (Decidable (_ ∨ _ ∧ _))

def outputAddress (descriptor bits : Nat) : Nat := descriptor % 2 ^ 50 / 2 ^ bits * 2 ^ bits

def leafAddress (descriptor bits : Nat) : Option Nat :=
  (toOffset (outputAddress descriptor bits)).map fun base => base + kva % 2 ^ bits

/-- The lookup in a table that has the given number of levels below it, for the entry of an index. -/
def lookup (mem : GuestMem) (stride kva : Nat) : Nat → Nat → Nat → Option Nat
  | 0,table,index =>
    let descriptor := readU64 mem (table + 8 * index) 0
    if descriptor % 2 = 0 ∨ descriptor.testBit 1 = false then none else leafAddress kva descriptor (stride + 3)
  | below + 1,table,index =>
    let descriptor := readU64 mem (table + 8 * index) 0
    if descriptor % 2 = 0 then none
    else if descriptor.testBit 1 = true then
      (toOffset (outputAddress descriptor (stride + 3))).bind fun next =>
        lookup mem stride kva below next (kva / 2 ^ (stride * (below + 1) + 3) % 2 ^ stride)
    else if MapsBlocks stride (2 - below) then leafAddress kva descriptor (stride * (below + 2) + 3)
    else none

end Ktstr.Semantics.TableWalks
