import Ktstr.Semantics.GuestView
import Ktstr.Source.SdtAlloc

/-! The radix tree of an arena allocator under a view of memory: the guest's, byte by byte through
its page tables, or what lies physically behind the start of each object. -/
namespace Ktstr.Semantics.SdtTrees
open Library.Bytes Library.Words Source.Reader Source.SdtAlloc GuestView

/-- A word of an object: at an arena pointer, an offset into the object and a width. -/
abbrev View := Nat → Nat → Nat → Option Nat

def arenaSpan : Nat := 2 ^ 32

variable (walker : TreeWalker)

def arenaTranslate (addr : Nat) : Option Nat :=
  translateKva walker.kernel.arch walker.kernel.mem walker.kernel.cr3Pa (addr % wordSpan) walker.kernel.l5 walker.kernel.tcrEl1

/-- A byte of an object as the guest sees it, at its own translation. -/
def arenaByte (ptr i : Nat) : Option UInt8 :=
  (arenaTranslate walker (walker.kernVmStart + ptr % arenaSpan + i)).bind (physByte walker.kernel.mem)

def guestView : View := fun ptr off width =>
  ((List.range width).mapM fun i => arenaByte walker ptr (off + i)).map leNat

def startPa (ptr : Nat) : Option Nat :=
  (arenaTranslate walker (walker.kernVmStart + ptr % arenaSpan)).filter fun pa => pa < walker.kernel.mem.size

def behindView : View := fun ptr off width =>
  (startPa walker ptr).map fun pa => leNat (readScalar walker.kernel.mem width pa off)

structure Desc (view : View) (offsets : SdtAllocOffsets) (ptr : Nat) (bitmap : Nat → Nat) (chunk : Nat) : Prop where
  allocated : ∀ i < sdtTaskChunkBitmapU64s, view ptr (offsets.descAllocated + i * 8) 8 = some (bitmap i)
  free : ∃ free ≤ sdtTaskEntsPerChunk, view ptr offsets.descNrFree 8 = some free
  pointer : view ptr offsets.descChunk 8 = some chunk
  present : chunk ≠ 0

def Chunk (view : View) (offsets : SdtAllocOffsets) (chunk : Nat) (entry : Nat → Nat) : Prop :=
  ∀ pos < sdtTaskEntsPerChunk, view chunk (offsets.chunkUnion + pos * 8) 8 = some (entry pos)

def Live (bitmap entry : Nat → Nat) (pos : Nat) : Bool := (bitmap (pos / 64)).testBit (pos % 64) && entry pos != 0

/-- A subtree with the given number of levels below its root, and the arena addresses of its
live slots in index order. -/
def Subtree (view : View) (offsets : SdtAllocOffsets) : Nat → Nat → List Nat → Prop
  | 0,ptr,slots => ∃ bitmap chunk entry, Desc view offsets ptr bitmap chunk ∧ Chunk view offsets chunk entry ∧
    slots = ((List.range sdtTaskEntsPerChunk).filter (Live bitmap entry)).map fun pos => entry pos % arenaSpan
  | below + 1,ptr,slots => ∃ bitmap chunk entry, Desc view offsets ptr bitmap chunk ∧ Chunk view offsets chunk entry ∧
    ∃ parts : List (List Nat), slots = parts.flatten ∧ List.Forall₂
      (fun pos part => (entry pos = 0 ∧ part = []) ∨ (entry pos ≠ 0 ∧ Subtree view offsets below (entry pos) part))
      (List.range sdtTaskEntsPerChunk) parts

/-- The tree of an allocator that the guest has in mapped memory, with its live slots. -/
structure GuestTree (walker : TreeWalker) (allocatorBytes : List UInt8) (elemSize root : Nat) (slots : List Nat) :
    Prop where
  size : readU64At allocatorBytes (walker.offsets.allocatorPool + walker.offsets.poolElemSize) = some elemSize
  ranged : minElemSize ≤ elemSize ∧ elemSize ≤ maxElemSize
  header : walker.offsets.dataHeaderSize + walker.payloadSize = elemSize
  nonempty : 0 < walker.payloadSize
  rooted : readU64At allocatorBytes walker.offsets.allocatorRoot = some root
  shape : (root = 0 ∧ slots = []) ∨ (root ≠ 0 ∧ Subtree (guestView walker) walker.offsets 2 root slots)
  few : slots.length ≤ maxSdtAllocEntries
  mapped : ∀ slot ∈ slots, ∀ i < elemSize, ∃ byte, arenaByte walker slot i = some byte

structure EntryTrue (walker : TreeWalker) (slot : Nat) (entry : SdtAllocEntry) : Prop where
  addr : entry.userAddr = slot
  idx : ∃ word, guestView walker slot 0 4 = some word ∧ entry.idx = asI32 word
  genn : ∃ word, guestView walker slot 4 4 = some word ∧ entry.genn = asI32 word
  payload : ∃ bytes : List UInt8, bytes.length = walker.payloadSize ∧ entry.payload = renderPayload walker bytes ∧
    ∀ i < walker.payloadSize, arenaByte walker slot (walker.offsets.dataHeaderSize + i) = bytes[i]?

structure DumpTrue (walker : TreeWalker) (slots : List Nat) (snap : SdtAllocatorSnapshot) : Prop where
  whole : snap.truncated = false
  unskipped : snap.skippedSubtrees = 0
  entries : List.Forall₂ (EntryTrue walker) slots snap.entries

/-- The bytes physically behind the start of a slot are the guest's. -/
structure SlotBehind (walker : TreeWalker) (slot pa : Nat) : Prop where
  start : startPa walker slot = some pa
  idx : guestView walker slot 0 4 = behindView walker slot 0 4
  genn : guestView walker slot 4 4 = behindView walker slot 4 4
  region : OneRegion walker.kernel.mem (wrappingAdd pa walker.offsets.dataHeaderSize) walker.payloadSize
  payload : ∀ i < walker.payloadSize, arenaByte walker slot (walker.offsets.dataHeaderSize + i) =
    physByte walker.kernel.mem (wrappingAdd pa walker.offsets.dataHeaderSize + i)

/-- The same tree lies physically behind the starts of its descriptors and chunks, and each slot
behind its own start. -/
structure TreeBehind (walker : TreeWalker) (root : Nat) (slots : List Nat) : Prop where
  shape : root ≠ 0 → Subtree (behindView walker) walker.offsets 2 root slots
  slot : ∀ slot ∈ slots, ∃ pa, SlotBehind walker slot pa

end Ktstr.Semantics.SdtTrees
