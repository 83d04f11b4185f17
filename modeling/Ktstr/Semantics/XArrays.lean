import Ktstr.Library.Radix
import Ktstr.Source.BpfMaps

/-! The index-to-entry map that guest memory holds as an xarray: which memory images store
which radix tree, and what a faithful scan of the map IDR over such a tree reports. -/
namespace Ktstr.Semantics.XArrays
open Library.Radix Library.Words Source.Reader Source.BpfMaps

def nodeKva (word : Nat) : Nat := word &&& flip 3

def slotWord (ctx : AccessorCtx) (word slot : Nat) : Nat :=
  readU64 ctx.mem (kvaToPa (nodeKva word + ctx.offsets.xaNodeSlots + slot * 8) ctx.pageOffset) 0

/-- Memory stores a slot as a word: zero, an entry with bit 1 clear, or the marked address of
a node that carries its shift and stores its own slots. -/
def SlotHolds (ctx : AccessorCtx) : {level : Nat} → Slot 64 Nat level → Nat → Prop
  | _,.empty,word => word = 0
  | _,.leaf value,word => word = value ∧ value ≠ 0 ∧ value &&& 2 = 0
  | level + 1,.node tag slots,word =>
    word = tag ∧ tag &&& 2 ≠ 0 ∧
      xaNodeShift ctx.mem ctx.pageOffset (nodeKva tag) ctx.offsets.xaNodeShift = 6 * level ∧
      nodeKva tag + ctx.offsets.xaNodeSlots + 64 * 8 ≤ wordSpan ∧
      ∀ slot : Fin 64, SlotHolds ctx (slots slot) (slotWord ctx tag slot)

def TreeHolds (ctx : AccessorCtx) : Tree 64 Nat → Nat → Prop
  | .empty,head => head = 0
  | .direct value,head => SlotHolds ctx (.leaf value : Slot 64 Nat 0) head
  | .root tag level slots,head => level ≤ 10 ∧ SlotHolds ctx (.node tag slots) head

def entryAt (tree : Tree 64 Nat) (index : Nat) : Nat := (tree.lookup index).getD 0

/-- The index is within the root node, or what its low digits select is empty anyway. -/
def Unaliased (tree : Tree 64 Nat) (index : Nat) : Prop :=
  ∀ capacity, tree.capacity = some capacity → index < capacity ∨ entryAt tree (index % capacity) = 0

def Live (ctx : AccessorCtx) (entry : Nat) : Prop := entry ≠ 0 ∧ (ctx.translate entry).isSome

/-- Every live map with an id below the bound is reported, once, and nothing else is. -/
structure ScanExact (ctx : AccessorCtx) (mapIdrKva : Nat) (tree : Tree 64 Nat) : Prop where
  once : ((findAllBpfMaps ctx mapIdrKva).map BpfMapInfo.mapKva).Nodup
  complete : ∀ kva, kva ∈ (findAllBpfMaps ctx mapIdrKva).map BpfMapInfo.mapKva ↔
    ∃ id < idrBound ctx mapIdrKva, entryAt tree id = kva ∧ Live ctx kva

end Ktstr.Semantics.XArrays
