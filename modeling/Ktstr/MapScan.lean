import Ktstr.Semantics.XArrays

/-! The xarray lookup follows the digits of the index but never compares it with the size of
the tree: beyond the root node it returns the entry of the index's low digits. The scan of
the map IDR therefore repeats maps once the tree is smaller than the range of ids. -/
namespace Ktstr.MapScan
open List Library.Radix Library.Words Source.Reader Source.BpfMaps Semantics.XArrays Nat BpfMapInfo

theorem slotIdx_digit (index level : Nat) :
    (index >>> (6 * level)) &&& (xaChunkSize - 1) = (digit 64 level index : Nat) := by
  rw [shiftRight_eq_div_pow,pow_mul]
  exact and_two_pow_sub_one_eq_mod _ 6

theorem slotKva_fits {tag slotsOff slot : Nat} (fits : nodeKva tag + slotsOff + 64 * 8 ≤ wordSpan)
    (inside : slot < 64) :
    wrappingAdd (wrappingAdd (nodeKva tag) slotsOff) (slot * 8) = nodeKva tag + slotsOff + slot * 8 := by
  have base : wrappingAdd (nodeKva tag) slotsOff = nodeKva tag + slotsOff := wrappingAdd_of_fits (by omega)
  rw [base]
  exact wrappingAdd_of_fits (by omega)

def follow (ctx : AccessorCtx) (index budget level word : Nat) : Option Nat :=
  if word = 0 then some 0
  else if word &&& 2 = 0 then some word
  else if 6 * level < 6 then some 0
  else
    match budget with
    | 0 => none
    | budget + 1 =>
      xaDescend ctx.mem ctx.pageOffset index ctx.offsets.xaNodeSlots budget (nodeKva word) (6 * level - 6)

variable (ctx : AccessorCtx)

theorem xaDescend_follow (index budget level tag : Nat) (small : level ≤ 10)
    (fits : nodeKva tag + ctx.offsets.xaNodeSlots + 64 * 8 ≤ wordSpan) :
    xaDescend ctx.mem ctx.pageOffset index ctx.offsets.xaNodeSlots budget (nodeKva tag) (6 * level) =
      follow ctx index budget level (slotWord ctx tag (digit 64 level index)) := by
  rw [xaDescend.eq_def,if_neg (by omega)]
  simp only [slotIdx_digit,slotKva_fits fits (digit 64 level index).isLt]
  rfl

theorem follow_lookup (index : Nat) {level : Nat} (slot : Slot 64 Nat level) (word : Nat)
    (holds : SlotHolds ctx slot word) (small : level ≤ 11) (budget : Nat) (enough : level ≤ budget) :
    follow ctx index budget level word = some ((slot.lookup index).getD 0) := by
  induction slot generalizing word budget with
  | empty => exact if_pos holds
  | leaf value =>
    obtain ⟨same,nonzero,clear⟩ := holds
    rw [follow.eq_def,same,if_neg nonzero,if_pos clear]
    rfl
  | @node level tag slots ih =>
    obtain ⟨same,marked,-,fits,stored⟩ := holds
    have nonzero : tag ≠ 0 := by
      rintro rfl
      exact marked rfl
    obtain ⟨left,rfl⟩ : ∃ left, budget = left + 1 := ⟨budget - 1,by omega⟩
    rw [follow.eq_def,same,if_neg nonzero,if_neg marked]
    -- The child's shift is six less: the same loop, one level down.
    exact (xaDescend_follow ctx index left level tag (by omega) fits).trans
      (ih _ _ (stored _) (by omega) left (by omega))

def folded (tree : Tree 64 Nat) (index : Nat) : Nat :=
  match tree.capacity with
  | some capacity => index % capacity
  | none => index

variable (tree : Tree 64 Nat) (head : Nat)

variable {head}

theorem xaLoad_folded (holds : TreeHolds ctx tree head) (index : Nat) :
    xaLoad ctx.mem ctx.pageOffset head index ctx.offsets.xaNodeSlots ctx.offsets.xaNodeShift =
      some (entryAt tree (folded tree index)) := by
  cases tree with
  | empty => exact if_pos holds
  | direct value =>
    obtain ⟨same,nonzero,clear⟩ := holds
    rw [xaLoad,same,if_neg nonzero,if_pos clear,entryAt,folded]
    simp only [Tree.capacity,Tree.lookup]
    by_cases first : index = 0 <;> simp [first]
  | root tag level slots =>
    obtain ⟨small,same,marked,shift,fits,stored⟩ := holds
    have nonzero : tag ≠ 0 := by
      rintro rfl
      exact marked rfl
    rw [xaLoad,same,if_neg nonzero,if_neg marked,entryAt]
    simp only [folded,Tree.capacity]
    rw [Tree.lookup_folded]
    change xaDescend _ _ _ _ _ (nodeKva tag) (xaNodeShift _ _ (nodeKva tag) _) = _
    rw [shift,xaDescend_follow ctx index 10 level tag small fits]
    exact follow_lookup ctx index _ _ (stored _) (by omega) 10 small

theorem folded_inside {tree : Tree 64 Nat} {index : Nat}
    (inside : ∀ capacity, tree.capacity = some capacity → index < capacity) : folded tree index = index := by
  unfold folded
  split
  next capacity rooted => exact mod_eq_of_lt (inside capacity rooted)
  next => rfl

theorem entryAt_beyond {tree : Tree 64 Nat} {capacity index : Nat} (rooted : tree.capacity = some capacity)
    (beyond : capacity ≤ index) : entryAt tree index = 0 := by
  rw [entryAt,Tree.lookup_beyond rooted beyond]
  rfl

theorem entryAt_folded_iff {index : Nat} :
    entryAt tree (folded tree index) = entryAt tree index ↔ Unaliased tree index := by
  constructor
  · intro same capacity rooted
    refine (lt_or_ge index capacity).imp id fun beyond => ?_
    rw [entryAt_beyond rooted beyond,folded,rooted] at same
    exact same
  · intro clear
    by_cases inside : ∀ capacity, tree.capacity = some capacity → index < capacity
    · rw [folded_inside inside]
    · obtain ⟨capacity,rooted,beyond⟩ : ∃ capacity, tree.capacity = some capacity ∧ capacity ≤ index := by
        simpa using inside
      have empty := (clear capacity rooted).resolve_left (not_lt.mpr beyond)
      rw [entryAt_beyond rooted beyond,folded,rooted]
      exact empty

theorem scanId_kva (holds : TreeHolds ctx tree head) (id kva : Nat) :
    (scanId ctx head id).map mapKva = some kva ↔
      entryAt tree (folded tree id) = kva ∧ Live ctx kva := by
  rw [scanId,xaLoad_folded ctx tree holds]
  simp only
  by_cases zero : entryAt tree (folded tree id) = 0
  · rw [if_pos zero]
    exact ⟨fun found => absurd found (by simp),fun ⟨same,live⟩ => absurd (same.symm.trans zero) live.1⟩
  · rw [if_neg zero,Option.map_map]
    constructor
    · intro found
      obtain ⟨mapPa,translates,same⟩ := Option.map_eq_some_iff.mp found
      cases same
      exact ⟨rfl,zero,Option.isSome_iff_exists.mpr ⟨mapPa,translates⟩⟩
    · rintro ⟨rfl,-,translates⟩
      obtain ⟨mapPa,found⟩ := Option.isSome_iff_exists.mp translates
      rw [found]
      rfl

variable (mapIdrKva : Nat)

theorem findAll_kvas (stored : readU64 ctx.mem (idrPa ctx mapIdrKva) ctx.offsets.idrXaHead = head) :
    (findAllBpfMaps ctx mapIdrKva).map mapKva =
      (List.range (idrBound ctx mapIdrKva)).filterMap fun id => (scanId ctx head id).map mapKva := by
  rw [findAllBpfMaps,stored]
  by_cases empty : head = 0
  · rw [if_pos empty,map_nil,eq_comm,filterMap_eq_nil_iff]
    intro id _
    rw [scanId,xaLoad,if_pos empty]
    rfl
  · rw [if_neg empty,map_filterMap]

/-- No two ids below the bound hold the same live entry, and none beyond the root node
selects one by its low digits. -/
def IdsSeparate (ctx : AccessorCtx) (mapIdrKva : Nat) (tree : Tree 64 Nat) : Prop :=
  (∀ id < idrBound ctx mapIdrKva, ∀ earlier < id, entryAt tree earlier = entryAt tree id →
    ¬ Live ctx (entryAt tree id)) ∧
  ∀ id < idrBound ctx mapIdrKva, ∀ capacity, tree.capacity = some capacity → capacity ≤ id →
    ¬ Live ctx (entryAt tree (id % capacity))

theorem live_inside {ctx : AccessorCtx} {tree : Tree 64 Nat} {id : Nat} (live : Live ctx (entryAt tree id)) :
    folded tree id = id := by
  refine folded_inside fun capacity rooted => ?_
  by_contra beyond
  exact live.1 (entryAt_beyond rooted (not_lt.mp beyond))

theorem pairwise_range (relation : Nat → Nat → Prop) (bound : Nat) :
    (List.range bound).Pairwise relation ↔ ∀ later < bound, ∀ earlier < later, relation earlier later := by
  rw [pairwise_iff_getElem]
  simp only [length_range,getElem_range]
  exact ⟨fun ordered later inside earlier before => ordered earlier later (by omega) inside before,
    fun ordered earlier later _ inside before => ordered later inside earlier before⟩

theorem nodup_iff_separate (holds : TreeHolds ctx tree head) :
    ((List.range (idrBound ctx mapIdrKva)).filterMap fun id =>
      (scanId ctx head id).map mapKva).Nodup ↔ IdsSeparate ctx mapIdrKva tree := by
  rw [List.Nodup,pairwise_filterMap,pairwise_range]
  simp only [scanId_kva ctx tree holds]
  constructor
  · intro apart
    refine ⟨fun id below earlier before same live => ?_,fun id below capacity rooted beyond live => ?_⟩
    · have live' : Live ctx (entryAt tree earlier) := same ▸ live
      exact apart id below earlier before _ ⟨by rw [live_inside live'],live'⟩ _ ⟨by rw [live_inside live],live⟩ same
    · have low : id % capacity < id :=
        (mod_lt _ (Tree.capacity_pos rooted)).trans_le beyond
      have here : entryAt tree (folded tree id) = entryAt tree (id % capacity) := by rw [folded,rooted]
      exact apart id below (id % capacity) low _ ⟨by rw [live_inside live],live⟩ _ ⟨here,live⟩ rfl
  · rintro ⟨distinct,inside⟩ id below earlier before kva ⟨first,live⟩ other ⟨second,live'⟩ rfl
    have within : ∀ capacity, tree.capacity = some capacity → id < capacity := by
      intro capacity rooted
      by_contra beyond
      refine inside id below capacity rooted (not_lt.mp beyond) ?_
      rw [folded,rooted] at second
      exact second ▸ live'
    rw [folded_inside within] at second
    rw [folded_inside fun capacity rooted => before.trans (within capacity rooted)] at first
    exact distinct id below earlier before (first.trans second.symm) (second ▸ live')

theorem mem_kvas (holds : TreeHolds ctx tree head) {kva : Nat} :
    (kva ∈ (List.range (idrBound ctx mapIdrKva)).filterMap fun id => (scanId ctx head id).map mapKva) ↔
      ∃ id < idrBound ctx mapIdrKva, entryAt tree id = kva ∧ Live ctx kva := by
  simp only [mem_filterMap,List.mem_range,scanId_kva ctx tree holds]
  constructor
  · rintro ⟨id,below,found,live⟩
    have low : folded tree id ≤ id := by
      unfold folded
      split
      · exact mod_le _ _
      · exact le_refl id
    exact ⟨folded tree id,low.trans_lt below,found,live⟩
  · rintro ⟨id,below,rfl,live⟩
    exact ⟨id,below,by rw [live_inside live],live⟩

variable (head)

/-- Over any stored tree, the lookup is right exactly at indices that do not alias, and the
scan reports every live map once exactly if the ids below its bound are separate. -/
theorem xarray_reads_exact_iff (ctx : AccessorCtx) (tree : Tree 64 Nat) (head : Nat)
    (holds : TreeHolds ctx tree head) :
    (∀ index, xaLoad ctx.mem ctx.pageOffset head index ctx.offsets.xaNodeSlots ctx.offsets.xaNodeShift =
      some (entryAt tree index) ↔ Unaliased tree index) ∧
    ∀ mapIdrKva, readU64 ctx.mem (idrPa ctx mapIdrKva) ctx.offsets.idrXaHead = head →
      (ScanExact ctx mapIdrKva tree ↔ IdsSeparate ctx mapIdrKva tree) := by
  refine ⟨fun index => ?_,fun mapIdrKva stored => ?_⟩
  · rw [xaLoad_folded ctx tree holds,Option.some_inj]
    exact entryAt_folded_iff tree
  · rw [← nodup_iff_separate ctx tree mapIdrKva holds,← findAll_kvas ctx mapIdrKva stored]
    refine ⟨ScanExact.once,fun once => ⟨once,fun kva => ?_⟩⟩
    rw [findAll_kvas ctx mapIdrKva stored]
    exact mem_kvas ctx tree mapIdrKva holds

def pageBase : Nat := 0xffff888000000000

-- The IDR lies at 0x40, its only node at 0x100 and its only map, of id 1, at 0x800.
def idrCtx (shrunk : Bool) : AccessorCtx where
  arch := .x86
  mem := .new (Library.Bytes.sparse [(0x40,pageBase + 0x102),(0x48,if shrunk then 66 else 2),(0x118,pageBase + 0x800)])
    0x1000 (by decide)
  cr3Pa := 0
  pageOffset := pageBase
  offsets := {
    mapName := 0x60, mapType := 0x18, mapFlags := 0x1c, keySize := 0x20, valueSize := 0x24, maxEntries := 0x28
    arrayValue := 0x100, xaNodeSlots := 0x10, xaNodeShift := 0, idrXaHead := 0, idrNext := 8, mapBtf := 0x30
    mapBtfValueTypeId := 0x38, mapBtfVmlinuxValueTypeId := 0x3c, mapBtfKeyTypeId := 0x40
    htabOffsets := none, structOpsOffsets := none }
  l5 := false
  tcrEl1 := 0
  startKernelMap := 0xffffffff80000000
  physBase := 0

local instance someSlots : NeZero 64 := ⟨by decide⟩

def oneMap : Tree 64 Nat :=
  .root (pageBase + 0x102) 0 fun slot => if slot = 1 then .leaf (pageBase + 0x800) else .empty

theorem oneMap_holds {shrunk : Bool} : TreeHolds (idrCtx shrunk) oneMap (pageBase + 0x102) := by
  refine ⟨by omega,rfl,by decide,by decide +kernel +revert,by decide +kernel +revert,fun slot => ?_⟩
  by_cases first : slot = 1
  · simp only [first]
    exact ⟨by decide +kernel +revert,by decide,by decide⟩
  · simp only [if_neg first]
    change slotWord (idrCtx shrunk) (pageBase + 0x102) slot = 0
    revert shrunk slot
    decide +kernel

/-- With one map of id 1 left and ids handed out up to 65, the lookup at 65 finds that map
again and the scan reports it twice. -/
theorem shrunk_idr_repeats_map :
    TreeHolds (idrCtx true) oneMap (pageBase + 0x102) ∧
      readU64 (idrCtx true).mem (idrPa (idrCtx true) 0xffffffff80000040) (idrCtx true).offsets.idrXaHead =
        pageBase + 0x102 ∧
      xaLoad (idrCtx true).mem pageBase (pageBase + 0x102) 65 0x10 0 = some (pageBase + 0x800) ∧
      entryAt oneMap 65 = 0 ∧
      (findAllBpfMaps (idrCtx true) 0xffffffff80000040).map BpfMapInfo.mapKva =
        [pageBase + 0x800,pageBase + 0x800] ∧
      ¬ ScanExact (idrCtx true) 0xffffffff80000040 oneMap := by
  have twice : (findAllBpfMaps (idrCtx true) 0xffffffff80000040).map mapKva =
      [pageBase + 0x800,pageBase + 0x800] := by decide +kernel
  refine ⟨oneMap_holds,by decide +kernel,by decide +kernel,by decide +kernel,twice,fun exact => ?_⟩
  have once := exact.once
  rw [twice] at once
  simp at once

/-- While the ids stay within the root node, the map is found once. -/
theorem small_idr_reads_exact :
    TreeHolds (idrCtx false) oneMap (pageBase + 0x102) ∧
      xaLoad (idrCtx false).mem pageBase (pageBase + 0x102) 1 0x10 0 = some (entryAt oneMap 1) ∧
      entryAt oneMap 1 = pageBase + 0x800 ∧ ScanExact (idrCtx false) 0xffffffff80000040 oneMap := by
  obtain ⟨lookup,scan⟩ := xarray_reads_exact_iff (idrCtx false) oneMap (pageBase + 0x102) oneMap_holds
  have bound : idrBound (idrCtx false) 0xffffffff80000040 = 2 := by decide +kernel
  refine ⟨oneMap_holds,(lookup 1).mpr fun capacity rooted => ?_,by decide +kernel,
    (scan 0xffffffff80000040 (by decide +kernel)).mpr ⟨?_,?_⟩⟩
  · cases rooted
    exact Or.inl (by decide)
  · rw [bound]
    intro id below earlier before same
    obtain ⟨rfl,rfl⟩ : id = 1 ∧ earlier = 0 := by omega
    exact absurd same (by decide +kernel)
  · rw [bound]
    intro id below capacity rooted beyond
    cases rooted
    omega

end Ktstr.MapScan
