import Ktstr.Library.Fallible
import Ktstr.PageWalks
import Ktstr.PhysicalReads
import Ktstr.Semantics.SdtTrees

/-! The allocator dump translates the first byte of each descriptor, chunk and slot and reads on
physically. It shows the guest's live slots exactly when the same tree lies behind those
translations. -/
namespace Ktstr.SdtDump
open List Library.Bytes Library.Words Library.BitScan Library.Fallible Source.Reader Source.SdtAlloc
open Semantics.GuestView Semantics.SdtTrees PhysicalReads

theorem and_mask (ptr : Nat) : ptr &&& 0xFFFFFFFF = ptr % arenaSpan := Nat.and_two_pow_sub_one_eq_mod ptr 32

theorem startPa_mod (walker : TreeWalker) (ptr : Nat) : startPa walker (ptr % arenaSpan) = startPa walker ptr := by
  rw [startPa,startPa,Nat.mod_mod]

variable {ptr : Nat}

theorem translate_eq {walker : TreeWalker} (nonzero : ptr ≠ 0) :
    translateArenaPtr walker ptr = startPa walker ptr := by
  rw [translateArenaPtr,if_neg nonzero,startPa,arenaTranslate,and_mask,wrappingAdd]
  dsimp only
  cases translateKva _ _ _ ((walker.kernVmStart + ptr % arenaSpan) % wordSpan) _ _ with
  | none => rfl
  | some pa => by_cases inside : pa < walker.kernel.mem.size <;> simp [inside,Option.filter]

def entryAt (walker : TreeWalker) (slot : Nat) : SdtAllocEntry := leafEntry walker slot ((startPa walker slot).getD 0)

variable (out : SdtAllocatorSnapshot)

def withSlots (walker : TreeWalker) (out : SdtAllocatorSnapshot) (slots : List Nat) : SdtAllocatorSnapshot :=
  { out with entries := out.entries ++ slots.map (entryAt walker), allSlotAddrs := out.allSlotAddrs ++ slots }

theorem withSlots_nil {walker : TreeWalker} {out : SdtAllocatorSnapshot} : withSlots walker out [] = out := by
  simp [withSlots]

def Clean : Prop := out.skippedSubtrees = 0 ∧ out.truncated = false

def Fits (slots : List Nat) : Prop :=
  slots = [] ∨ out.entries.length + slots.length ≤ maxSdtAllocEntries

theorem fits_append {walker : TreeWalker} {out : SdtAllocatorSnapshot} {first second : List Nat} :
    Fits out (first ++ second) ↔ Fits out first ∧ Fits (withSlots walker out first) second := by
  unfold Fits withSlots
  cases first with
  | nil => simp
  | cons slot first =>
    cases second with
    | nil => simp
    | cons other second =>
      simp only [cons_append,length_append,length_cons,length_map,reduceCtorEq,false_or]
      omega

/-- What a part of the walk does: where a list of slots meets the condition it adds just those,
and where it leaves no trace of a failure some list does. -/
structure Emits (walker : TreeWalker) (part : SdtAllocatorSnapshot → SdtAllocatorSnapshot) (cond : List Nat → Prop) :
    Prop where
  adds : ∀ out slots, out.truncated = false → cond slots → Fits out slots → part out = withSlots walker out slots
  found : ∀ out, Clean (part out) → Clean out ∧ ∃ slots, cond slots ∧ Fits out slots

variable {walker : TreeWalker}

theorem Emits.congr {part : SdtAllocatorSnapshot → SdtAllocatorSnapshot} {cond other : List Nat → Prop}
    (emits : Emits walker part cond) (same : ∀ slots, cond slots ↔ other slots) : Emits walker part other := by
  have equal : cond = other := funext fun slots => propext (same slots)
  rwa [equal] at emits

theorem emits_nothing : Emits walker (fun out => out) (· = []) where
  adds := by
    rintro out _ - rfl -
    exact withSlots_nil.symm
  found := fun out clean => ⟨clean,[],rfl,Or.inl rfl⟩

theorem emits_skip : Emits walker skipSubtree fun _ => False where
  adds := fun _ _ _ impossible => impossible.elim
  found := by
    rintro out ⟨skipped,-⟩
    simp only [skipSubtree] at skipped
    omega

theorem Emits.comp {first second : SdtAllocatorSnapshot → SdtAllocatorSnapshot}
    {condFirst condSecond : List Nat → Prop} (one : Emits walker first condFirst) (two : Emits walker second condSecond) :
    Emits walker (fun out => second (first out)) fun slots =>
      ∃ before after, slots = before ++ after ∧ condFirst before ∧ condSecond after where
  adds := by
    rintro out _ whole ⟨before,after,rfl,condBefore,condAfter⟩ fits
    obtain ⟨fitsBefore,fitsAfter⟩ := fits_append.mp fits
    have step := one.adds out before whole condBefore fitsBefore
    rw [step,two.adds (withSlots walker out before) after whole condAfter fitsAfter]
    simp [withSlots]
  found := by
    intro out clean
    obtain ⟨cleanBefore,after,condAfter,fitsAfter⟩ := two.found _ clean
    obtain ⟨cleanOut,before,condBefore,fitsBefore⟩ := one.found _ cleanBefore
    rw [one.adds out before cleanOut.2 condBefore fitsBefore] at fitsAfter
    exact ⟨cleanOut,before ++ after,⟨before,after,rfl,condBefore,condAfter⟩,fits_append.mpr ⟨fitsBefore,fitsAfter⟩⟩

variable {T : Type}

theorem emits_foldl (items : List T) (round : SdtAllocatorSnapshot → T → SdtAllocatorSnapshot)
    (cond : T → List Nat → Prop) (each : ∀ item ∈ items, Emits walker (fun out => round out item) (cond item)) :
    Emits walker (fun out => items.foldl round out) fun slots =>
      ∃ parts, slots = parts.flatten ∧ List.Forall₂ cond items parts := by
  induction items with
  | nil =>
    refine emits_nothing.congr fun slots => ⟨fun empty => ⟨[],empty,.nil⟩,?_⟩
    rintro ⟨parts,rfl,related⟩
    cases related
    rfl
  | cons item items ih =>
    have head := each item mem_cons_self
    have tail := ih fun other inside => each other (mem_cons_of_mem item inside)
    refine (head.comp tail).congr fun slots => ⟨?_,?_⟩
    · rintro ⟨part,_,rfl,first,parts,rfl,rest⟩
      exact ⟨part::parts,rfl,.cons first rest⟩
    · rintro ⟨_,rfl,related⟩
      cases related with
      | cons first rest => exact ⟨_,_,rfl,first,_,rfl,rest⟩

theorem emits_emitLeaf (nonzero : ptr ≠ 0) :
    Emits walker (emitLeaf walker ptr) fun slots => slots = [ptr % arenaSpan] ∧ (startPa walker ptr).isSome where
  adds := by
    rintro out _ - ⟨rfl,translated⟩ fits
    obtain ⟨pa,start⟩ := Option.isSome_iff_exists.mp translated
    have room : ¬ out.entries.length ≥ maxSdtAllocEntries := by
      rcases fits with impossible | fits
      · cases impossible
      · rw [length_singleton] at fits
        omega
    have entry : entryAt walker (ptr % arenaSpan) = leafEntry walker ptr pa := by
      rw [entryAt,startPa_mod,start,leafEntry,leafEntry,and_mask,and_mask,Nat.mod_mod]
      rfl
    rw [emitLeaf,withSlots,and_mask]
    simp only [if_neg room,translate_eq nonzero,start,map_cons,map_nil,entry]
  found := by
    intro out clean
    rw [emitLeaf] at clean
    by_cases full : out.entries.length ≥ maxSdtAllocEntries
    · simp only [if_pos full] at clean
      cases clean.2
    · simp only [if_neg full,translate_eq nonzero] at clean
      cases start : startPa walker ptr with
      | none =>
        rw [start] at clean
        simp only [Clean,skipSubtree] at clean
        omega
      | some pa =>
        rw [start] at clean
        exact ⟨clean,_,⟨rfl,rfl⟩,Or.inr (by rw [length_singleton]; omega)⟩

def slotOf (entry : Nat → Nat) (pos : Nat) : List Nat := if entry pos = 0 then [] else [entry pos % arenaSpan]

theorem emits_visitSlot {chunkPa pos : Nat} (inside : pos < sdtTaskEntsPerChunk) :
    Emits walker (visitSlot walker chunkPa pos) fun slots =>
      slots = slotOf (entryPtr walker chunkPa) pos ∧ ∀ slot ∈ slots, (startPa walker slot).isSome := by
  by_cases empty : entryPtr walker chunkPa pos = 0
  · have idle : visitSlot walker chunkPa pos = fun out => out := funext fun out => by
      rw [visitSlot,if_neg (Nat.not_le.mpr inside),if_pos empty]
    rw [idle]
    refine emits_nothing.congr fun slots => ?_
    rw [slotOf,if_pos empty]
    refine ⟨?_,fun same => same.1⟩
    rintro rfl
    simp
  · have busy : visitSlot walker chunkPa pos = emitLeaf walker (entryPtr walker chunkPa pos) := funext fun out => by
      rw [visitSlot,if_neg (Nat.not_le.mpr inside),if_neg empty]
    rw [busy]
    refine (emits_emitLeaf empty).congr fun slots => ?_
    rw [slotOf,if_neg empty]
    refine and_congr_right fun same => ?_
    subst same
    simp [startPa_mod]

theorem leNat_lt (bytes : List UInt8) : leNat bytes < 256 ^ bytes.length := by
  induction bytes with
  | nil => simp [leNat]
  | cons byte bytes ih =>
    have small := byte.toNat_lt
    rw [leNat,length_cons]
    omega

theorem readScalar_length (mem : GuestMem) (width pa off : Nat) : (readScalar mem width pa off).length = width := by
  unfold readScalar
  dsimp only
  repeat' split
  all_goals simp [copyBytes]

theorem readScalar_lt (mem : GuestMem) (width pa off : Nat) : leNat (readScalar mem width pa off) < 256 ^ width := by
  have bound := leNat_lt (readScalar mem width pa off)
  rwa [readScalar_length] at bound

variable {bitmap : Nat → Nat}

theorem positions_eq (fits : ∀ i, bitmap i < 2 ^ 64) :
    ((List.range sdtTaskChunkBitmapU64s).map bitmap).zipIdx.flatMap
        (fun item => (setBits 64 item.1).map fun bit => item.2 * 64 + bit) =
      (List.range sdtTaskEntsPerChunk).filter fun pos => (bitmap (pos / 64)).testBit (pos % 64) := by
  have blocks : List.range sdtTaskEntsPerChunk =
      (List.range sdtTaskChunkBitmapU64s).flatMap fun word => (List.range 64).map fun bit => word * 64 + bit := by
    decide +kernel
  have indexed : ((List.range sdtTaskChunkBitmapU64s).map bitmap).zipIdx =
      (List.range sdtTaskChunkBitmapU64s).map fun i => (bitmap i,i) := rfl
  rw [blocks,indexed,flatMap_map,filter_flatMap]
  refine congrArg (List.flatMap · _) (funext fun word => ?_)
  rw [setBits_64 (fits word),filter_map]
  refine congrArg (List.map _) (filter_congr fun bit inside => ?_)
  have small := List.mem_range.mp inside
  have quotient : (word * 64 + bit) / 64 = word := by omega
  have remainder : (word * 64 + bit) % 64 = bit := by omega
  rw [Function.comp_apply,quotient,remainder]

theorem flatMap_slotOf (marked : Nat → Bool) (entry : Nat → Nat) (positions : List Nat) :
    (positions.filter marked).flatMap (slotOf entry) =
      (positions.filter fun pos => marked pos && entry pos != 0).map fun pos => entry pos % arenaSpan := by
  induction positions with
  | nil => rfl
  | cons pos rest ih =>
    by_cases set : marked pos
    · by_cases stored : entry pos = 0
      · rw [filter_cons_of_pos set,filter_cons_of_neg (by simp [stored]),flatMap_cons,ih,slotOf,
          if_pos stored,nil_append]
      · rw [filter_cons_of_pos set,filter_cons_of_pos (by simp [set,stored]),flatMap_cons,ih,
          slotOf,if_neg stored,map_cons,singleton_append]
    · rw [filter_cons_of_neg set,filter_cons_of_neg (by simp [set]),ih]

theorem forall₂_and_mem (cond : T → List Nat → Prop) (good : Nat → Prop) (items : List T) (parts : List (List Nat)) :
    List.Forall₂ (fun item part => cond item part ∧ ∀ slot ∈ part, good slot) items parts ↔
      List.Forall₂ cond items parts ∧ ∀ slot ∈ parts.flatten, good slot := by
  induction items generalizing parts with
  | nil =>
    refine ⟨fun related => ?_,fun related => ?_⟩
    · cases related
      simp
    · cases related.1
      exact .nil
  | cons item items ih =>
    cases parts with
    | nil => simp
    | cons part parts =>
      rw [forall₂_cons,forall₂_cons,ih,flatten_cons]
      simp only [mem_append,or_imp,forall_and]
      tauto

variable {U : Type}

theorem forall₂_map_iff {R : T → U → Prop} (f : T → U) (items : List T) :
    List.Forall₂ R items (items.map f) ↔ ∀ item ∈ items, R item (f item) := by
  rw [forall₂_map_right_iff,forall₂_same]

theorem forall₂_parts (items : List T) (part : T → List Nat) (cond : Nat → Prop) (slots : List Nat) :
    (∃ parts, slots = parts.flatten ∧
      List.Forall₂ (fun item found => found = part item ∧ ∀ slot ∈ found, cond slot) items parts) ↔
    slots = items.flatMap part ∧ ∀ slot ∈ slots, cond slot := by
  simp only [forall₂_and_mem,flatMap_def]
  refine ⟨?_,?_⟩
  · rintro ⟨parts,rfl,related,good⟩
    have same : items.map part = parts := by
      rw [← forall₂_eq_eq_eq,forall₂_map_left_iff]
      exact related.imp fun _ _ equal => equal.symm
    exact ⟨by rw [same],good⟩
  · rintro ⟨rfl,good⟩
    exact ⟨items.map part,rfl,(forall₂_map_iff part items).mpr fun _ _ => rfl,good⟩

theorem emits_scanBitmap (chunkPa : Nat) (bitmap : Nat → Nat) (fits : ∀ i, bitmap i < 2 ^ 64) :
    Emits walker (scanBitmap walker chunkPa ((range sdtTaskChunkBitmapU64s).map bitmap)) fun slots =>
      slots = ((range sdtTaskEntsPerChunk).filter (Live bitmap (entryPtr walker chunkPa))).map
        (fun pos => entryPtr walker chunkPa pos % arenaSpan) ∧ ∀ slot ∈ slots, (startPa walker slot).isSome := by
  have flat : scanBitmap walker chunkPa ((range sdtTaskChunkBitmapU64s).map bitmap) = fun out =>
      ((range sdtTaskEntsPerChunk).filter fun pos => (bitmap (pos / 64)).testBit (pos % 64)).foldl
        (fun out pos => visitSlot walker chunkPa pos out) out := by
    funext out
    rw [scanBitmap,← positions_eq fits,foldl_flatMap]
    simp only [foldl_map]
  rw [flat]
  refine (emits_foldl _ _ _ fun pos inside => emits_visitSlot ?_).congr fun slots => ?_
  · exact mem_range.mp (mem_of_mem_filter inside)
  · rw [forall₂_parts,flatMap_slotOf]
    rfl

theorem Emits.guarded {part : SdtAllocatorSnapshot → SdtAllocatorSnapshot} {cond : List Nat → Prop}
    (emits : Emits walker part cond) : Emits walker (fun out => if out.truncated then out else part out) cond where
  adds := by
    intro out slots whole holds fits
    rw [if_neg (by simp [whole])]
    exact emits.adds out slots whole holds fits
  found := by
    intro out clean
    by_cases truncated : out.truncated
    · rw [if_pos truncated] at clean
      exact absurd truncated (by simp [clean.2])
    · rw [if_neg truncated] at clean
      exact emits.found out clean

theorem behind_some {off word : Nat} (here : behindView walker ptr off 8 = some word) :
    ∃ pa, startPa walker ptr = some pa ∧ readU64 walker.kernel.mem pa off = word :=
  Option.map_eq_some_iff.mp here

variable {pa : Nat}

theorem behind_at (start : startPa walker ptr = some pa) (off : Nat) :
    behindView walker ptr off 8 = some (readU64 walker.kernel.mem pa off) := by
  rw [behindView,start]
  rfl

theorem readDesc_of_behind {chunk : Nat} {entry : Nat → Nat} (nonzero : ptr ≠ 0)
    (desc : Desc (behindView walker) walker.offsets ptr bitmap chunk)
    (entries : Chunk (behindView walker) walker.offsets chunk entry) :
    ∃ allocated chunkPa, readDesc walker ptr = some (allocated,chunkPa) ∧
      allocated = (range sdtTaskChunkBitmapU64s).map bitmap ∧
      ∀ pos < sdtTaskEntsPerChunk, entry pos = entryPtr walker chunkPa pos := by
  obtain ⟨descPa,start,pointer⟩ := behind_some desc.pointer
  have word (off : Nat) := behind_at start off
  obtain ⟨chunkPa,chunkStart,-⟩ := behind_some (entries 0 (by decide))
  refine ⟨_,chunkPa,?_,rfl,fun pos inside => ?_⟩
  · have small : ¬ readU64 walker.kernel.mem descPa walker.offsets.descNrFree > sdtTaskEntsPerChunk := by
      obtain ⟨free,bound,read⟩ := desc.free
      cases (word _).symm.trans read
      exact Nat.not_lt.mpr bound
    have allocated : ((range sdtTaskChunkBitmapU64s).map fun i =>
        readU64 walker.kernel.mem descPa (walker.offsets.descAllocated + i * 8)) =
          (range sdtTaskChunkBitmapU64s).map bitmap := by
      refine map_congr_left fun i inside => ?_
      exact Option.some.inj ((word _).symm.trans (desc.allocated i (mem_range.mp inside)))
    rw [readDesc,translate_eq nonzero,start]
    simp only [if_neg small,pointer,if_neg desc.present,translate_eq desc.present,chunkStart,allocated]
  · exact Option.some.inj ((entries pos inside).symm.trans (behind_at chunkStart _))

variable {chunkPa : Nat}

theorem behind_of_readDesc {allocated : List Nat} (nonzero : ptr ≠ 0)
    (read : readDesc walker ptr = some (allocated,chunkPa)) :
    ∃ bitmap chunk, allocated = (range sdtTaskChunkBitmapU64s).map bitmap ∧ (∀ i, bitmap i < 2 ^ 64) ∧
      Desc (behindView walker) walker.offsets ptr bitmap chunk ∧
      Chunk (behindView walker) walker.offsets chunk (entryPtr walker chunkPa) := by
  rw [readDesc,translate_eq nonzero] at read
  cases start : startPa walker ptr with
  | none =>
    rw [start] at read
    cases read
  | some descPa =>
    rw [start] at read
    simp only [Option.ite_none_left_eq_some] at read
    obtain ⟨small,present,read⟩ := read
    rw [translate_eq present] at read
    cases chunkStart : startPa walker (readU64 walker.kernel.mem descPa walker.offsets.descChunk) with
    | none =>
      rw [chunkStart] at read
      cases read
    | some found =>
      rw [chunkStart] at read
      cases read
      refine ⟨_,_,rfl,fun i => readScalar_lt _ 8 _ _,⟨fun i _ => behind_at start _,⟨_,Nat.not_lt.mp small,behind_at start _⟩,
        behind_at start _,present⟩,fun pos _ => behind_at chunkStart _⟩

theorem forall₂_mem {first second : T → U → Prop} {items : List T} {others : List U}
    (related : List.Forall₂ first items others)
    (same : ∀ item ∈ items, ∀ other, first item other → second item other) : List.Forall₂ second items others := by
  induction related with
  | nil => exact .nil
  | cons head tail ih =>
    exact .cons (same _ mem_cons_self _ head) (ih fun item inside => same item (mem_cons_of_mem _ inside))

theorem node_iff {content : (Nat → Nat) → (Nat → Nat) → Prop}
    (local_ : ∀ bits others entry other, (∀ i < sdtTaskChunkBitmapU64s, bits i = others i) →
      (∀ pos < sdtTaskEntsPerChunk, entry pos = other pos) → content bits entry → content others other)
    (nonzero : ptr ≠ 0) (read : readDesc walker ptr = some ((range sdtTaskChunkBitmapU64s).map bitmap,chunkPa)) :
    (∃ bits chunk entry, Desc (behindView walker) walker.offsets ptr bits chunk ∧
      Chunk (behindView walker) walker.offsets chunk entry ∧ content bits entry) ↔
        content bitmap (entryPtr walker chunkPa) := by
  have same (bits : Nat → Nat) (equal : (range sdtTaskChunkBitmapU64s).map bitmap =
      (range sdtTaskChunkBitmapU64s).map bits) : ∀ i < sdtTaskChunkBitmapU64s, bits i = bitmap i :=
    fun i inside => (map_inj_left.mp equal i (mem_range.mpr inside)).symm
  refine ⟨?_,fun holds => ?_⟩
  · rintro ⟨bits,chunk,entry,desc,entries,holds⟩
    obtain ⟨_,_,again,rfl,stored⟩ := readDesc_of_behind nonzero desc entries
    obtain ⟨equal,rfl⟩ := Prod.mk.inj (Option.some.inj (read.symm.trans again))
    exact local_ _ _ _ _ (same bits equal) stored holds
  · obtain ⟨bits,chunk,equal,-,desc,entries⟩ := behind_of_readDesc nonzero read
    refine ⟨bits,chunk,_,desc,entries,local_ _ _ _ _ (fun i inside => ?_) (fun _ _ => rfl) holds⟩
    exact (same bits equal i inside).symm

theorem subtree_leaf_iff (nonzero : ptr ≠ 0)
    (read : readDesc walker ptr = some ((range sdtTaskChunkBitmapU64s).map bitmap,chunkPa)) (slots : List Nat) :
    Subtree (behindView walker) walker.offsets 0 ptr slots ↔
      slots = ((range sdtTaskEntsPerChunk).filter (Live bitmap (entryPtr walker chunkPa))).map
        fun pos => entryPtr walker chunkPa pos % arenaSpan := by
  rw [Subtree]
  refine node_iff ?_ nonzero read
  intro bits others entry other sameBits sameEntries whole
  have live : (range sdtTaskEntsPerChunk).filter (Live bits entry) =
      (range sdtTaskEntsPerChunk).filter (Live others other) := by
    refine filter_congr fun pos inside => ?_
    have bound := mem_range.mp inside
    rw [Live,Live,sameBits (pos / 64) (Nat.div_lt_of_lt_mul bound),sameEntries pos bound]
  rw [whole,live]
  refine map_congr_left fun pos inside => ?_
  rw [sameEntries pos (mem_range.mp (mem_of_mem_filter inside))]

theorem subtree_inner_iff {below : Nat} (nonzero : ptr ≠ 0)
    (read : readDesc walker ptr = some ((range sdtTaskChunkBitmapU64s).map bitmap,chunkPa)) (slots : List Nat) :
    Subtree (behindView walker) walker.offsets (below + 1) ptr slots ↔
      ∃ parts : List (List Nat), slots = parts.flatten ∧ List.Forall₂
        (fun pos part => (entryPtr walker chunkPa pos = 0 ∧ part = []) ∨ (entryPtr walker chunkPa pos ≠ 0 ∧
          Subtree (behindView walker) walker.offsets below (entryPtr walker chunkPa pos) part))
        (range sdtTaskEntsPerChunk) parts := by
  refine node_iff ?_ nonzero read
  rintro bits others entry other - sameEntries ⟨parts,whole,related⟩
  refine ⟨parts,whole,forall₂_mem related fun pos inside part holds => ?_⟩
  rwa [← sameEntries pos (mem_range.mp inside)]

theorem subtree_readDesc {below : Nat} {slots : List Nat} (nonzero : ptr ≠ 0)
    (tree : Subtree (behindView walker) walker.offsets below ptr slots) : readDesc walker ptr ≠ none := by
  have found : ∃ bitmap chunk entry, Desc (behindView walker) walker.offsets ptr bitmap chunk ∧
      Chunk (behindView walker) walker.offsets chunk entry := by
    cases below
    all_goals
      obtain ⟨bitmap,chunk,entry,desc,entries,-⟩ := tree
      exact ⟨bitmap,chunk,entry,desc,entries⟩
  obtain ⟨bitmap,chunk,entry,desc,entries⟩ := found
  obtain ⟨_,_,read,-,-⟩ := readDesc_of_behind nonzero desc entries
  rw [read]
  exact Option.some_ne_none _

def Reached (walker : TreeWalker) (below ptr : Nat) (slots : List Nat) : Prop :=
  Subtree (behindView walker) walker.offsets below ptr slots ∧ ∀ slot ∈ slots, (startPa walker slot).isSome

theorem emits_unread (below ptr : Nat) (nonzero : ptr ≠ 0) (unread : readDesc walker ptr = none) :
    Emits walker (descend walker (below + 1) ptr) (Reached walker below ptr) := by
  have skipped : descend walker (below + 1) ptr = fun out => if out.truncated then out else skipSubtree out := by
    funext out
    rw [descend,unread]
  rw [skipped]
  refine emits_skip.guarded.congr fun slots => ⟨False.elim,fun reached => ?_⟩
  exact subtree_readDesc nonzero reached.1 unread

theorem emits_child {below : Nat}
    (ih : ∀ child, child ≠ 0 → Emits walker (descend walker (below + 1) child) (Reached walker below child)) :
    Emits walker (fun out => if ptr = 0 then out else descend walker (below + 1) ptr out) fun slots =>
      ((ptr = 0 ∧ slots = []) ∨ (ptr ≠ 0 ∧ Subtree (behindView walker) walker.offsets below ptr slots)) ∧
        ∀ slot ∈ slots, (startPa walker slot).isSome := by
  by_cases null : ptr = 0
  · simp only [if_pos null]
    refine emits_nothing.congr fun slots => ⟨?_,?_⟩
    · rintro rfl
      exact ⟨Or.inl ⟨null,rfl⟩,by simp⟩
    · rintro ⟨⟨-,empty⟩ | ⟨pointer,-⟩,-⟩
      · exact empty
      · exact absurd null pointer
  · simp only [if_neg null]
    refine (ih ptr null).congr fun slots => ?_
    simp [Reached,null]

theorem emits_descend (below ptr : Nat) (nonzero : ptr ≠ 0) :
    Emits walker (descend walker (below + 1) ptr) (Reached walker below ptr) := by
  induction below generalizing ptr with
  | zero =>
    cases read : readDesc walker ptr with
    | none => exact emits_unread 0 ptr nonzero read
    | some found =>
      obtain ⟨allocated,chunkPa⟩ := found
      have scanned : descend walker 1 ptr = fun out =>
          if out.truncated then out else scanBitmap walker chunkPa allocated out := by
        funext out
        rw [descend,read]
        rfl
      obtain ⟨bitmap,_,rfl,small,-,-⟩ := behind_of_readDesc nonzero read
      rw [scanned]
      refine (emits_scanBitmap chunkPa bitmap small).guarded.congr fun slots => ?_
      rw [Reached,subtree_leaf_iff nonzero read]
  | succ below ih =>
    cases read : readDesc walker ptr with
    | none => exact emits_unread (below + 1) ptr nonzero read
    | some found =>
      obtain ⟨allocated,chunkPa⟩ := found
      have followed : descend walker (below + 2) ptr = fun out => if out.truncated then out else
          (range sdtTaskEntsPerChunk).foldl (fun out pos => if entryPtr walker chunkPa pos = 0 then out
            else descend walker (below + 1) (entryPtr walker chunkPa pos) out) out := by
        funext out
        rw [descend,read]
        rfl
      obtain ⟨bitmap,_,rfl,-,-,-⟩ := behind_of_readDesc nonzero read
      rw [followed]
      refine (emits_foldl _ _ _ fun pos _ => emits_child ih).guarded.congr fun slots => ?_
      rw [Reached,subtree_inner_iff nonzero read]
      simp only [forall₂_and_mem]
      refine ⟨?_,?_⟩
      · rintro ⟨parts,rfl,related,good⟩
        exact ⟨⟨parts,rfl,related⟩,good⟩
      · rintro ⟨⟨parts,rfl,related⟩,good⟩
        exact ⟨parts,rfl,related,good⟩

theorem mapM_of_some (f : T → Option U) (g : T → U) {items : List T} (each : ∀ item ∈ items, f item = some (g item)) :
    items.mapM f = some (items.map g) := by
  rw [mapM_eq_some,map_map]
  exact map_congr_left each

theorem guestView_lt {off word : Nat} (seen : guestView walker ptr off 4 = some word) : word < 2 ^ 32 := by
  obtain ⟨bytes,mapped,rfl⟩ := Option.map_eq_some_iff.mp seen
  have bound := leNat_lt bytes
  have size := congrArg length (mapM_eq_some.mp mapped)
  rw [length_map,length_map] at size
  rwa [← size] at bound

theorem asI32_inj {first second : Nat} (one : first < 2 ^ 32) (two : second < 2 ^ 32)
    (same : asI32 first = asI32 second) : first = second := by
  have words := congrArg BitVec.toNat (BitVec.toInt_inj.mp same)
  rwa [BitVec.toNat_ofNat,BitVec.toNat_ofNat,Nat.mod_eq_of_lt one,Nat.mod_eq_of_lt two] at words

theorem word_true_iff {slot : Nat} {off : Nat} (start : startPa walker slot = some pa)
    (mapped : ∀ i < 4, ∃ byte, arenaByte walker slot (off + i) = some byte) :
    (∃ word, guestView walker slot off 4 = some word ∧ asI32 (readU32 walker.kernel.mem pa off) = asI32 word) ↔
      guestView walker slot off 4 = behindView walker slot off 4 := by
  have seen := mapM_of_some (fun i => arenaByte walker slot (off + i))
    (fun i => (arenaByte walker slot (off + i)).getD 0) fun i inside => by
      obtain ⟨byte,shown⟩ := mapped i (mem_range.mp inside)
      rw [shown,Option.getD_some]
  obtain ⟨visible,guest⟩ : ∃ word, guestView walker slot off 4 = some word := ⟨_,by rw [guestView,seen,Option.map_some]⟩
  have behind : behindView walker slot off 4 = some (readU32 walker.kernel.mem pa off) := by rw [behindView,start]; rfl
  rw [behind,guest]
  refine ⟨?_,fun same => ⟨_,rfl,by rw [Option.some.inj same]⟩⟩
  rintro ⟨word,same,equal⟩
  cases same
  exact congrArg some (asI32_inj (readScalar_lt _ 4 _ _) (guestView_lt guest) equal).symm

theorem renderPayload_inj {first second : List UInt8}
    (same : renderPayload walker first = renderPayload walker second) : first = second := by
  unfold renderPayload at same
  split at same <;> cases same <;> rfl

theorem renderPayload_ne {bytes : List UInt8} {reason : String} :
    renderPayload walker bytes ≠ .unsupported reason := by
  unfold renderPayload
  split <;> simp

theorem payload_true_iff {slot : Nat} (start : startPa walker slot = some pa) (nonempty : 0 < walker.payloadSize) :
    (∃ bytes : List UInt8, bytes.length = walker.payloadSize ∧
      (entryAt walker slot).payload = renderPayload walker bytes ∧
      ∀ i < walker.payloadSize, arenaByte walker slot (walker.offsets.dataHeaderSize + i) = bytes[i]?) ↔
    OneRegion walker.kernel.mem (wrappingAdd pa walker.offsets.dataHeaderSize) walker.payloadSize ∧
      ∀ i < walker.payloadSize, arenaByte walker slot (walker.offsets.dataHeaderSize + i) =
        physByte walker.kernel.mem (wrappingAdd pa walker.offsets.dataHeaderSize + i) := by
  have rendered : (entryAt walker slot).payload =
      if (readBytes walker.kernel.mem (wrappingAdd pa walker.offsets.dataHeaderSize) walker.payloadSize).isEmpty
      then .unsupported "payload read failed: end-of-DRAM or unmapped page"
      else renderPayload walker
        (readBytes walker.kernel.mem (wrappingAdd pa walker.offsets.dataHeaderSize) walker.payloadSize) := by
    rw [entryAt,start]
    rfl
  rw [rendered]
  generalize wrappingAdd pa walker.offsets.dataHeaderSize = from_
  refine ⟨?_,?_⟩
  · rintro ⟨bytes,length,same,seen⟩
    by_cases empty : (readBytes walker.kernel.mem from_ walker.payloadSize).isEmpty
    · rw [if_pos empty] at same
      exact absurd same.symm renderPayload_ne
    · rw [if_neg empty] at same
      have equal := renderPayload_inj same
      have region : OneRegion walker.kernel.mem from_ walker.payloadSize := by
        by_contra split
        exact readBytes_split split (equal ▸ length)
      refine ⟨region,fun i inside => ?_⟩
      rw [seen i inside,(readBytes_whole region).2 i inside,equal]
  · rintro ⟨region,agrees⟩
    obtain ⟨length,physical⟩ := readBytes_whole region
    have full : ¬ (readBytes walker.kernel.mem from_ walker.payloadSize).isEmpty := by
      rw [isEmpty_iff_length_eq_zero]
      omega
    refine ⟨_,length,if_neg full,fun i inside => ?_⟩
    rw [agrees i inside,physical i inside]

theorem entry_true_iff {slot : Nat} (start : startPa walker slot = some pa) (inside : slot < arenaSpan)
    (nonempty : 0 < walker.payloadSize) (mapped : ∀ i < 8, ∃ byte, arenaByte walker slot i = some byte) :
    EntryTrue walker slot (entryAt walker slot) ↔ SlotBehind walker slot pa := by
  have idx := word_true_iff start fun i small => mapped (0 + i) (by omega)
  have genn := word_true_iff start fun i small => mapped (4 + i) (by omega)
  have payload := payload_true_iff start nonempty
  have words : (entryAt walker slot).idx = asI32 (readU32 walker.kernel.mem pa 0) ∧
      (entryAt walker slot).genn = asI32 (readU32 walker.kernel.mem pa 4) ∧ (entryAt walker slot).userAddr = slot := by
    rw [entryAt,start]
    exact ⟨rfl,rfl,by rw [leafEntry,and_mask,Nat.mod_eq_of_lt inside]⟩
  refine ⟨fun shown => ?_,fun behind => ?_⟩
  · obtain ⟨region,agrees⟩ := payload.mp shown.payload
    exact ⟨start,idx.mp (words.1 ▸ shown.idx),genn.mp (words.2.1 ▸ shown.genn),region,agrees⟩
  · exact ⟨words.2.2,words.1 ▸ idx.mpr behind.idx,words.2.1 ▸ genn.mpr behind.genn,
      payload.mpr ⟨behind.region,behind.payload⟩⟩

theorem subtree_slots_lt {view : View} {offsets : SdtAllocOffsets} (below ptr : Nat) (slots : List Nat)
    (tree : Subtree view offsets below ptr slots) : ∀ slot ∈ slots, slot < arenaSpan := by
  have positive : 0 < arenaSpan := by decide
  induction below generalizing ptr slots with
  | zero =>
    obtain ⟨_,_,entry,-,-,whole⟩ := tree
    intro slot member
    obtain ⟨pos,-,rfl⟩ := mem_map.mp (whole ▸ member)
    exact Nat.mod_lt _ positive
  | succ below ih =>
    obtain ⟨_,_,entry,-,-,parts,rfl,related⟩ := tree
    intro slot member
    obtain ⟨part,listed,inside⟩ := mem_flatten.mp member
    obtain ⟨i,found⟩ := mem_iff_get.mp listed
    have child := (forall₂_iff_get.mp related).2 i.1 (by rw [related.length_eq]; exact i.2) i.2
    rw [found] at child
    rcases child with ⟨-,empty⟩ | ⟨-,subtree⟩
    · rw [empty] at inside
      cases inside
    · exact ih _ _ subtree slot inside

theorem slots_eq_of_entries {slots found : List Nat} (bounded : ∀ slot ∈ found, slot < arenaSpan)
    (shown : List.Forall₂ (EntryTrue walker) slots (found.map (entryAt walker))) : slots = found := by
  induction found generalizing slots with
  | nil =>
    cases shown
    rfl
  | cons slot found ih =>
    cases shown with
    | @cons first _ rest _ here there =>
      have addr : (entryAt walker slot).userAddr = slot := by
        rw [entryAt,leafEntry,and_mask,Nat.mod_eq_of_lt (bounded slot mem_cons_self)]
      rw [← here.addr,addr,ih (fun other inside => bounded other (mem_cons_of_mem slot inside)) there]

theorem walk_of_tree {bytes : List UInt8} {elemSize root : Nat} {slots : List Nat} (reason name : String)
    (tree : GuestTree walker bytes elemSize root slots) :
    ∃ snap : SdtAllocatorSnapshot, Clean snap ∧ snap.entries = [] ∧
      walkSdtAllocator walker.kernel walker.kernVmStart bytes walker.offsets walker.targetTypeId reason name =
        if root = 0 then snap else descend walker 3 root snap := by
  have ranged : ¬ (elemSize < minElemSize ∨ maxElemSize < elemSize) := by
    have := tree.ranged
    omega
  have header := tree.header
  have payload : elemSize - walker.offsets.dataHeaderSize = walker.payloadSize := by omega
  refine ⟨⟨name,[],false,0,elemSize,walker.targetTypeId,reason,[]⟩,⟨rfl,rfl⟩,rfl,?_⟩
  rw [walkSdtAllocator,tree.size,tree.rooted]
  simp only [if_neg ranged,if_neg (show ¬ elemSize < walker.offsets.dataHeaderSize by omega),payload]
  rfl

/-- The dump shows the guest's live slots, each once, in order and with the guest's bytes, if and
only if the same tree lies physically behind the starts of its objects. -/
theorem dump_true_iff (walker : TreeWalker) (bytes : List UInt8) (elemSize root : Nat) (slots : List Nat)
    (reason name : String) (tree : GuestTree walker bytes elemSize root slots) :
    DumpTrue walker slots
        (walkSdtAllocator walker.kernel walker.kernVmStart bytes walker.offsets walker.targetTypeId reason name) ↔
      TreeBehind walker root slots := by
  obtain ⟨snap,clean,empty,walked⟩ := walk_of_tree reason name tree
  have large : 8 ≤ elemSize := (by decide : 8 ≤ minElemSize).trans tree.ranged.1
  have visible (slot : Nat) (member : slot ∈ slots) (i : Nat) (small : i < 8) :=
    tree.mapped slot member i (small.trans_le large)
  rw [walked]
  rcases tree.shape with ⟨null,rfl⟩ | ⟨nonzero,shape⟩
  · rw [if_pos null]
    refine ⟨fun _ => ⟨fun nonzero => absurd null nonzero,by simp⟩,fun _ => ⟨clean.2,clean.1,?_⟩⟩
    rw [empty]
    exact .nil
  · have emits : Emits walker (descend walker 3 root) (Reached walker 2 root) := emits_descend 2 root nonzero
    have bounded := subtree_slots_lt 2 root slots shape
    rw [if_neg nonzero]
    refine ⟨fun shown => ?_,fun behind => ?_⟩
    · obtain ⟨-,found,reached,fits⟩ := emits.found snap ⟨shown.unskipped,shown.whole⟩
      have entries := shown.entries
      rw [emits.adds snap found clean.2 reached fits,withSlots,empty] at entries
      obtain rfl := slots_eq_of_entries (subtree_slots_lt 2 root found reached.1) entries
      refine ⟨fun _ => reached.1,fun slot member => ?_⟩
      obtain ⟨pa,start⟩ := Option.isSome_iff_exists.mp (reached.2 slot member)
      have here := (forall₂_map_iff (entryAt walker) slots).mp entries slot member
      exact ⟨pa,(entry_true_iff start (bounded slot member) tree.nonempty (visible slot member)).mp here⟩
    · have reached : Reached walker 2 root slots := by
        refine ⟨behind.shape nonzero,fun slot member => ?_⟩
        obtain ⟨pa,there⟩ := behind.slot slot member
        exact Option.isSome_iff_exists.mpr ⟨pa,there.start⟩
      have fits : Fits snap slots := Or.inr (by rw [empty]; simpa using tree.few)
      rw [emits.adds snap slots clean.2 reached fits]
      refine ⟨clean.2,clean.1,?_⟩
      rw [withSlots,empty,nil_append,forall₂_map_iff]
      intro slot member
      obtain ⟨pa,there⟩ := behind.slot slot member
      exact (entry_true_iff there.start (bounded slot member) tree.nonempty (visible slot member)).mpr there

def arenaBase : Nat := 0xffffc90000000000

-- Page tables at 0x1000 to 0x4fff: arena pages 1 to 5 lie at 0x11000 to 0x15fff, page 6 behind them or
-- elsewhere. A root at arena 0x1000 with its chunk at 0x2000, a descriptor at 0x1100 with its chunk at
-- 0x3000 and a leaf at 0x1200 with its chunk at 0x4000; bits 0 and 1 are set, slot 0 is at 0x5ff8, so that
-- its header ends page 5, and slot 1 is not stored yet.
def image (contiguous : Bool) : List (Nat × Nat) :=
  [(0x1c90,0x2001),(0x2000,0x3001),(0x3000,0x4001),(0x4008,0x11001),(0x4010,0x12001),(0x4018,0x13001),
    (0x4020,0x14001),(0x4028,0x15001),(0x4030,if contiguous then 0x16001 else 0x20001),(0x11048,0x100002000),
    (0x12000,0x100001100),(0x11148,0x100003000),(0x13000,0x100001200),(0x11200,3),(0x11248,0x100004000),
    (0x14000,0x100005ff8),(0x15ff8,0x300000007),(0x16000,0xaa),(0x20000,0x22)]

def imageWord (contiguous : Bool) (address : Nat) : Nat := ((image contiguous).lookup address).getD 0

def smallTree (contiguous : Bool) : TreeWalker where
  kernel := {
    arch := .x86, mem := .new (sparse (image contiguous)) 0x30000 (by decide), cr3Pa := 0x1000, l5 := false, tcrEl1 := 0 }
  kernVmStart := arenaBase
  offsets := {
    allocatorPool := 0, allocatorRoot := 32, poolElemSize := 8, descAllocated := 0, descNrFree := 64, descChunk := 72
    chunkUnion := 0, dataHeaderSize := 8 }
  targetTypeId := 0
  payloadSize := 8

def allocatorImage : List UInt8 :=
  List.replicate 8 0 ++ [16] ++ List.replicate 23 0 ++ [0,0x10,0,0,1,0,0,0]

variable (contiguous : Bool)

variable {contiguous}

theorem bytes_of_word {address : Nat} (aligned : address % 8 = 0) :
    leNat ((range 8).map fun i => sparse (image contiguous) (address + i)) = imageWord contiguous address :=
  leNat_sparse (by decide +revert) aligned

theorem resolve_image {address : Nat} (inside : address < 0x30000) :
    resolvePtr (smallTree contiguous).kernel.mem address =
      some (fun i => sparse (image contiguous) (address + i),0x30000 - address) := by
  simp [resolvePtr,smallTree,GuestMem.new,inside]

theorem translate_image {x : Nat} (low : 0x1000 ≤ x) (high : x < 0x6000) :
    arenaTranslate (smallTree contiguous) (arenaBase + x) = some (0x10000 + x) := by
  have pages : ∀ page < 6, 1 ≤ page →
      arenaTranslate (smallTree contiguous) (arenaBase + page * 4096) = some (0x10000 + page * 4096) := by
    decide +kernel +revert
  have start := pages (x / 4096) (by omega) (by omega)
  have same : (arenaBase + x / 4096 * 4096) % wordSpan / 4096 = (arenaBase + x) % wordSpan / 4096 := by
    unfold arenaBase wordSpan
    omega
  rw [arenaTranslate] at start ⊢
  rw [PageWalks.translateKva_onPage _ _ same,start,Option.map_some,PageWalks.onPage]
  unfold arenaBase wordSpan
  exact congrArg some (by omega)

theorem arenaByte_image {ptr i : Nat} (low : 0x1000 ≤ ptr % arenaSpan) (high : ptr % arenaSpan + i < 0x6000) :
    arenaByte (smallTree contiguous) ptr i = some (sparse (image contiguous) (0x10000 + (ptr % arenaSpan + i))) := by
  have address : (smallTree contiguous).kernVmStart + ptr % arenaSpan + i = arenaBase + (ptr % arenaSpan + i) :=
    Nat.add_assoc _ _ _
  have size : (smallTree contiguous).kernel.mem.size = 0x30000 := rfl
  rw [arenaByte,address,translate_image (by omega) high,Option.bind_some,physByte,size,if_pos (by omega),
    resolve_image (by omega)]
  rfl

theorem startPa_image {ptr : Nat} (low : 0x1000 ≤ ptr % arenaSpan) (high : ptr % arenaSpan < 0x6000) :
    startPa (smallTree contiguous) ptr = some (0x10000 + ptr % arenaSpan) := by
  have size : (smallTree contiguous).kernel.mem.size = 0x30000 := rfl
  rw [startPa,show (smallTree contiguous).kernVmStart = arenaBase from rfl,translate_image low high,
    Option.filter_some,size,if_pos (by simp; omega)]

variable (contiguous)

def ReadsImage (contiguous : Bool) (view : View) : Prop :=
  ∀ x off, 0x1000 ≤ x → (x + off) % 8 = 0 → x + off + 8 ≤ 0x5000 →
    view (arenaSpan + x) off 8 = some (imageWord contiguous (0x10000 + x + off))

theorem arena_ptr (x : Nat) (small : x < 0x6000) : (arenaSpan + x) % arenaSpan = x := by
  unfold arenaSpan
  omega

theorem guest_reads : ReadsImage contiguous (guestView (smallTree contiguous)) := by
  intro x off low aligned within
  have bytes : ((range 8).mapM fun i => arenaByte (smallTree contiguous) (arenaSpan + x) (off + i)) =
      some ((range 8).map fun i => sparse (image contiguous) (0x10000 + x + off + i)) := by
    refine mapM_of_some _ _ fun i below => ?_
    have small := mem_range.mp below
    have ptr := arena_ptr x (by omega)
    rw [arenaByte_image (by omega) (by omega),ptr,← Nat.add_assoc,← Nat.add_assoc]
  rw [guestView,bytes,Option.map_some,bytes_of_word (by omega)]

theorem behind_reads : ReadsImage contiguous (behindView (smallTree contiguous)) := by
  intro x off low aligned within
  have ptr := arena_ptr x (by omega)
  have span : wordSpan = 2 ^ 64 := rfl
  have size : (smallTree contiguous).kernel.mem.size = 0x30000 := rfl
  rw [behindView,startPa_image (by omega) (by omega),ptr,Option.map_some,readScalar,checkedAdd_of_fits (by omega)]
  dsimp only
  rw [checkedAdd_of_fits (by omega)]
  dsimp only
  rw [if_neg (by omega),resolve_image (by omega)]
  dsimp only
  rw [if_neg (by omega),copyBytes,bytes_of_word (by omega)]

def onlyFirst {T : Type} (first rest : T) (pos : Nat) : T := if pos = 0 then first else rest

def DescStored (contiguous : Bool) (low bits chunk : Nat) : Prop :=
  (∀ i < 8, imageWord contiguous (0x10000 + low + i * 8) = onlyFirst bits 0 i) ∧
    imageWord contiguous (0x10000 + low + 64) = 0 ∧ imageWord contiguous (0x10000 + low + 72) = chunk

theorem descs_stored : DescStored contiguous 0x1000 0 0x100002000 ∧
    DescStored contiguous 0x1100 0 0x100003000 ∧ DescStored contiguous 0x1200 3 0x100004000 := by
  unfold DescStored
  decide +kernel +revert

theorem image_heads : ∀ contiguous, ∀ word ∈ image contiguous,
    0x12000 ≤ word.1 → word.1 < 0x15000 → word.1 % 4096 = 0 := by
  decide

theorem chunk_stored (page first : Nat) (chunk : 2 ≤ page ∧ page ≤ 4)
    (stored : imageWord contiguous (0x10000 + page * 4096) = first) (pos : Nat) (inside : pos < 512) :
    imageWord contiguous (0x10000 + page * 4096 + pos * 8) = onlyFirst first 0 pos := by
  rw [onlyFirst]
  by_cases head : pos = 0
  · rw [if_pos head,head,Nat.zero_mul,Nat.add_zero,stored]
  · rw [if_neg head,imageWord,lookup_eq_none_iff.mpr,Option.getD_none]
    intro word listed
    rw [bne_iff_ne]
    intro same
    have start := image_heads contiguous word listed (by omega) (by omega)
    omega

variable (view : View)

variable {contiguous view}

theorem small_desc (reads : ReadsImage contiguous view) {low bits chunk : Nat}
    (placed : 0x1000 ≤ low ∧ low ≤ 0x1200 ∧ low % 8 = 0) (present : chunk ≠ 0)
    (stored : DescStored contiguous low bits chunk) :
    Desc view (smallTree contiguous).offsets (arenaSpan + low) (onlyFirst bits 0) chunk := by
  obtain ⟨bitmap,free,pointer⟩ := stored
  refine ⟨fun i inside => ?_,⟨0,Nat.zero_le _,?_⟩,?_,present⟩
  · have small : i < 8 := inside
    have word := reads low (0 + i * 8) placed.1 (by omega) (by omega)
    rwa [Nat.zero_add (i * 8),bitmap i small,← Nat.zero_add (i * 8)] at word
  · have word := reads low 64 placed.1 (by omega) (by omega)
    rwa [free] at word
  · have word := reads low 72 placed.1 (by omega) (by omega)
    rwa [pointer] at word

theorem small_chunk (reads : ReadsImage contiguous view) {page first : Nat} (placed : 1 ≤ page ∧ page ≤ 4)
    (stored : ∀ pos < 512, imageWord contiguous (0x10000 + page * 4096 + pos * 8) = onlyFirst first 0 pos) :
    Chunk view (smallTree contiguous).offsets (arenaSpan + page * 4096) (onlyFirst first 0) := by
  intro pos below
  have small : pos < 512 := below
  have word := reads (page * 4096) (0 + pos * 8) (by omega) (by omega) (by omega)
  rwa [Nat.zero_add,stored pos small,← Nat.zero_add (pos * 8)] at word

theorem small_inner {offsets : SdtAllocOffsets} {below ptr chunk child slot : Nat}
    (desc : Desc view offsets ptr (onlyFirst 0 0) chunk) (entries : Chunk view offsets chunk (onlyFirst child 0))
    (pointer : child ≠ 0) (subtree : Subtree view offsets below child [slot]) :
    Subtree view offsets (below + 1) ptr [slot] := by
  have whole : ((range sdtTaskEntsPerChunk).map (onlyFirst [slot] [])).flatten = [slot] := by
    rw [show sdtTaskEntsPerChunk = 511 + 1 from rfl,range_succ_eq_map]
    simp [onlyFirst]
  refine ⟨_,chunk,_,desc,entries,_,whole.symm,?_⟩
  rw [forall₂_map_iff]
  intro pos _
  by_cases first : pos = 0
  · subst first
    exact Or.inr ⟨pointer,subtree⟩
  · exact Or.inl ⟨if_neg first,if_neg first⟩

theorem small_subtree (reads : ReadsImage contiguous view) :
    Subtree view (smallTree contiguous).offsets 2 0x100001000 [0x5ff8] := by
  obtain ⟨rootDesc,middleDesc,leafDesc⟩ := descs_stored contiguous
  have rootChunk := chunk_stored contiguous 2 0x100001100 (by decide) rfl
  have middleChunk := chunk_stored contiguous 3 0x100001200 (by decide) rfl
  have leafChunk := chunk_stored contiguous 4 0x100005ff8 (by decide) rfl
  have leaf : Subtree view (smallTree contiguous).offsets 0 0x100001200 [0x5ff8] :=
    ⟨_,_,_,small_desc reads (by decide) (by decide) leafDesc,
      small_chunk reads (by decide) leafChunk,by decide +kernel⟩
  have middle := small_inner
      (small_desc reads (by decide) (by decide) middleDesc)
      (small_chunk reads (by decide) middleChunk) (by decide) leaf
  exact small_inner
    (small_desc reads (by decide) (by decide) rootDesc)
    (small_chunk reads (by decide) rootChunk) (by decide) middle

variable (contiguous)

theorem small_tree : GuestTree (smallTree contiguous) allocatorImage 16 0x100001000 [0x5ff8] where
  size := by decide +revert
  ranged := by decide
  header := rfl
  nonempty := Nat.succ_pos 7
  rooted := by decide +revert
  shape := Or.inr ⟨by decide,small_subtree (guest_reads contiguous)⟩
  few := by decide
  mapped := by
    have seen : ∀ i < 16, (arenaByte (smallTree contiguous) 0x5ff8 i).isSome := by decide +kernel +revert
    intro slot member i inside
    obtain rfl := mem_singleton.mp member
    exact Option.isSome_iff_exists.mp (seen i inside)

theorem small_walk :
    (walkSdtAllocator (smallTree contiguous).kernel arenaBase allocatorImage (smallTree contiguous).offsets 0 ""
      "").entries = [entryAt (smallTree contiguous) 0x5ff8] := by
  obtain ⟨snap,clean,empty,walked⟩ := walk_of_tree "" "" (small_tree contiguous)
  have start : (startPa (smallTree contiguous) 0x5ff8).isSome := by
    rw [startPa_image (by decide) (by decide)]
    rfl
  have reached : Reached (smallTree contiguous) 2 0x100001000 [0x5ff8] :=
    ⟨small_subtree (behind_reads contiguous),by simpa using start⟩
  have added := (emits_descend 2 0x100001000 (by decide)).adds snap [0x5ff8] clean.2 reached
    (Or.inr (by rw [empty]; decide))
  rw [if_neg (by decide),added] at walked
  have entries := congrArg SdtAllocatorSnapshot.entries walked
  rwa [withSlots,empty] at entries

/-- A slot whose header ends a page is shown with the bytes physically behind that page. -/
theorem split_slot_dumped_behind_page :
    GuestTree (smallTree false) allocatorImage 16 0x100001000 [0x5ff8] ∧
      (walkSdtAllocator (smallTree false).kernel arenaBase allocatorImage (smallTree false).offsets 0 "" "").entries =
        [⟨7,3,0x5ff8,.bytes [0xaa,0,0,0,0,0,0,0]⟩] ∧
      arenaByte (smallTree false) 0x5ff8 8 = some 0x22 ∧
      ¬ DumpTrue (smallTree false) [0x5ff8]
        (walkSdtAllocator (smallTree false).kernel arenaBase allocatorImage (smallTree false).offsets 0 "" "") := by
  have entries : (walkSdtAllocator (smallTree false).kernel arenaBase allocatorImage (smallTree false).offsets 0 ""
      "").entries = [⟨7,3,0x5ff8,.bytes [0xaa,0,0,0,0,0,0,0]⟩] := by
    rw [small_walk]
    decide +kernel
  have seen : arenaByte (smallTree false) 0x5ff8 8 = some 0x22 := by decide +kernel
  refine ⟨small_tree false,entries,seen,fun shown => ?_⟩
  have only := shown.entries
  rw [entries] at only
  cases only with
  | cons entry _ =>
    obtain ⟨bytes,-,same,bytesSeen⟩ := entry.payload
    have dumped : renderPayload (smallTree false) [0xaa,0,0,0,0,0,0,0] = renderPayload (smallTree false) bytes := same
    have first := bytesSeen 0 (by decide)
    rw [← renderPayload_inj dumped] at first
    exact absurd (seen.symm.trans first) (by decide)

/-- Over contiguous pages the dump shows the slot as the guest sees it. -/
theorem contiguous_slot_dumped :
    DumpTrue (smallTree true) [0x5ff8]
      (walkSdtAllocator (smallTree true).kernel arenaBase allocatorImage (smallTree true).offsets 0 "" "") := by
  refine (dump_true_iff (smallTree true) allocatorImage 16 0x100001000 [0x5ff8] "" "" (small_tree true)).mpr
    ⟨fun _ => small_subtree (behind_reads true),fun slot member => ?_⟩
  obtain rfl := mem_singleton.mp member
  refine ⟨0x15ff8,by decide +kernel,by decide +kernel,by decide +kernel,?_,by decide +kernel⟩
  exact Or.inr ⟨by decide,_,_,resolve_image (by decide),by decide⟩

end Ktstr.SdtDump
