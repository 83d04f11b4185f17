import Ktstr.PhysicalReads

/-! The hash-map and per-CPU readers translate an object's first byte and then read on
physically. What they return is what the guest sees exactly as long as the memory behind
that translation repeats the guest's view of the object. -/
namespace Ktstr.MapBytes
open List Library.Bytes Library.Words Source.Reader Source.BpfMaps Source.Htab Semantics.GuestView PhysicalReads

theorem readWhole_split {mem : GuestMem} {pa len : Nat} (split : ¬ OneRegion mem pa len) :
    readWhole mem pa len = none := by
  exact if_pos (readBytes_split split)

variable (ctx : AccessorCtx)

theorem WordAt.read {ctx : AccessorCtx} {base off width word pa : Nat} (here : WordAt ctx base off width word)
    (translated : ctx.translate base = some pa) : leNat (readScalar ctx.mem width pa off) = word := by
  obtain ⟨found,same,read⟩ := here.behind
  cases translated.symm.trans same
  exact read

section
variable {T : Type} (translate : Nat → Option Nat) (readWord : Nat → Nat → Nat) (htab : HtabOffsets)
  (extract : Nat → Option T)

def Linked : Nat → List Nat → Prop
  | word,[] => word = 0 ∨ word &&& 1 ≠ 0
  | word,elem::rest => word = elem ∧ elem ≠ 0 ∧ elem &&& 1 = 0 ∧
    ∃ pa, translate elem = some pa ∧ Linked (readWord pa htab.hlistNullsNodeNext) rest

theorem walkChain_linked (elems : List Nat) (word remaining : Nat) (out : List T)
    (chain : Linked translate readWord htab word elems) (room : elems.length ≤ remaining) :
    walkChain translate readWord htab extract remaining word out =
      .next (out ++ elems.filterMap fun elem => (translate elem).bind extract) (remaining - elems.length) := by
  induction elems generalizing word remaining out with
  | nil =>
    rw [walkChain.eq_def,if_pos chain.symm]
    simp
  | cons elem rest ih =>
    obtain ⟨rfl,nonzero,even,pa,translated,onward⟩ := chain
    obtain ⟨left,rfl⟩ : ∃ left, remaining = left + 1 := ⟨remaining - 1,by rw [length_cons] at room; omega⟩
    rw [walkChain.eq_def,if_neg (by simp [even,nonzero])]
    simp only [translated]
    rw [ih _ left _ onward (by simpa using room),filterMap_cons,translated]
    cases taken : extract pa with
    | none => simp [taken]
    | some item => simp [taken]

theorem walkBuckets_linked (bucketsKva : Nat) (chains : List (List Nat)) (start remaining : Nat) (out : List T)
    (chained : ∀ i chain, chains[i]? = some chain → ∃ pa,
      translate (wrappingAdd bucketsKva ((start + i) * htab.bucketSize)) = some pa ∧
        Linked translate readWord htab (readWord pa (htab.bucketHead + htab.hlistNullsHeadFirst)) chain)
    (room : chains.flatten.length ≤ remaining) :
    walkBuckets translate readWord htab extract bucketsKva (List.range' start chains.length) remaining out =
      out ++ chains.flatten.filterMap fun elem => (translate elem).bind extract := by
  induction chains generalizing start remaining out with
  | nil => simp [walkBuckets]
  | cons chain rest ih =>
    obtain ⟨pa,translated,links⟩ := chained 0 chain rfl
    rw [Nat.add_zero] at translated
    rw [flatten_cons,length_append] at room
    rw [length_cons,range'_succ,walkBuckets,translated]
    simp only [walkChain_linked translate readWord htab extract chain _ remaining out links (by omega)]
    rw [ih (start + 1) (remaining - chain.length) _ (fun i other found => ?_) (by omega),
      flatten_cons,filterMap_append,append_assoc]
    have shifted := chained (i + 1) other found
    rwa [show start + (i + 1) = start + 1 + i by omega] at shifted

end

theorem chain_linked (htab : HtabOffsets) (elems : List Nat) (word : Nat)
    (chain : Chain ctx htab word elems) : Linked ctx.translate (readU64 ctx.mem) htab word elems := by
  induction elems generalizing word with
  | nil => exact chain
  | cons elem rest ih =>
    obtain ⟨same,nonzero,even,next,link,onward⟩ := chain
    obtain ⟨pa,translated,read⟩ := link.behind
    refine ⟨same,nonzero,even,pa,translated,ih _ ?_⟩
    rw [readU64,read]
    exact onward

def returnedFor {T : Type} (ctx : AccessorCtx) (map : BpfMapInfo) (htab : HtabOffsets)
    (extract : Nat → Nat → Nat → Nat → Nat → GuestMem → Option T) (elem : Nat) : Option T :=
  if map.keySize > maxValueSize ∨ map.valueSize > maxValueSize then none
  else (ctx.translate elem).bind fun elemPa =>
    extract elemPa htab.htabElemSizeBase (valueOffInElem htab map.keySize) map.keySize map.valueSize ctx.mem

variable (map : BpfMapInfo) (len : Nat) (htab : HtabOffsets)

variable {ctx}

variable {map}

theorem walkHtab_header {pa count base : Nat} {T : Type}
    {extract : Nat → Nat → Nat → Nat → Nat → GuestMem → Option T} (layout : ctx.offsets.htabOffsets = some htab)
    (translated : ctx.translate map.mapKva = some pa) (counted : readU32 ctx.mem pa htab.htabNBuckets = count)
    (based : readU64 ctx.mem pa htab.htabBuckets = base) : walkHtab ctx map extract =
      if count = 0 ∨ count > htabBucketsMax ∨ base = 0 then []
      else if map.keySize > maxValueSize ∨ map.valueSize > maxValueSize then []
      else
        walkBuckets ctx.translate (readU64 ctx.mem) htab
          (fun elemPa => extract elemPa htab.htabElemSizeBase (valueOffInElem htab map.keySize) map.keySize
            map.valueSize ctx.mem)
          base (List.range count) htabIterMax [] := by
  have header : walkHtab ctx map extract = walkHtabAt ctx map htab extract pa := by
    unfold walkHtab
    rw [layout,translated]
  rw [header,walkHtabAt,counted,based]

theorem walkHtab_table {T : Type} {buckets : List (List Nat)} (table : Table ctx map htab buckets)
    {extract : Nat → Nat → Nat → Nat → Nat → GuestMem → Option T} :
    walkHtab ctx map extract = buckets.flatten.filterMap (returnedFor ctx map htab extract) := by
  obtain ⟨bucketsKva,nonzero,pointer,chained⟩ := table.chained
  obtain ⟨pa,translated,-⟩ := pointer.behind
  rw [walkHtab_header htab table.layout translated
    (WordAt.read table.count translated) (WordAt.read pointer translated)]
  by_cases empty : buckets.length = 0
  · rw [if_pos (Or.inl empty),length_eq_zero_iff.mp empty]
    rfl
  · have cap : ¬ buckets.length > htabBucketsMax := Nat.not_lt.mpr table.bounded
    rw [if_neg (by simp [empty,cap,nonzero])]
    by_cases large : map.keySize > maxValueSize ∨ map.valueSize > maxValueSize
    · have nothing : returnedFor ctx map htab extract = fun _ => none := funext fun elem => if_pos large
      rw [if_pos large,nothing]
      simp
    · have each : returnedFor ctx map htab extract = fun elem => (ctx.translate elem).bind fun elemPa =>
          extract elemPa htab.htabElemSizeBase (valueOffInElem htab map.keySize) map.keySize map.valueSize ctx.mem :=
        funext fun elem => if_neg large
      rw [if_neg large,each,range_eq_range']
      refine walkBuckets_linked ctx.translate (readU64 ctx.mem) htab _ bucketsKva buckets 0 htabIterMax []
        (fun i chain found => ?_) table.few
      obtain ⟨first,links,head⟩ := chained i chain found
      obtain ⟨bucketPa,bucketAt,read⟩ := head.behind
      rw [Nat.zero_add]
      refine ⟨bucketPa,bucketAt,?_⟩
      rw [readU64,read]
      exact chain_linked ctx htab chain first links

theorem sizesFit_iff : SizesFit map ↔ ¬ (map.keySize > maxValueSize ∨ map.valueSize > maxValueSize) := by
  unfold SizesFit
  omega

theorem read_shows_iff {pa : Nat} (kva : Nat) {len : Nat} (whole : OneRegion ctx.mem pa len) :
    ∃ bytes, readWhole ctx.mem pa len = some bytes ∧
      (bytes.length = len ∧ Shows ctx kva bytes ↔ Agrees ctx pa kva len) := by
  obtain ⟨length,physical⟩ := readBytes_whole whole
  refine ⟨readBytes ctx.mem pa len,by simp [readWhole,length],?_⟩
  rw [length,eq_self,true_and,Shows,length]
  refine forall₂_congr fun i inside => ?_
  rw [physical i inside]

variable (ctx)

variable (map)

theorem entry_true_iff (elem pa : Nat) (translated : ctx.translate elem = some pa) :
    EntryTrue ctx map htab elem (returnedFor ctx map htab extractEntry elem) ↔ EntryBehind ctx map htab elem := by
  simp only [EntryBehind,translated,Option.some.injEq,forall_eq']
  by_cases fits : SizesFit map
  · rw [returnedFor,if_neg (sizesFit_iff.mp fits),translated,Option.bind_some,extractEntry]
    by_cases wholeKey : OneRegion ctx.mem (wrappingAdd pa htab.htabElemSizeBase) map.keySize
    · obtain ⟨key,readKey,keyShown⟩ := read_shows_iff (elem + htab.htabElemSizeBase) wholeKey
      rw [readKey]
      by_cases wholeValue : OneRegion ctx.mem (wrappingAdd pa (valueOffInElem htab map.keySize)) map.valueSize
      · obtain ⟨value,readValue,valueShown⟩ :=
          read_shows_iff (elem + valueOffInElem htab map.keySize) wholeValue
        simp only [readValue,EntryTrue,keyShown,valueShown,fits,wholeKey,wholeValue,true_and,not_true_eq_false,
          false_and,or_false]
      · simp only [readWhole_split wholeValue,EntryTrue,wholeValue,false_and,and_false,not_false_eq_true,
          true_and,false_or]
    · simp only [readWhole_split wholeKey,EntryTrue,wholeKey,false_and,and_false,not_false_eq_true,
        true_and,false_or]
  · simp only [returnedFor,if_pos (sizesFit_iff.not_left.mp fits),EntryTrue,fits,false_and,not_false_eq_true,true_and,false_or]

variable (physical : Nat)

theorem readPercpuValue_reached {cpu off pa : Nat} (owned : ¬ (off = 0 ∧ cpu > 0))
    (reached : Reached ctx len physical off pa) :
    readPercpuValue ctx len physical cpu off = readWhole ctx.mem pa len := by
  obtain ⟨-,translated,within,-⟩ := reached
  have fits : pa + len < wordSpan := within.trans_lt ctx.mem.fits
  rw [readPercpuValue,if_neg owned,translated]
  simp only [checkedAdd,if_pos fits,if_pos within]

theorem readPercpuValue_missed (cpu off : Nat) (pointer : physical ≠ 0)
    (missed : ¬ ∃ pa, Reached ctx len physical off pa) : readPercpuValue ctx len physical cpu off = none := by
  rw [readPercpuValue]
  split
  next => rfl
  next =>
    cases translated : ctx.translate (wrappingAdd physical off) with
    | none => rfl
    | some pa =>
      by_cases fits : pa + len < wordSpan
      · simp only [checkedAdd,if_pos fits]
        by_cases within : pa + len ≤ ctx.mem.size
        · rw [if_pos within]
          exact readWhole_split fun whole => missed ⟨pa,pointer,translated,within,whole⟩
        · rw [if_neg within]
      · simp only [checkedAdd,if_neg fits]

variable (visible : Nat)

theorem value_true_iff (cpu off : Nat) :
    ValueTrue ctx len visible cpu off (if physical = 0 then none else readPercpuValue ctx len physical cpu off) ↔
      ValueBehind ctx len physical visible cpu off := by
  unfold ValueTrue ValueBehind
  by_cases owned : off = 0 ∧ cpu > 0
  · rw [if_pos (Or.inr owned),if_pos owned,readPercpuValue,if_pos owned]
    simp
  · rw [if_neg owned]
    by_cases reach : ∃ pa, Reached ctx len physical off pa
    · obtain ⟨pa,reached⟩ := id reach
      obtain ⟨bytes,read,shown⟩ := read_shows_iff (visible + off) reached.2.2.2
      rw [if_neg reached.1,readPercpuValue_reached ctx len physical owned reached,read]
      by_cases null : visible = 0
      · simp [null,reach]
      · simp only [null,owned,reach,not_true_eq_false,false_and,or_false,shown]
        refine ⟨fun agrees => ⟨pa,reached,agrees⟩,?_⟩
        rintro ⟨other,again,agrees⟩
        cases reached.2.1.symm.trans again.2.1
        exact agrees
    · have nothing : (if physical = 0 then none else readPercpuValue ctx len physical cpu off) = none := by
        split
        next => rfl
        next pointer => exact readPercpuValue_missed ctx len physical cpu off pointer reach
      have never : ¬ ∃ pa, Reached ctx len physical off pa ∧ Agrees ctx pa (visible + off) len :=
        fun ⟨pa,reached,_⟩ => reach ⟨pa,reached⟩
      rw [nothing]
      by_cases null : visible = 0
      · simp [null,reach]
      · simp [owned,reach,never]

variable (offsets : List Nat)

theorem values_true_iff :
    ValuesTrue ctx len visible offsets (if physical = 0 then [] else readPercpuValues ctx len physical offsets) ↔
      ValuesBehind ctx len physical visible offsets := by
  refine forall₂_congr fun cpu off => forall_congr' fun listed => ?_
  rw [← value_true_iff]
  by_cases null : physical = 0
  · simp [null]
  · simp [null,readPercpuValues,listed]

theorem percpu_entry_true_iff {elem pa : Nat} (translated : ctx.translate elem = some pa) :
    PercpuEntryTrue ctx map htab offsets elem
        (returnedFor ctx map htab (extractPercpuEntry ctx map.valueSize offsets) elem) ↔
      PercpuEntryBehind ctx map htab offsets elem := by
  simp only [PercpuEntryBehind,translated,Option.some.injEq,forall_eq']
  by_cases fits : SizesFit map
  · rw [returnedFor,if_neg (sizesFit_iff.mp fits),translated,Option.bind_some,extractPercpuEntry]
    by_cases wholeKey : OneRegion ctx.mem (wrappingAdd pa htab.htabElemSizeBase) map.keySize
    · obtain ⟨key,readKey,keyShown⟩ := read_shows_iff (elem + htab.htabElemSizeBase) wholeKey
      have entry (physical : Nat) :
          (if physical = 0 then some (key,[]) else some (key,readPercpuValues ctx map.valueSize physical offsets)) =
            some (key,if physical = 0 then [] else readPercpuValues ctx map.valueSize physical offsets) := by
        split <;> rfl
      simp only [readKey,entry,PercpuEntryTrue,values_true_iff,keyShown,fits,wholeKey,true_and,not_true_eq_false,
        false_and,or_false]
    · simp only [readWhole_split wholeKey,PercpuEntryTrue,wholeKey,false_and,and_false,not_false_eq_true,
        true_and,false_or]
  · simp only [returnedFor,if_pos (sizesFit_iff.not_left.mp fits),PercpuEntryTrue,fits,false_and,not_false_eq_true,true_and,false_or]

theorem array_values_true_iff {key visible : Nat} {offsets : List Nat}
    (array : map.mapType = bpfMapTypePercpuArray) (inside : key < map.maxEntries) :
    ValuesTrue ctx map.valueSize visible offsets (readPercpuArrayValue ctx map key offsets) ↔
      ValuesBehind ctx map.valueSize (pointerBehind ctx map key) visible offsets := by
  rw [← values_true_iff,readPercpuArrayValue,if_neg (by simpa using array),if_neg (Nat.not_le.mpr inside),
    pointerBehind]
  cases ctx.translate (pptrKva ctx map key) with
  | none => simp
  | some pa => simp

theorem chain_translates (elems : List Nat) (word elem : Nat) (chain : Chain ctx htab word elems)
    (member : elem ∈ elems) : ∃ pa, ctx.translate elem = some pa := by
  induction elems generalizing word with
  | nil => cases member
  | cons first rest ih =>
    obtain ⟨-,-,-,next,link,onward⟩ := chain
    rcases mem_cons.mp member with rfl | later
    · obtain ⟨pa,translated,-⟩ := link.behind
      exact ⟨pa,translated⟩
    · exact ih next onward later

theorem table_translates {ctx : AccessorCtx} {map : BpfMapInfo} {htab : HtabOffsets} {buckets : List (List Nat)}
    (table : Table ctx map htab buckets) {elem : Nat} (member : elem ∈ buckets.flatten) :
    ∃ pa, ctx.translate elem = some pa := by
  obtain ⟨chain,listed,inside⟩ := mem_flatten.mp member
  obtain ⟨i,found⟩ := mem_iff_getElem?.mp listed
  obtain ⟨_,_,_,chained⟩ := table.chained
  obtain ⟨first,links,_⟩ := chained i chain found
  exact chain_translates ctx htab chain first elem links inside

/-- What each reader returns, element by element and CPU by CPU, and exactly when that is
what the guest sees. -/
theorem map_bytes_true_iff (ctx : AccessorCtx) (map : BpfMapInfo) :
    (∀ htab buckets, Table ctx map htab buckets → (map.mapType = bpfMapTypeHash ∨ map.mapType = bpfMapTypeLruHash →
        iterHtabEntries ctx map = buckets.flatten.filterMap (returnedFor ctx map htab extractEntry) ∧
        ((∀ elem ∈ buckets.flatten, EntryTrue ctx map htab elem (returnedFor ctx map htab extractEntry elem)) ↔
          ∀ elem ∈ buckets.flatten, EntryBehind ctx map htab elem)) ∧
      ∀ offsets, map.mapType = bpfMapTypePercpuHash ∨ map.mapType = bpfMapTypeLruPercpuHash →
        iterPercpuHtabEntries ctx map offsets =
          buckets.flatten.filterMap (returnedFor ctx map htab (extractPercpuEntry ctx map.valueSize offsets)) ∧
        ((∀ elem ∈ buckets.flatten, PercpuEntryTrue ctx map htab offsets elem
            (returnedFor ctx map htab (extractPercpuEntry ctx map.valueSize offsets) elem)) ↔
          ∀ elem ∈ buckets.flatten, PercpuEntryBehind ctx map htab offsets elem)) ∧
    ∀ key offsets visible, map.mapType = bpfMapTypePercpuArray → key < map.maxEntries →
      ShowsWord ctx (pptrKva ctx map key) 8 visible →
      (ValuesTrue ctx map.valueSize visible offsets (readPercpuArrayValue ctx map key offsets) ↔
        ValuesBehind ctx map.valueSize (pointerBehind ctx map key) visible offsets) := by
  refine ⟨fun htab buckets table => ⟨fun hash => ⟨?_,?_⟩,fun offsets hash => ⟨?_,?_⟩⟩,
    fun key offsets visible array inside _ => array_values_true_iff ctx map array inside⟩
  · rw [iterHtabEntries,if_neg (by rcases hash with same | same <;> simp [same])]
    exact walkHtab_table htab table
  · refine forall₂_congr fun elem member => ?_
    obtain ⟨pa,translated⟩ := table_translates table member
    exact entry_true_iff ctx map htab elem pa translated
  · rw [iterPercpuHtabEntries,if_neg (by rcases hash with same | same <;> simp [same])]
    exact walkHtab_table htab table
  · refine forall₂_congr fun elem member => ?_
    obtain ⟨pa,translated⟩ := table_translates table member
    exact percpu_entry_true_iff ctx map htab offsets translated

def directBase : Nat := 0xffff888000000000

def vmallocBase : Nat := 0xffffc90000000000

def tableLayout : HtabOffsets := ⟨0x108,0x100,16,0,0,0,0x30⟩

-- Page tables at 0x1000 to 0x4fff map two pages of vmalloc space: the first to 0x5000, the
-- second to 0x6000 behind it or to 0x8000. The map's header is at 0x400, its only bucket at
-- 0x600; its only element has its link and key in the first page and half its value in each.
def twoPages (contiguous : Bool) : AccessorCtx where
  arch := .x86
  mem := .new (sparse [(0x500,1),(0x508,directBase + 0x600),(0x600,vmallocBase + 0xfc0),(0x1c90,0x2001),
    (0x2000,0x3001),(0x3000,0x4001),(0x4000,0x5001),(0x4008,if contiguous then 0x6001 else 0x8001),(0x5fc0,1),
    (0x5ff0,7),(0x5ff8,0x11),(0x6000,0xaa),(0x8000,0x22)]) 0x10000 (by decide)
  cr3Pa := 0x1000
  pageOffset := directBase
  offsets := {
    mapName := 0x60, mapType := 0x18, mapFlags := 0x1c, keySize := 0x20, valueSize := 0x24, maxEntries := 0x28
    arrayValue := 0x108, xaNodeSlots := 0x10, xaNodeShift := 0, idrXaHead := 0, idrNext := 8, mapBtf := 0x30
    mapBtfValueTypeId := 0x38, mapBtfVmlinuxValueTypeId := 0x3c, mapBtfKeyTypeId := 0x40
    htabOffsets := some tableLayout, structOpsOffsets := none }
  l5 := false
  tcrEl1 := 0
  startKernelMap := 0xffffffff80000000
  physBase := 0

def mapOfType (mapType : Nat) : BpfMapInfo where
  mapPa := 0x400
  mapKva := directBase + 0x400
  nameBytes := []
  nameLen := 0
  mapType
  mapFlags := 0
  keySize := 8
  valueSize := 16
  maxEntries := 1
  valueKva := none
  btfKva := 0
  btfValueTypeId := 0
  btfVmlinuxValueTypeId := 0
  btfKeyTypeId := 0

def wordBytes (word width : Nat) : List UInt8 :=
  (List.range width).map fun i => UInt8.ofNat (word / 256 ^ i)

theorem twoPages_words {contiguous : Bool} :
    WordAt (twoPages contiguous) (directBase + 0x400) 0x100 4 1 ∧
      WordAt (twoPages contiguous) (directBase + 0x400) 0x108 8 (directBase + 0x600) ∧
      WordAt (twoPages contiguous) (wrappingAdd (directBase + 0x600) (0 * 16)) 0 8 (vmallocBase + 0xfc0) ∧
      WordAt (twoPages contiguous) (vmallocBase + 0xfc0) 0 8 1 := by
  refine ⟨⟨⟨wordBytes 1 4,rfl,?_,by decide⟩,0x400,?_,?_⟩,⟨⟨wordBytes (directBase + 0x600) 8,rfl,?_,by decide⟩,0x400,?_,?_⟩,
    ⟨⟨wordBytes (vmallocBase + 0xfc0) 8,rfl,?_,by decide⟩,0x600,?_,?_⟩,⟨⟨wordBytes 1 8,rfl,?_,by decide⟩,0x5fc0,?_,?_⟩⟩
  all_goals first | decide +kernel +revert | (unfold Shows; decide +kernel +revert)

theorem twoPages_table {contiguous : Bool} {mapType : Nat} :
    Table (twoPages contiguous) (mapOfType mapType) tableLayout [[vmallocBase + 0xfc0]] where
  layout := rfl
  count := twoPages_words.1
  bounded := by decide
  chained := by
    obtain ⟨-,pointer,head,link⟩ := twoPages_words
    refine ⟨directBase + 0x600,by decide,pointer,fun i chain found => ?_⟩
    obtain ⟨rfl,rfl⟩ : i = 0 ∧ chain = [vmallocBase + 0xfc0] := by
      cases i with
      | zero => exact ⟨rfl,by simpa using found.symm⟩
      | succ i => simp at found
    exact ⟨vmallocBase + 0xfc0,⟨rfl,by decide,by decide,1,link,Or.inr (by decide)⟩,head⟩
  few := by decide
  distinct := by decide

/-- A value that goes on in a page mapped elsewhere: the reader returns the bytes physically
behind the first page in its place. -/
theorem split_value_read_behind_page :
    Table (twoPages false) (mapOfType bpfMapTypeHash) tableLayout [[vmallocBase + 0xfc0]] ∧
      iterHtabEntries (twoPages false) (mapOfType bpfMapTypeHash) =
        [(wordBytes 7 8,wordBytes 0x11 8 ++ wordBytes 0xaa 8)] ∧
      Shows (twoPages false) (vmallocBase + 0xfc0 + 0x38) (wordBytes 0x11 8 ++ wordBytes 0x22 8) ∧
      ¬ EntryTrue (twoPages false) (mapOfType bpfMapTypeHash) tableLayout (vmallocBase + 0xfc0)
        (returnedFor (twoPages false) (mapOfType bpfMapTypeHash) tableLayout extractEntry (vmallocBase + 0xfc0)) := by
  refine ⟨twoPages_table,by decide +kernel,by unfold Shows; decide +kernel,?_⟩
  rintro ⟨-,-,shown⟩
  have eighth := shown 8 (by decide)
  exact absurd eighth (by decide +kernel)

theorem oneRegion_inside {contiguous : Bool} {pa len : Nat} (within : pa + len ≤ 0x10000) :
    OneRegion (twoPages contiguous).mem pa len := by
  by_cases empty : len = 0
  · exact Or.inl empty
  · have inside : pa - 0 < 0x10000 := by omega
    exact Or.inr ⟨within,_,0x10000 - (pa - 0),if_pos inside,by omega⟩

theorem contiguous_behind :
    EntryBehind (twoPages true) (mapOfType bpfMapTypeHash) tableLayout (vmallocBase + 0xfc0) ∧
      PercpuEntryBehind (twoPages true) (mapOfType bpfMapTypePercpuHash) tableLayout [directBase + 0x6ef]
        (vmallocBase + 0xfc0) ∧
      ValuesBehind (twoPages true) 16 (pointerBehind (twoPages true) (mapOfType bpfMapTypePercpuArray) 0)
        (directBase + 0x600) [0] := by
  have start : (twoPages true).translate (vmallocBase + 0xfc0) = some 0x5fc0 := by decide +kernel
  have alone (cpu off only : Nat) (listed : [only][cpu]? = some off) : cpu = 0 ∧ off = only := by
    cases cpu with
    | zero => exact ⟨rfl,by simpa using listed.symm⟩
    | succ cpu => simp at listed
  refine ⟨fun pa translated => ?_,fun pa translated => ?_,fun cpu off listed => ?_⟩
  · cases start.symm.trans translated
    refine Or.inl ⟨⟨by decide,by decide⟩,oneRegion_inside (by decide),oneRegion_inside (by decide),?_,?_⟩
    all_goals unfold Agrees; decide +kernel
  · cases start.symm.trans translated
    refine Or.inl ⟨⟨by decide,by decide⟩,oneRegion_inside (by decide),?_,0x11,⟨wordBytes 0x11 8,rfl,?_,by decide⟩,
      fun cpu off listed => ?_⟩
    · unfold Agrees; decide +kernel
    · unfold Shows; decide +kernel
    · obtain ⟨rfl,rfl⟩ := alone cpu off _ listed
      refine Or.inl ⟨0x700,⟨by decide +kernel,by decide +kernel,by decide,oneRegion_inside (by decide)⟩,?_⟩
      unfold Agrees; decide +kernel
  · obtain ⟨rfl,rfl⟩ := alone cpu off _ listed
    refine Or.inl ⟨0x600,⟨by decide +kernel,by decide +kernel,by decide,oneRegion_inside (by decide)⟩,?_⟩
    unfold Agrees; decide +kernel

/-- Over contiguous pages all three readers return what the guest sees. -/
theorem contiguous_pages_read_true :
    (∀ elem ∈ [[vmallocBase + 0xfc0]].flatten, EntryTrue (twoPages true) (mapOfType bpfMapTypeHash) tableLayout elem
      (returnedFor (twoPages true) (mapOfType bpfMapTypeHash) tableLayout extractEntry elem)) ∧
    (∀ elem ∈ [[vmallocBase + 0xfc0]].flatten,
      PercpuEntryTrue (twoPages true) (mapOfType bpfMapTypePercpuHash) tableLayout [directBase + 0x6ef] elem
        (returnedFor (twoPages true) (mapOfType bpfMapTypePercpuHash) tableLayout
          (extractPercpuEntry (twoPages true) (mapOfType bpfMapTypePercpuHash).valueSize [directBase + 0x6ef]) elem)) ∧
    ValuesTrue (twoPages true) (mapOfType bpfMapTypePercpuArray).valueSize (directBase + 0x600) [0]
      (readPercpuArrayValue (twoPages true) (mapOfType bpfMapTypePercpuArray) 0 [0]) := by
  have hash := (map_bytes_true_iff (twoPages true) (mapOfType bpfMapTypeHash)).1 tableLayout
    [[vmallocBase + 0xfc0]] twoPages_table
  have percpu := (map_bytes_true_iff (twoPages true) (mapOfType bpfMapTypePercpuHash)).1 tableLayout
    [[vmallocBase + 0xfc0]] twoPages_table
  have array := (map_bytes_true_iff (twoPages true) (mapOfType bpfMapTypePercpuArray)).2 0 [0] (directBase + 0x600)
    rfl (by decide) ⟨wordBytes (directBase + 0x600) 8,rfl,by unfold Shows; decide +kernel,by decide⟩
  have only (elem : Nat) (member : elem ∈ [[vmallocBase + 0xfc0]].flatten) : elem = vmallocBase + 0xfc0 := by
    simpa using member
  obtain ⟨-,entries⟩ := hash.1 (Or.inl rfl)
  obtain ⟨-,percpuEntries⟩ := percpu.2 [directBase + 0x6ef] (Or.inl rfl)
  obtain ⟨entry,percpuEntry,values⟩ := contiguous_behind
  rw [entries,percpuEntries,array]
  refine ⟨fun elem member => ?_,fun elem member => ?_,values⟩
  · rw [only elem member]
    exact entry
  · rw [only elem member]
    exact percpuEntry

end Ktstr.MapBytes
