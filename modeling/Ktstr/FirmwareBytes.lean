import Ktstr.Semantics.Firmware

/-! Each firmware table as bytes: sizes, checksums, and what its entries are read back as. -/
namespace Ktstr.FirmwareBytes
open Library.Incremental Library.Records Library.Scatter Source.VmTopology Source.GuestLayout Source.FirmwareTables
  Nat List
open List Semantics.Firmware

theorem foldl_byteSum (bytes : List UInt8) (start : UInt8) : bytes.foldl (· + ·) start = start + byteSum bytes := by
  induction bytes generalizing start with
  | nil => simp [byteSum]
  | cons byte bytes ih =>
    rw [byteSum,foldl_cons,foldl_cons,ih,ih (0 + byte),UInt8.zero_add,UInt8.add_assoc]

theorem byteSum_append (first second : List UInt8) : byteSum (first ++ second) = byteSum first + byteSum second := by
  rw [byteSum,foldl_append,foldl_byteSum,← byteSum]

theorem byteSum_cons (byte : UInt8) (bytes : List UInt8) : byteSum (byte::bytes) = byte + byteSum bytes := by
  rw [byteSum,foldl_cons,foldl_byteSum,UInt8.zero_add]

theorem add_acpiChecksum (data : List UInt8) : byteSum data + acpiChecksum data = 0 := by
  rw [acpiChecksum,← UInt8.neg_eq_not_add,UInt8.add_neg_eq_sub]
  simp

structure Sealed (signature : String) (body table : List UInt8) : Prop where
  size : table.length = 36 + body.length
  field : readField table 4 4 = table.length
  name : table.take 4 = ascii signature
  sum : byteSum table = 0
  body : table.drop 36 = body

theorem setSdtChecksum_eq (front back : List UInt8) (nine : front.length = 9) :
    setSdtChecksum (front ++ 0::back) = front ++ acpiChecksum (front ++ 0::back)::back := by
  have set (byte : UInt8) (old : UInt8) : (front ++ old::back).set 9 byte = front ++ byte::back := by
    rw [set_append_right 9 byte (le_of_eq nine),nine]
    rfl
  rw [setSdtChecksum,set 0 0,set]

theorem byteSum_sealed (front back : List UInt8) :
    byteSum (front ++ acpiChecksum (front ++ 0::back)::back) = 0 := by
  have total := add_acpiChecksum (front ++ 0::back)
  rw [byteSum_append,byteSum_cons,UInt8.zero_add] at total
  rw [byteSum_append,byteSum_cons,UInt8.add_comm (acpiChecksum _),← UInt8.add_assoc]
  exact total

def headerFront (signature : String) (length revision : Nat) : List UInt8 :=
  ascii signature ++ record [(4,length),(1,revision)]

def headerBack (signature : String) : List UInt8 :=
  ascii "KTSTR\x00" ++ ascii "KTSR" ++ ascii signature ++ record [(4,1)] ++ ascii "KTSR" ++ record [(4,1)]

variable (signature : String)

theorem sdtHeader_eq (length revision : Nat) :
    sdtHeader signature length revision = headerFront signature length revision ++ 0::headerBack signature := by
  simp [sdtHeader,headerFront,headerBack,record,leBytes]

variable {signature}

theorem length_headerBack (four : (ascii signature).length = 4) : (headerBack signature).length = 26 := by
  have oem : (ascii "KTSTR\x00").length = 6 := by decide
  have creator : (ascii "KTSR").length = 4 := by decide
  simp [headerBack,four,oem,creator,widths]

theorem sdtHeader_length (length revision : Nat) (four : (ascii signature).length = 4) :
    (sdtHeader signature length revision).length = 36 := by
  simp [sdtHeader_eq,headerFront,length_headerBack four,four,widths]

variable (signature)

theorem sdt_length {length revision : Nat} {body table : List UInt8} (four : (ascii signature).length = 4)
    (is : sdt signature length revision body = some table) : 36 + body.length ≤ length ∧ table.length = length := by
  obtain ⟨buf,filled,rfl⟩ := Option.map_eq_some_iff.mp is
  rw [fill,Option.ite_none_right_eq_some] at filled
  obtain ⟨⟨_,fits⟩,made⟩ := filled
  cases made
  rw [length_append,sdtHeader_length _ _ four] at fits
  simp [setSdtChecksum,sdtHeader_length _ _ four]
  omega

theorem sdt_sealed (length revision : Nat) (body : List UInt8) (four : (ascii signature).length = 4)
    (fits : 36 + body.length ≤ length) (small : length < u32Span) :
    ∃ table, sdt signature length revision body = some table ∧
      Sealed signature (body ++ replicate (length - (36 + body.length)) 0) table := by
  have whole : wrapU32 length = length := mod_eq_of_lt small
  have parts : (sdtHeader signature length revision ++ body).length = 36 + body.length := by
    rw [length_append,sdtHeader_length length revision four]
  generalize tail : body ++ replicate (length - (36 + body.length)) 0 = padded
  have room : 36 + padded.length = length := by
    rw [← tail,length_append,length_replicate]
    omega
  have filled : fill length (sdtHeader signature (wrapU32 length) revision ++ body) =
      some (headerFront signature length revision ++ 0::(headerBack signature ++ padded)) := by
    rw [u32Span] at small
    rw [fill,whole,parts,if_pos ⟨by omega,fits⟩,sdtHeader_eq,← tail]
    simp
  have nine : (headerFront signature length revision).length = 9 := by simp [headerFront,four,widths]
  have back := length_headerBack four
  refine ⟨_,by rw [sdt,filled]; rfl,?_⟩
  rw [setSdtChecksum_eq _ _ nine]
  have sum := byteSum_sealed (headerFront signature length revision) (headerBack signature ++ padded)
  generalize acpiChecksum (headerFront signature length revision ++ 0::(headerBack signature ++ padded)) = checksum at sum ⊢
  have size : (headerFront signature length revision ++ checksum::(headerBack signature ++ padded)).length = length := by
    rw [length_append,length_cons,length_append]
    omega
  refine ⟨size.trans room.symm,?_,?_,sum,?_⟩
  · have found := readField_record (ascii signature) [] 4 length [(1,revision)]
      (checksum::(headerBack signature ++ padded))
    rw [four] at found
    rw [size]
    exact found.trans (mod_eq_of_lt small)
  · rw [headerFront,append_assoc,take_left' four]
  · rw [← cons_append,← append_assoc]
    exact drop_left' (by simp [nine,back])

def SizedEntry (entry : List UInt8) : Prop := 2 ≤ entry.length ∧ readField (entry.take 2) 1 1 = entry.length

theorem sizedEntry_record {kind size : Nat} (fields : List (Nat × Nat)) (exact : 1 + (1 + widths fields) = size)
    (byte : size < 256) : SizedEntry (record ((1,kind)::(1,size)::fields)) := by
  have length : (record ((1,kind)::(1,size)::fields)).length = size := length_record.trans exact
  refine ⟨by omega,?_⟩
  rw [length]
  exact readField_at ((1,kind)::(1,size)::fields) 1 1 size rfl byte

theorem entriesFrom_eq {offset : Nat} {table : List UInt8} {entries : List (List UInt8)}
    (is : table.drop offset = entries.flatten) (sized : ∀ entry ∈ entries, SizedEntry entry) :
    entriesFrom offset table = (entries,[]) := by
  rw [entriesFrom,is]
  exact decode_records _ sized

/-! MADT -/

variable (topo : Topology)

variable {topo}

theorem madtCpu_low {cpuId : Nat} (low : apicId topo cpuId < 255) :
    madtCpu topo cpuId = madtLocalApic (apicId topo cpuId) cpuId := if_neg (by simpa [useX2apicEntry] using low)

theorem madtCpu_high {cpuId : Nat} (high : ¬ apicId topo cpuId < 255) :
    madtCpu topo cpuId = madtX2Apic (apicId topo cpuId) cpuId := if_pos (by simpa [useX2apicEntry] using high)

theorem length_madtCpu (cpuId : Nat) : (madtCpu topo cpuId).length = if apicId topo cpuId < 255 then 8 else 16 := by
  split
  · next low => rw [madtCpu_low low,madtLocalApic]; rfl
  · next high => rw [madtCpu_high high,madtX2Apic]; rfl

theorem sized_madtCpu {cpuId : Nat} : SizedEntry (madtCpu topo cpuId) := by
  by_cases low : apicId topo cpuId < 255
  · rw [madtCpu_low low]
    exact sizedEntry_record [(1,cpuId),(1,apicId topo cpuId),(4,1)] rfl (by decide)
  · rw [madtCpu_high low]
    exact sizedEntry_record [(2,0),(4,apicId topo cpuId),(4,1),(4,cpuId)] rfl (by decide)

theorem cpuEntry_madtLocalApic {id cpuId : Nat} (low : id < 256) (below : cpuId < 256) :
    cpuEntry (madtLocalApic id cpuId) = some (cpuId,id) := by
  let fields := [(1,0),(1,8),(1,cpuId),(1,id),(4,1)]
  have kind : readField (madtLocalApic id cpuId) 0 1 = 0 := readField_at fields 0 1 0 rfl (by decide)
  have uid : readField (madtLocalApic id cpuId) 2 1 = cpuId := readField_at fields 2 1 cpuId rfl below
  have apic : readField (madtLocalApic id cpuId) 3 1 = id := readField_at fields 3 1 id rfl low
  have flags : readField (madtLocalApic id cpuId) 4 4 = 1 := readField_at fields 4 4 1 rfl (by decide)
  simp [cpuEntry,kind,uid,apic,flags,enabled]

theorem cpuEntry_madtX2Apic {id cpuId : Nat} (narrow : id < u32Span) (below : cpuId < u32Span) :
    cpuEntry (madtX2Apic id cpuId) = some (cpuId,id) := by
  let fields := [(1,9),(1,16),(2,0),(4,id),(4,1),(4,cpuId)]
  have kind : readField (madtX2Apic id cpuId) 0 1 = 9 := readField_at fields 0 1 9 rfl (by decide)
  have apic : readField (madtX2Apic id cpuId) 4 4 = id := readField_at fields 3 4 id rfl narrow
  have flags : readField (madtX2Apic id cpuId) 8 4 = 1 := readField_at fields 4 4 1 rfl (by decide)
  have uid : readField (madtX2Apic id cpuId) 12 4 = cpuId := readField_at fields 5 4 cpuId rfl below
  simp [cpuEntry,kind,uid,apic,flags,enabled]

variable (topo)

theorem sized_madtEntries : ∀ entry ∈ madtEntries topo, SizedEntry entry := by
  intro entry member
  simp only [madtEntries,mem_append,mem_map,mem_cons,not_mem_nil,or_false] at member
  rcases member with ((⟨cpuId,_,rfl⟩ | rfl | rfl) | nmi) | nmi
  · exact sized_madtCpu
  · exact sizedEntry_record [(1,0),(1,0),(4,ioapicAddr),(4,0)] rfl (by decide)
  · exact sizedEntry_record [(1,0),(1,0),(4,2),(2,0)] rfl (by decide)
  · split at nmi
    · rw [mem_singleton.mp nmi]
      exact sizedEntry_record [(1,0xFF),(2,0),(1,1)] rfl (by decide)
    · exact absurd nmi not_mem_nil
  · split at nmi
    · rw [mem_singleton.mp nmi]
      exact sizedEntry_record [(2,0),(4,0xFFFFFFFF),(1,1),(3,0)] rfl (by decide)
    · exact absurd nmi not_mem_nil

section Counted

variable (topo : Topology) (counted : topo.totalCpus = topo.llcs * topo.coresPerLlc * topo.threadsPerCore)
include counted

variable {topo}

theorem range_eq_vcpus : range topo.totalCpus = vcpus topo := by rw [counted,vcpus]

theorem hasLapic_iff : hasLapic topo ↔ ∃ cpuId ∈ vcpus topo, apicId topo cpuId < 255 := by
  simp [hasLapic,range_eq_vcpus counted,useX2apicEntry]

theorem hasX2apic_iff : hasX2apic topo ↔ ∃ cpuId ∈ vcpus topo, 255 ≤ apicId topo cpuId := by
  simp [hasX2apic,range_eq_vcpus counted,useX2apicEntry]

variable (topo)

theorem computeMadtSize_eq : computeMadtSize topo = wrapU32 (madtBytes topo) := by
  have cpus : (fun cpuId => if useX2apicEntry (apicId topo cpuId) then 16 else 8) =
      fun cpuId => if apicId topo cpuId < 255 then 8 else 16 := by
    funext cpuId
    by_cases low : apicId topo cpuId < 255 <;> simp [useX2apicEntry,low]
  simp only [computeMadtSize,madtBytes,range_eq_vcpus counted,hasLapic_iff counted,hasX2apic_iff counted,cpus]
  congr 1
  omega

theorem length_madt :
    36 + (record [(4,lapicAddr),(4,1)] ++ (madtEntries topo).flatten).length = madtBytes topo := by
  have cpus : length ∘ madtCpu topo = fun cpuId => if apicId topo cpuId < 255 then 8 else 16 :=
    funext length_madtCpu
  have fixed : madtIoApic.length + (madtIso.length + 0) = 22 := rfl
  have lapic : (if hasLapic topo then [madtLapicNmi] else []).flatten.length = if hasLapic topo then 6 else 0 := by
    split <;> rfl
  have x2apic : (if hasX2apic topo then [madtX2ApicNmi] else []).flatten.length = if hasX2apic topo then 12 else 0 := by
    split <;> rfl
  have head : (record [(4,lapicAddr),(4,1)]).length = 8 := rfl
  simp only [madtEntries,flatten_append,length_append,lapic,x2apic]
  simp only [madtBytes,length_flatten,map_map,cpus,map_cons,map_nil,sum_cons,sum_nil,fixed,
    hasLapic_iff counted,hasX2apic_iff counted,range_eq_vcpus counted]
  omega

theorem madt_cpus {table : List UInt8}
    (made : Sealed "APIC" (record [(4,lapicAddr),(4,1)] ++ (madtEntries topo).flatten) table)
    (narrow : ∀ cpuId ∈ vcpus topo, apicId topo cpuId < u32Span ∧ cpuId ≤ apicId topo cpuId) :
    (entriesFrom 44 table).1.filterMap cpuEntry = (vcpus topo).map fun cpuId => (cpuId,apicId topo cpuId) := by
  have behind : table.drop 44 = (madtEntries topo).flatten := by
    rw [show 44 = 36 + 8 from rfl,← drop_drop,made.body]
    exact drop_left' rfl
  have cpus : ((vcpus topo).map (madtCpu topo)).filterMap cpuEntry =
      (vcpus topo).map fun cpuId => (cpuId,apicId topo cpuId) := by
    rw [filterMap_map,← filterMap_eq_map]
    refine filterMap_congr fun cpuId member => ?_
    obtain ⟨narrow,below⟩ := narrow cpuId member
    by_cases low : apicId topo cpuId < 255
    · exact (congrArg cpuEntry (madtCpu_low low)).trans (cpuEntry_madtLocalApic (by omega) (by omega))
    · exact (congrArg cpuEntry (madtCpu_high low)).trans (cpuEntry_madtX2Apic narrow (below.trans_lt narrow))
  have fixed : [madtIoApic,madtIso].filterMap cpuEntry = [] := by decide
  have lapic : (if hasLapic topo then [madtLapicNmi] else []).filterMap cpuEntry = [] := by split <;> decide
  have x2apic : (if hasX2apic topo then [madtX2ApicNmi] else []).filterMap cpuEntry = [] := by split <;> decide
  rw [entriesFrom_eq behind (sized_madtEntries topo),madtEntries,
    range_eq_vcpus counted]
  simp only [filterMap_append,cpus,fixed,lapic,x2apic,append_nil]

end Counted

/-! SRAT -/

variable (regions : List NodeRegion) (table : List UInt8)

theorem sized_sratEntries : ∀ entry ∈ sratEntries topo regions, SizedEntry entry := by
  intro entry member
  rcases mem_append.mp member with cpu | mem
  · obtain ⟨cpuId,_,rfl⟩ := mem_map.mp cpu
    exact sizedEntry_record [(2,0),(4,_),(4,_),(4,1),(4,0),(4,0)] rfl (by decide)
  · obtain ⟨region,_,rfl⟩ := mem_map.mp mem
    exact sizedEntry_record [(4,_),(2,0),(8,_),(8,_),(4,0),(4,1),(8,0)] rfl (by decide)

theorem length_srat (counted : topo.totalCpus = topo.llcs * topo.coresPerLlc * topo.threadsPerCore) :
    36 + (record [(4,1),(8,0)] ++ (sratEntries topo regions).flatten).length = sratBytes topo regions := by
  have cpus : length ∘ sratCpuAffinity topo = fun _ => 24 := funext fun cpuId => length_record
  have mems : length ∘ sratMemAffinity = fun _ => 40 := funext fun region => length_record
  have head : (record [(4,1),(8,0)]).length = 12 := rfl
  rw [length_append,head,sratEntries,flatten_append,length_append,length_flatten,
    length_flatten,map_map,map_map,cpus,mems,map_const',map_const',sum_replicate_nat,
    sum_replicate_nat,length_range,counted,sratBytes]
  omega

theorem cpuAffinity_cpu {cpuId : Nat} (narrow : apicId topo cpuId < u32Span)
    (small : topo.numaNodeOf (topo.decompose cpuId).1 < u32Span) :
    cpuAffinity (sratCpuAffinity topo cpuId) = some (apicId topo cpuId,topo.numaNodeOf (topo.decompose cpuId).1) := by
  change cpuAffinity (record [(1,2),(1,24),(2,0),(4,topo.numaNodeOf (topo.decompose cpuId).1),(4,apicId topo cpuId),
    (4,1),(4,0),(4,0)]) = _
  generalize apicId topo cpuId = id at *
  generalize topo.numaNodeOf (topo.decompose cpuId).1 = node at *
  let fields := [(1,2),(1,24),(2,0),(4,node),(4,id),(4,1),(4,0),(4,0)]
  have kind : readField (record fields) 0 1 = 2 := readField_at fields 0 1 2 rfl (by decide)
  have domain : readField (record fields) 4 4 = node := readField_at fields 3 4 node rfl small
  have apic : readField (record fields) 8 4 = id := readField_at fields 4 4 id rfl narrow
  have flags : readField (record fields) 12 4 = 1 := readField_at fields 5 4 1 rfl (by decide)
  simp only [fields] at kind domain apic flags
  simp [cpuAffinity,kind,domain,apic,flags,enabled]

theorem memoryAffinity_cpu (cpuId : Nat) : memoryAffinity (sratCpuAffinity topo cpuId) = none := by
  have kind : readField (sratCpuAffinity topo cpuId) 0 1 = 2 := rfl
  simp [memoryAffinity,kind]

theorem cpuAffinity_memory (region : NodeRegion) : cpuAffinity (sratMemAffinity region) = none := by
  have kind : readField (sratMemAffinity region) 0 1 = 1 := rfl
  simp [cpuAffinity,kind]

theorem entries_srat (made : Sealed "SRAT" (record [(4,1),(8,0)] ++ (sratEntries topo regions).flatten) table) :
    entriesFrom 48 table = (sratEntries topo regions,[]) := by
  refine entriesFrom_eq ?_ (sized_sratEntries topo regions)
  rw [show 48 = 36 + 12 from rfl,← drop_drop,made.body]
  exact drop_left' rfl

theorem filterMap_total {α β γ : Type} (items : List α) (entry : α → β) (parse : β → Option γ) (value : α → γ)
    (parses : ∀ item ∈ items, parse (entry item) = some (value item)) :
    (items.map entry).filterMap parse = items.map value := by
  rw [filterMap_map,← filterMap_eq_map]
  exact filterMap_congr parses

theorem filterMap_absent {α β γ : Type} {items : List α} {entry : α → β} {parse : β → Option γ}
    (absent : ∀ item, parse (entry item) = none) : (items.map entry).filterMap parse = [] := by
  rw [filterMap_eq_nil_iff]
  intro bytes member
  obtain ⟨item,_,rfl⟩ := mem_map.mp member
  exact absent item

variable {table}

theorem srat_affinities (counted : topo.totalCpus = topo.llcs * topo.coresPerLlc * topo.threadsPerCore)
    (made : Sealed "SRAT" (record [(4,1),(8,0)] ++ (sratEntries topo regions).flatten) table)
    (perLlc : topo.coresPerLlc * topo.threadsPerCore < u32Span)
    (narrow : ∀ cpuId ∈ vcpus topo, apicId topo cpuId < u32Span ∧ nodeOf topo cpuId < u32Span) :
    (entriesFrom 48 table).1.filterMap cpuAffinity =
      (vcpus topo).map fun cpuId => (apicId topo cpuId,nodeOf topo cpuId) := by
  have node (cpuId : Nat) : topo.numaNodeOf (topo.decompose cpuId).1 = nodeOf topo cpuId := by
    rw [nodeOf,Topology.decompose,mul_comm topo.threadsPerCore,wrapU32,mod_eq_of_lt perLlc]
  rw [entries_srat topo regions table made,sratEntries,filterMap_append,
    filterMap_absent cpuAffinity_memory,append_nil,counted,← vcpus]
  apply filterMap_total
  intro cpuId member
  obtain ⟨apic,domain⟩ := narrow cpuId member
  rw [cpuAffinity_cpu topo apic (by rwa [node]),node]

theorem srat_memories (made : Sealed "SRAT" (record [(4,1),(8,0)] ++ (sratEntries topo regions).flatten) table)
    (narrow : ∀ region ∈ regions, region.nodeId < u32Span ∧ region.gpaStart < 256 ^ 8 ∧ region.size < 256 ^ 8) :
    (entriesFrom 48 table).1.filterMap memoryAffinity =
      regions.map fun region => (region.nodeId,region.gpaStart,region.size) := by
  rw [entries_srat topo regions table made,sratEntries,filterMap_append,
    filterMap_absent (memoryAffinity_cpu topo),nil_append]
  apply filterMap_total
  intro region member
  obtain ⟨narrow,low,short⟩ := narrow region member
  let fields := [(1,1),(1,40),(4,region.nodeId),(2,0),(8,region.gpaStart),(8,region.size),(4,0),(4,1),(8,0)]
  have kind : readField (sratMemAffinity region) 0 1 = 1 := readField_at fields 0 1 1 rfl (by decide)
  have domain : readField (sratMemAffinity region) 2 4 = region.nodeId := readField_at fields 2 4 _ rfl narrow
  have base : readField (sratMemAffinity region) 8 8 = region.gpaStart := readField_at fields 4 8 _ rfl low
  have size : readField (sratMemAffinity region) 16 8 = region.size := readField_at fields 5 8 _ rfl short
  have flags : readField (sratMemAffinity region) 28 4 = 1 := readField_at fields 7 4 1 rfl (by decide)
  simp [memoryAffinity,kind,domain,base,size,flags,enabled]

/-! SLIT -/

theorem getElem_flatMap_rows {α β : Type} {rows : List α} (row : α → List β) {width : Nat} (i : Nat) {j : Nat}
    (uniform : ∀ item ∈ rows, (row item).length = width) (below : j < width) :
    (rows.flatMap row)[i * width + j]? = rows[i]?.bind fun item => (row item)[j]? := by
  induction rows generalizing i with
  | nil => simp
  | cons item rows ih =>
    obtain ⟨here,rest⟩ := forall_mem_cons.mp uniform
    rw [flatMap_cons]
    cases i with
    | zero =>
      rw [Nat.zero_mul,Nat.zero_add,getElem?_append_left (by omega)]
      rfl
    | succ i =>
      rw [getElem?_append_right (by rw [succ_mul]; omega),here,succ_mul,
        show i * width + width + j - width = i * width + j by omega,ih i rest]
      rfl

theorem readField_byte {bytes : List UInt8} {index : Nat} {byte : UInt8} (is : bytes[index]? = some byte) :
    readField bytes index 1 = byte.toNat := by
  obtain ⟨inside,rfl⟩ := List.getElem?_eq_some_iff.mp is
  rw [readField,Library.Bytes.slice_eq,drop_eq_getElem_cons inside]
  rfl

theorem distance_byte {i j : Nat} : topo.distance i j < 256 := by
  unfold Topology.distance
  split
  · next d _ =>
    rw [NumaDistance.at,getD_eq_getElem?_getD]
    cases found : d.entries[i * d.n + j]? with
    | none => simp
    | some entry => exact d.entries_u8 entry (mem_of_getElem? found)
  · split <;> decide

theorem length_slit : 36 + (record [(8,topo.numaNodes)] ++ slitMatrix topo).length = slitSize topo := by
  simp [slitMatrix,slitSize,widths]
  omega

theorem slit_distances (made : Sealed "SLIT" (record [(8,topo.numaNodes)] ++ slitMatrix topo) table) :
    readField table 36 8 = topo.numaNodes ∧ ∀ i < topo.numaNodes, ∀ j < topo.numaNodes,
      readField table (44 + i * topo.numaNodes + j) 1 = topo.distance i j := by
  constructor
  · have wide : topo.numaNodes < 256 ^ 8 := topo.numaNodes_u32.trans (by decide)
    rw [← add_zero 36,← readField_drop,made.body]
    exact readField_at [(8,topo.numaNodes)] 0 8 _ rfl wide
  · intro i left j right
    have entry : (slitMatrix topo)[i * topo.numaNodes + j]? = some (UInt8.ofNat (topo.distance i j)) := by
      rw [slitMatrix,getElem_flatMap_rows _ i (by simp) right]
      simp [left,right]
    have behind : table.drop 44 = slitMatrix topo := by
      rw [show 44 = 36 + 8 from rfl,← drop_drop,made.body]
      exact drop_left' rfl
    rw [add_assoc,← readField_drop,behind,readField_byte entry]
    exact mod_eq_of_lt (distance_byte topo)

/-! HMAT -/

def SizedSubtable (bytes : List UInt8) : Prop :=
  8 ≤ bytes.length ∧ readField (bytes.take 8) 4 4 = bytes.length

theorem sizedSubtable_record (kind size : Nat) (fields : List (Nat × Nat)) (rest : List UInt8)
    (exact : widths ((2,kind)::(2,0)::(4,size)::fields) + rest.length = size) (word : size < u32Span) :
    SizedSubtable (record ((2,kind)::(2,0)::(4,size)::fields) ++ rest) := by
  have length : (record ((2,kind)::(2,0)::(4,size)::fields) ++ rest).length = size := by
    rw [length_append,length_record,exact]
  have header : 8 ≤ widths ((2,kind)::(2,0)::(4,size)::fields) := by
    simp [widths]
    omega
  refine ⟨by omega,?_⟩
  rw [readField_take (le_refl 8),length]
  exact readField_at ((2,kind)::(2,0)::(4,size)::fields) 2 4 size rfl word

theorem widths_map (items : List Nat) (width : Nat) : widths (items.map (Prod.mk width)) = width * items.length := by
  simp [widths,mul_comm]

variable (inits tgts : List Nat)

theorem widths_matrix (entry : Nat → Nat → Nat) :
    widths (inits.flatMap fun i => tgts.map fun t => (2,entry i t)) = 2 * inits.length * tgts.length := by
  have row (i : Nat) : ((tgts.map fun t => (2,entry i t)).map Prod.fst).sum = tgts.length * 2 := by
    rw [map_map,show Prod.fst ∘ (fun t => (2,entry i t)) = fun _ => 2 from rfl,map_const',sum_replicate_nat]
  induction inits with
  | nil => simp [widths]
  | cons i inits ih =>
    rw [widths] at ih ⊢
    rw [flatMap_cons,map_append,sum_append,row,ih,length_cons,mul_add 2,add_mul,add_comm,mul_comm tgts.length]

theorem length_hmatSllbi (dataType baseUnit : Nat) (entry : Nat → Nat → Nat) :
    (hmatSllbi inits tgts dataType baseUnit entry).length = sllbiLen inits.length tgts.length := by
  simp only [hmatSllbi,length_append,length_record,widths_map,widths_matrix]
  rfl

theorem sized_hmatSllbi {dataType baseUnit : Nat} {entry : Nat → Nat → Nat}
    (small : sllbiLen inits.length tgts.length < u32Span) :
    SizedSubtable (hmatSllbi inits tgts dataType baseUnit entry) := by
  have length := length_hmatSllbi inits tgts dataType baseUnit entry
  rw [hmatSllbi,append_assoc,append_assoc] at length ⊢
  rw [wrapU32,mod_eq_of_lt small] at length ⊢
  rw [length_append] at length
  exact sizedSubtable_record 1 _ _ _ length small

theorem sized_hmatEntries (small : sllbiLen (initiators topo).length regions.length < u32Span) :
    ∀ entry ∈ hmatEntries topo regions, SizedSubtable entry := by
  have count : (targets regions).length = regions.length := length_map _
  rw [← count] at small
  intro entry member
  rw [hmatEntries,mem_append,mem_append] at member
  rcases member with (mpda | sllbi) | msci
  · obtain ⟨node,_,rfl⟩ := mem_map.mp mpda
    exact sizedSubtable_record 0 40 [(2,3),(2,0),(4,_),(4,node),(4,0),(8,0),(8,0)] [] rfl (by decide)
  · rcases mem_pair.mp sllbi with rfl | rfl
    · exact sized_hmatSllbi _ _ small
    · exact sized_hmatSllbi _ _ small
  · obtain ⟨cache,_,rfl⟩ := mem_map.mp msci
    exact sizedSubtable_record 2 32 [(4,cache.2),(4,0),(8,_),(4,_),(2,0),(2,0)] [] rfl (by decide)

theorem length_hmat (initiating : (initiators topo).length = topo.cpuBearingNodes) :
    36 + (record [(4,0)] ++ (hmatEntries topo regions).flatten).length = hmatBytes topo regions := by
  have count : (targets regions).length = regions.length := length_map _
  have mpdas : length ∘ hmatMpda topo = fun _ => 40 := funext fun node => length_record
  have mscis : (length ∘ fun entry : MemSideCache × Nat => hmatMsci entry.1 entry.2) = fun _ => 32 :=
    funext fun entry => length_record
  have head : (record [(4,0)]).length = 4 := rfl
  rw [length_append,head,hmatEntries,flatten_append,flatten_append,length_append,length_append,
    length_flatten,length_flatten,length_flatten,map_map,map_map,mpdas,mscis,map_const',
    map_const',sum_replicate_nat,sum_replicate_nat,count,hmatBytes]
  simp only [map_cons,map_nil,sum_cons,sum_nil,length_hmatSllbi,initiating,count]
  omega

theorem hmat_tiled (made : Sealed "HMAT" (record [(4,0)] ++ (hmatEntries topo regions).flatten) table)
    (small : sllbiLen (initiators topo).length regions.length < u32Span) : (subtablesFrom 40 table).2 = [] := by
  have behind : table.drop 40 = (hmatEntries topo regions).flatten := by
    rw [show 40 = 36 + 4 from rfl,← drop_drop,made.body]
    exact drop_left' rfl
  rw [subtablesFrom,behind,decode_records _ (sized_hmatEntries topo regions small)]

/-! The root pointer -/

theorem byteSum_rsdp (layout : AcpiLayout) (checksum extended : UInt8) :
    byteSum (rsdp layout checksum extended) = byteSum (rsdp layout checksum 0) + extended := by
  have zeros : byteSum (record [(3,0)]) = 0 := by decide
  have byte (value : UInt8) : byteSum [value] = value := UInt8.zero_add value
  simp only [rsdp,byteSum_append,byte,zeros,UInt8.add_zero]

variable (table)

structure Checked (table : List UInt8) : Prop where
  length : lengthField table = table.length
  sum : byteSum table = 0

theorem length_writeRsdp (layout : AcpiLayout) : (writeRsdp layout).length = 36 := by
  have name : (ascii "RSD PTR ").length = 8 := by decide
  have oem : (ascii "KTSTR\x00").length = 6 := by decide
  simp [writeRsdp,rsdp,name,oem,widths]

theorem checked_writeRsdp {layout : AcpiLayout} : Checked (writeRsdp layout) := by
  constructor
  · have named : (writeRsdp layout).take 8 = ascii "RSD PTR " := by
      simp only [writeRsdp,rsdp,append_assoc]
      exact take_left' (by decide)
    generalize acpiChecksum ((rsdp layout 0 0).take 20) = checksum
    exact readField_record (ascii "RSD PTR " ++ [checksum] ++ ascii "KTSTR\x00") [(1,2),(4,layout.rsdtAddr)] 4 36
      [(8,layout.xsdtAddr)] _
  · rw [writeRsdp,byteSum_rsdp,add_acpiChecksum]

theorem Sealed.checked (body table : List UInt8) (made : Sealed signature body table)
    (other : ascii signature ≠ ascii "RSD ") : Checked table := by
  refine ⟨?_,made.sum⟩
  rw [lengthField,if_neg,made.field]
  intro root
  have four := congrArg (take 4) root
  rw [take_take,min_eq_left (by decide),made.name] at four
  exact other (four.trans (by decide))

end Ktstr.FirmwareBytes
