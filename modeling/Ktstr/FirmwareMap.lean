import Ktstr.ApicIds
import Ktstr.FirmwareBytes
import Ktstr.GuestShapes
import Ktstr.Library.Packing

/-! The firmware tables describe the VM exactly when they end below one MiB. -/
namespace Ktstr.FirmwareMap
open List Library.Records Library.Scatter Library.Packing Library.Words Source.VmTopology Source.GuestLayout
open Source.FirmwareTables Semantics.Firmware FirmwareBytes GuestShapes ApicIds

theorem length_filter_indices {α : Type} (items : List α) (test : Option α → Bool) :
    ((List.range items.length).filter fun n => test items[n]?).length = (items.filter fun item => test (some item)).length := by
  induction items with
  | nil => rfl
  | cons item items ih =>
    rw [length_cons,range_succ_eq_map,filter_cons,filter_cons,filter_map]
    simp only [getElem?_cons_zero,Function.comp_def,getElem?_cons_succ]
    split
    · rw [length_cons,length_cons,length_map,ih]
    · rw [length_map,ih]

theorem initiating {topo : Topology} (accepted : Accepted topo) : (initiators topo).length = topo.cpuBearingNodes := by
  cases explicit : topo.nodes with
  | some nodes =>
    rw [initiators,← accepted.length_nodes nodes explicit]
    simp only [Topology.llcsInNode,Topology.cpuBearingNodes,explicit]
    refine (length_filter_indices nodes fun node => decide ((node.map NumaNode.llcs).getD 0 > 0)).trans ?_
    simp [NumaNode.isMemoryOnly,Nat.pos_iff_ne_zero,Bool.beq_eq_decide_eq]
  | none =>
    have divides := accepted.shape
    rw [Topology.shapeError,explicit] at divides
    simp only [ite_eq_right_iff,reduceCtorEq,imp_false,not_not] at divides
    have positive := Nat.div_pos (Nat.le_of_dvd accepted.llcs (Nat.dvd_of_mod_eq_zero divides)) accepted.nodes
    have all : (List.range topo.numaNodes).filter (fun n => topo.llcsInNode n > 0) = List.range topo.numaNodes := by
      rw [filter_eq_self]
      intro n _
      simpa [Topology.llcsInNode,explicit] using positive
    rw [initiators,all,length_range,Topology.cpuBearingNodes,explicit]

/-! APIC ids -/

theorem cpuId_digits (cpuId cores threads : Nat) :
    cpuId / (threads * cores) * (cores * threads) + (cpuId / threads % cores * threads + cpuId % threads) = cpuId := by
  have inner := Nat.div_add_mod cpuId threads
  have outer := Nat.div_add_mod (cpuId / threads) cores
  rw [Nat.div_div_eq_div_mul] at outer
  calc cpuId / (threads * cores) * (cores * threads) + (cpuId / threads % cores * threads + cpuId % threads)
      = threads * (cores * (cpuId / (threads * cores)) + cpuId / threads % cores) + cpuId % threads := by ring
    _ = cpuId := by rw [outer,inner]

variable (topo : Topology)

theorem apicId_bounds (accepted : Accepted topo) (cpuId : Nat)
    (small : topo.llcs * topo.coresPerLlc * topo.threadsPerCore ≤ 65536)
    (inside : cpuId < topo.llcs * topo.coresPerLlc * topo.threadsPerCore) :
    apicId topo cpuId < u32Span ∧ cpuId ≤ apicId topo cpuId := by
  obtain ⟨_,cores,threads,_,perLlc,_,_⟩ := accepted
  rw [Nat.mul_comm topo.coresPerLlc] at perLlc
  have llcLow : cpuId / (topo.threadsPerCore * topo.coresPerLlc) < topo.llcs := by
    refine Nat.div_lt_of_lt_mul ?_
    rwa [Nat.mul_comm _ topo.llcs,Nat.mul_comm topo.threadsPerCore,← Nat.mul_assoc]
  have coreLow := (Nat.mod_lt (cpuId / topo.threadsPerCore) cores).trans_le (le_pow_bitsNeeded topo.coresPerLlc)
  have threadLow := (Nat.mod_lt cpuId threads).trans_le (le_pow_bitsNeeded topo.threadsPerCore)
  have share : topo.coresPerLlc * topo.threadsPerCore ≤ 2 ^ (bitsNeeded topo.coresPerLlc + bitsNeeded topo.threadsPerCore) := by
    rw [Nat.pow_add]
    exact Nat.mul_le_mul (le_pow_bitsNeeded _) (le_pow_bitsNeeded _)
  have room : 2 ^ (bitsNeeded topo.coresPerLlc + bitsNeeded topo.threadsPerCore) ≤
      4 * (topo.coresPerLlc * topo.threadsPerCore) := by
    rw [Nat.pow_add]
    refine (Nat.mul_le_mul (pow_bitsNeeded_le cores) (pow_bitsNeeded_le threads)).trans (Nat.le_of_eq (by ring))
  have llcFits : (cpuId / (topo.threadsPerCore * topo.coresPerLlc) + 1) *
      2 ^ (bitsNeeded topo.coresPerLlc + bitsNeeded topo.threadsPerCore) ≤ u32Span := by
    calc (cpuId / (topo.threadsPerCore * topo.coresPerLlc) + 1) *
          2 ^ (bitsNeeded topo.coresPerLlc + bitsNeeded topo.threadsPerCore)
        ≤ topo.llcs * (4 * (topo.coresPerLlc * topo.threadsPerCore)) := Nat.mul_le_mul llcLow room
      _ = 4 * (topo.llcs * topo.coresPerLlc * topo.threadsPerCore) := by ring
      _ ≤ u32Span := (Nat.mul_le_mul_left 4 small).trans (by decide)
  rw [apicId_eq cores threads perLlc llcFits]
  have digits := cpuId_digits cpuId topo.coresPerLlc topo.threadsPerCore
  have threadRoom := le_pow_bitsNeeded topo.threadsPerCore
  generalize cpuId / (topo.threadsPerCore * topo.coresPerLlc) = llc at *
  generalize cpuId / topo.threadsPerCore % topo.coresPerLlc = core at *
  generalize bitsNeeded topo.coresPerLlc = coreBits at *
  generalize bitsNeeded topo.threadsPerCore = threadBits at *
  have digit : (core + 1) * 2 ^ threadBits ≤ 2 ^ (coreBits + threadBits) := by
    rw [Nat.pow_add]
    exact Nat.mul_le_mul_right _ coreLow
  have high := Nat.mul_le_mul_left llc share
  have low := Nat.mul_le_mul_left core threadRoom
  rw [Nat.succ_mul] at llcFits digit
  omega

theorem nodeOf_lt (accepted : Accepted topo) (cpuId : Nat) (small : cpuId < u32Span) :
    nodeOf topo cpuId < u32Span := by
  rw [nodeOf,Topology.numaNodeOf]
  cases explicit : topo.nodes with
  | none => exact ((Nat.div_le_self _ _).trans (Nat.div_le_self _ _)).trans_lt small
  | some nodes =>
    have count := accepted.length_nodes nodes explicit
    have bound := topo.numaNodes_u32
    simp only
    cases owner : Topology.owningNode (cpuId / (topo.coresPerLlc * topo.threadsPerCore)) 0 0 nodes with
    | none =>
      rw [Option.getD_none]
      omega
    | some node =>
      have := owningNode_lt _ _ _ _ _ owner
      rw [Option.getD_some]
      omega

/-! Regions -/

structure Stackable (topo : Topology) (entries : List (Nat × Nat)) : Prop where
  count : entries.length ≤ topo.numaNodes
  node : ∀ entry ∈ entries, entry.1 < u32Span
  size : ∀ entry ∈ entries, ∃ mb < u32Span, entry.2 = mbBytes mb

theorem stackable_nodes {nodes : List NumaNode} (count : nodes.length = topo.numaNodes) :
    Stackable topo (nodeSizes nodes) := by
  have member (entry : Nat × Nat) (among : entry ∈ nodeSizes nodes) :
      entry.1 < nodes.length ∧ ∃ mb < u32Span, entry.2 = mbBytes mb := by
    obtain ⟨⟨node,index⟩,found,rfl⟩ := mem_map.mp (mem_of_mem_filter among)
    have bound := snd_lt_of_mem_zipIdx found
    exact ⟨by simpa using bound,node.memoryMb,node.memoryMb_u32,rfl⟩
  refine ⟨?_,?_,fun entry among => (member entry among).2⟩
  · rw [← count]
    refine (length_filter_le _ _).trans ?_
    simp
  · intro entry among
    have := (member entry among).1
    have := topo.numaNodes_u32
    omega

theorem stackable_even {memoryMb : Nat} (narrow : memoryMb < u32Span) :
    Stackable topo (evenSizes topo.numaNodes memoryMb) := by
  refine ⟨by simp [evenSizes],?_,?_⟩
  · intro entry among
    obtain ⟨i,inside,rfl⟩ := mem_map.mp among
    exact (List.mem_range.mp inside).trans topo.numaNodes_u32
  · intro entry among
    obtain ⟨i,inside,rfl⟩ := mem_map.mp among
    refine ⟨_,?_,rfl⟩
    split
    · exact (Nat.sub_le _ _).trans_lt narrow
    · exact (Nat.div_le_self _ _).trans_lt narrow

variable (regions : List NodeRegion)

theorem compute_stackable (accepted : Accepted topo) {memoryMb : Nat} (narrow : memoryMb < u32Span)
    {regions : List NodeRegion} (computed : compute topo memoryMb 0 = .ok regions) :
    ∃ entries, regions = stackRegions 0 0 entries ∧ Stackable topo entries := by
  cases explicit : topo.nodes with
  | some nodes =>
    simp only [compute,explicit] at computed
    split at computed
    · cases computed
    · split at computed
      · cases computed
      · cases computed
        exact ⟨_,rfl,stackable_nodes topo (accepted.length_nodes nodes explicit)⟩
  | none =>
    simp only [compute,explicit] at computed
    split at computed
    · cases computed
      refine ⟨[(0,mbBytes memoryMb)],rfl,accepted.nodes,?_,?_⟩
      · simp [u32Span]
      · simpa using ⟨memoryMb,narrow,rfl⟩
    · cases computed
      exact ⟨_,rfl,stackable_even topo narrow⟩

theorem length_stackRegions (gpa slot : Nat) (entries : List (Nat × Nat)) :
    (stackRegions gpa slot entries).length = entries.length := by
  induction entries generalizing gpa slot with
  | nil => rfl
  | cons entry entries ih => rw [stackRegions,length_cons,ih,length_cons]

theorem stackRegions_mem (gpa slot : Nat) (entries : List (Nat × Nat)) (low : gpa < wordSpan) :
    ∀ region ∈ stackRegions gpa slot entries, (region.nodeId,region.size) ∈ entries ∧ region.gpaStart < wordSpan := by
  induction entries generalizing gpa slot with
  | nil => simp [stackRegions]
  | cons entry entries ih =>
    intro region member
    rcases mem_cons.mp member with rfl | later
    · exact ⟨mem_cons_self,low⟩
    · obtain ⟨among,start⟩ := ih _ _ (Nat.mod_lt _ (by decide)) region later
      exact ⟨mem_cons_of_mem _ among,start⟩

theorem stackRegions_low (slot : Nat) (entries : List (Nat × Nat)) (address : Nat)
    (whole : ∀ entry ∈ entries, ∃ mb < u32Span, entry.2 = mbBytes mb)
    (filled : ∃ region ∈ stackRegions 0 slot entries, region.size ≠ 0) (low : address < himemStart) :
    covers (stackRegions 0 slot entries) address := by
  induction entries generalizing slot with
  | nil => simp [stackRegions] at filled
  | cons entry entries ih =>
    obtain ⟨⟨mb,_,size⟩,rest⟩ := forall_mem_cons.mp whole
    obtain ⟨node,bytes⟩ := entry
    simp only at size
    rw [stackRegions] at filled ⊢
    rw [covers]
    rcases Nat.eq_zero_or_pos mb with none | positive
    · have empty : bytes = 0 := by rw [size,none]; rfl
      subst empty
      obtain ⟨region,member,nonzero⟩ := filled
      rcases mem_cons.mp member with rfl | later
      · exact absurd rfl nonzero
      · exact Bool.or_eq_true_iff.mpr (Or.inr (ih (slot + 1) rest ⟨region,later,nonzero⟩))
    · have bytes_eq : bytes = mb * 2 ^ 20 := size.trans (Nat.shiftLeft_eq mb 20)
      have here : address < bytes := by
        simp only [himemStart] at low
        omega
      simp [here]

/-! Sizes -/

structure Exact (topo : Topology) (regions : List NodeRegion) : Prop where
  madt : computeMadtSize topo = madtBytes topo
  srat : sratSize topo regions = sratBytes topo regions
  hmat : emitHmat topo = true → computeHmatSize topo regions = hmatBytes topo regions

section Sizes

variable (topo : Topology) (regions : List NodeRegion) (accepted : Accepted topo)
include accepted

theorem sratSize_eq (few : regions.length < u32Span) :
    sratSize topo regions = wrapU32 (sratBytes topo regions) := by
  rw [sratSize,sratBytes,accepted.counted,show wrapU32 regions.length = regions.length from Nat.mod_eq_of_lt few]

omit accepted in
theorem computeHmatSize_eq : computeHmatSize topo regions = wrapU32 (hmatBytes topo regions) := by
  rw [computeHmatSize,hmatBytes,Nat.mul_comm 2]

theorem exact_of_fits (few : regions.length < u32Span)
    (fits : rsdpAddr + acpiBytes topo regions ≤ himemStart) : Exact topo regions := by
  have span : u32Span = 4294967296 := rfl
  simp only [acpiBytes,himemStart] at fits
  refine ⟨?_,?_,?_⟩
  · rw [computeMadtSize_eq topo accepted.counted]
    exact Nat.mod_eq_of_lt (by omega)
  · rw [sratSize_eq topo regions accepted few]
    exact Nat.mod_eq_of_lt (by omega)
  · intro emitted
    rw [if_pos (of_decide_eq_true emitted)] at fits
    rw [computeHmatSize_eq topo regions]
    exact Nat.mod_eq_of_lt (by omega)

omit accepted in
theorem exact_of_made {signature : String} {revision size : Nat} {body table : List UInt8}
    (four : (ascii signature).length = 4) (exact : 36 + body.length = size)
    (made : sdt signature (wrapU32 size) revision body = some table) : wrapU32 size = size := by
  obtain ⟨room,_⟩ := sdt_length signature four made
  exact Nat.le_antisymm (Nat.mod_le _ _) (by omega)

theorem exact_of_tables (few : regions.length < u32Span) {acpi : List Write}
    (made : acpiTables topo regions = some acpi) :
    Exact topo regions ∧ ∃ xsdt, ((acpiLayout topo regions).xsdtAddr,xsdt) ∈ acpi ∧
      xsdt.length = (acpiLayout topo regions).xsdtSize := by
  simp only [acpiTables,Option.bind_eq_bind,Option.bind_eq_some_iff,Option.some.injEq] at made
  obtain ⟨dsdt,_,madt,madtMade,fadt,_,srat,sratMade,slit,_,hmat,hmatMade,rsdt,_,xsdt,xsdtMade,rfl⟩ := made
  refine ⟨⟨?_,?_,?_⟩,xsdt,by simp,(sdt_length _ (by decide) xsdtMade).2⟩
  · rw [writeMadt,computeMadtSize_eq topo accepted.counted] at madtMade
    rw [computeMadtSize_eq topo accepted.counted]
    exact exact_of_made (by decide) (length_madt topo accepted.counted) madtMade
  · rw [writeSrat,sratSize_eq topo regions accepted few] at sratMade
    rw [sratSize_eq topo regions accepted few]
    exact exact_of_made (by decide) (length_srat topo regions accepted.counted) sratMade
  · intro emitted
    rw [emittedHmat,if_pos emitted,Option.map_eq_some_iff] at hmatMade
    obtain ⟨table,tableMade,_⟩ := hmatMade
    rw [writeHmat,computeHmatSize_eq] at tableMade
    rw [computeHmatSize_eq]
    exact exact_of_made (by decide) (length_hmat topo regions (initiating accepted)) tableMade

omit accepted in
theorem layout_end (exact : Exact topo regions) :
    (acpiLayout topo regions).xsdtAddr + (acpiLayout topo regions).xsdtSize = rsdpAddr + acpiBytes topo regions := by
  cases emitted : emitHmat topo with
  | true =>
    have several : topo.numaNodes > 1 := of_decide_eq_true emitted
    simp only [acpiLayout,acpiBytes,emitted,if_true,exact.madt,exact.srat,exact.hmat emitted,slitSize,rsdpSize,
      if_pos several]
    omega
  | false =>
    have single : ¬ topo.numaNodes > 1 := of_decide_eq_false emitted
    simp only [acpiLayout,acpiBytes,emitted,Bool.false_eq_true,if_false,exact.madt,exact.srat,slitSize,rsdpSize,
      if_neg single]
    omega

end Sizes

/-! The tables in memory -/

theorem sdt_exact (signature : String) (length revision : Nat) (body : List UInt8)
    (four : (ascii signature).length = 4) (exact : 36 + body.length = length) (small : length < u32Span) :
    ∃ table, sdt signature length revision body = some table ∧ Sealed signature body table := by
  obtain ⟨table,made,shape⟩ := sdt_sealed signature length revision body four (Nat.le_of_eq exact) small
  rw [exact,Nat.sub_self,replicate_zero,append_nil] at shape
  exact ⟨table,made,shape⟩

structure Made (topo : Topology) (regions : List NodeRegion) where
  dsdt : List UInt8
  madt : List UInt8
  fadt : List UInt8
  srat : List UInt8
  slit : List UInt8
  hmat : List Write
  rsdt : List UInt8
  xsdt : List UInt8
  dsdtShape : Sealed "DSDT" [] dsdt
  madtShape : Sealed "APIC" (record [(4,lapicAddr),(4,1)] ++ (madtEntries topo).flatten) madt
  fadtShape : ∃ body, Sealed "FACP" body fadt ∧ 36 + body.length = 276
  sratShape : Sealed "SRAT" (record [(4,1),(8,0)] ++ (sratEntries topo regions).flatten) srat
  slitShape : Sealed "SLIT" (record [(8,topo.numaNodes)] ++ slitMatrix topo) slit
  hmatShape : emitHmat topo = true → ∃ table, hmat = [((acpiLayout topo regions).hmatAddr,table)] ∧
    Sealed "HMAT" (record [(4,0)] ++ (hmatEntries topo regions).flatten) table
  hmatAbsent : emitHmat topo = false → hmat = []
  rsdtShape : ∃ body, Sealed "RSDT" body rsdt ∧ 36 + body.length = (acpiLayout topo regions).rsdtSize
  xsdtShape : ∃ body, Sealed "XSDT" body xsdt ∧ 36 + body.length = (acpiLayout topo regions).xsdtSize

def Made.acpi {topo : Topology} {regions : List NodeRegion} (made : Made topo regions) : List Write :=
  let layout := acpiLayout topo regions
  [(layout.dsdtAddr,made.dsdt),(layout.madtAddr,made.madt),(layout.fadtAddr,made.fadt),(layout.sratAddr,made.srat),
    (layout.slitAddr,made.slit)] ++ made.hmat ++
    [(layout.rsdtAddr,made.rsdt),(layout.xsdtAddr,made.xsdt),(rsdpAddr,writeRsdp layout)]

theorem length_rsdtEntries (exact : Exact topo regions) :
    (rsdtEntries (acpiLayout topo regions)).length = if emitHmat topo then 5 else 4 := by
  cases emitted : emitHmat topo with
  | true =>
    have present : hmatBytes topo regions > 0 := by
      rw [hmatBytes]
      omega
    simp [rsdtEntries,acpiLayout,emitted,exact.hmat emitted,present]
  | false => simp [rsdtEntries,acpiLayout,emitted]

theorem widths_pointers (width : Nat) (pointers : List Nat) :
    (record (pointers.map (Prod.mk width))).length = width * pointers.length := by
  simp [widths,Nat.mul_comm]

theorem tables_made (accepted : Accepted topo) (exact : Exact topo regions)
    (fits : rsdpAddr + acpiBytes topo regions ≤ himemStart) :
    ∃ made : Made topo regions, acpiTables topo regions = some made.acpi := by
  have span : u32Span = 4294967296 := rfl
  have pointers := length_rsdtEntries topo regions exact
  simp only [acpiBytes,himemStart] at fits
  obtain ⟨dsdt,dsdtMade,dsdtShape⟩ := sdt_exact "DSDT" 36 2 [] (by decide) rfl (by decide)
  obtain ⟨madt,madtMade,madtShape⟩ := sdt_exact "APIC" (computeMadtSize topo) 3 _ (by decide)
    ((length_madt topo accepted.counted).trans exact.madt.symm) (by rw [exact.madt]; omega)
  obtain ⟨fadt,fadtMade,fadtShape⟩ := sdt_sealed "FACP" 276 6 (record [(4,0),(4,(acpiLayout topo regions).dsdtAddr),
    (68,0),(4,0x30),(15,0),(1,5),(8,0),(8,(acpiLayout topo regions).dsdtAddr)]) (by decide)
    (by rw [length_record]; simp [widths]) (by decide)
  obtain ⟨srat,sratMade,sratShape⟩ := sdt_exact "SRAT" (sratSize topo regions) 3 _ (by decide)
    ((length_srat topo regions accepted.counted).trans exact.srat.symm) (by rw [exact.srat]; omega)
  obtain ⟨slit,slitMade,slitShape⟩ := sdt_exact "SLIT" (slitSize topo) 1 _ (by decide) (length_slit topo)
    (by rw [slitSize]; omega)
  obtain ⟨hmat,hmatMade,hmatShape,hmatAbsent⟩ : ∃ hmat,
      emittedHmat topo regions (acpiLayout topo regions).hmatAddr = some hmat ∧
      (emitHmat topo → ∃ table, hmat = [((acpiLayout topo regions).hmatAddr,table)] ∧
        Sealed "HMAT" (record [(4,0)] ++ (hmatEntries topo regions).flatten) table) ∧
      (emitHmat topo = false → hmat = []) := by
    cases emitted : emitHmat topo with
    | true =>
      rw [if_pos (of_decide_eq_true emitted)] at fits
      obtain ⟨table,made,shape⟩ := sdt_exact "HMAT" (computeHmatSize topo regions) 2 _ (by decide)
        ((length_hmat topo regions (initiating accepted)).trans (exact.hmat emitted).symm)
        (by rw [exact.hmat emitted]; omega)
      exact ⟨_,by rw [emittedHmat,if_pos emitted,writeHmat,made,Option.map_some],fun _ => ⟨table,rfl,shape⟩,by simp⟩
    | false => exact ⟨[],by rw [emittedHmat,emitted]; rfl,by simp,fun _ => rfl⟩
  obtain ⟨rsdt,rsdtMade,rsdtShape⟩ := sdt_exact "RSDT" (acpiLayout topo regions).rsdtSize 1
    (record ((rsdtEntries (acpiLayout topo regions)).map (Prod.mk 4))) (by decide)
    (by rw [widths_pointers,pointers,Nat.mul_comm]; rfl) (by simp only [acpiLayout]; split <;> decide)
  obtain ⟨xsdt,xsdtMade,xsdtShape⟩ := sdt_exact "XSDT" (acpiLayout topo regions).xsdtSize 1
    (record ((rsdtEntries (acpiLayout topo regions)).map (Prod.mk 8))) (by decide)
    (by rw [widths_pointers,pointers,Nat.mul_comm]; rfl) (by simp only [acpiLayout]; split <;> decide)
  refine ⟨⟨dsdt,madt,fadt,srat,slit,hmat,rsdt,xsdt,dsdtShape,madtShape,⟨_,fadtShape,?_⟩,sratShape,slitShape,hmatShape,
    hmatAbsent,⟨_,rsdtShape,?_⟩,⟨_,xsdtShape,?_⟩⟩,?_⟩
  · rw [length_append,length_replicate]
    rfl
  · rw [widths_pointers,pointers,Nat.mul_comm]
    rfl
  · rw [widths_pointers,pointers,Nat.mul_comm]
    rfl
  · simp only [acpiTables,writeDsdt,dsdtMade,writeMadt,madtMade,writeFadt,fadtMade,writeSrat,sratMade,writeSlit,slitMade,
      hmatMade,writeRsdt,rsdtMade,writeXsdt,xsdtMade,Option.bind_eq_bind,Option.bind_some]
    rfl

section Placed

variable {topo : Topology} {regions : List NodeRegion} (accepted : Accepted topo) (exact : Exact topo regions)
  (made : Made topo regions)

def sizes (topo : Topology) (regions : List NodeRegion) : List Nat :=
  let layout := acpiLayout topo regions
  [36,layout.dsdtSize,layout.madtSize,layout.fadtSize,layout.sratSize,layout.slitSize] ++
    (if emitHmat topo then [layout.hmatSize] else []) ++ [layout.rsdtSize,layout.xsdtSize]

include accepted exact in
theorem extents_packed : (made.acpi.map extentOf).Perm (pack rsdpAddr (sizes topo regions)) := by
  have dsdt : made.dsdt.length = 36 := made.dsdtShape.size
  have madt : made.madt.length = computeMadtSize topo := by
    rw [made.madtShape.size,length_madt topo accepted.counted,exact.madt]
  have fadt : made.fadt.length = 276 := by
    obtain ⟨body,shape,size⟩ := made.fadtShape
    rw [shape.size,size]
  have srat : made.srat.length = sratSize topo regions := by
    rw [made.sratShape.size,length_srat topo regions accepted.counted,exact.srat]
  have slit : made.slit.length = slitSize topo := made.slitShape.size.trans (length_slit topo)
  have rsdt : made.rsdt.length = (acpiLayout topo regions).rsdtSize := by
    obtain ⟨body,shape,size⟩ := made.rsdtShape
    rw [shape.size,size]
  have xsdt : made.xsdt.length = (acpiLayout topo regions).xsdtSize := by
    obtain ⟨body,shape,size⟩ := made.xsdtShape
    rw [shape.size,size]
  have root := length_writeRsdp (acpiLayout topo regions)
  -- Only the root pointer is written out of the order of the addresses.
  have rotated (tail : List Extent) (first : Extent) : (tail ++ [first]).Perm (first::tail) :=
    perm_append_singleton first tail
  cases emitted : emitHmat topo with
  | true =>
    obtain ⟨table,hmat,shape⟩ := made.hmatShape emitted
    have size : table.length = computeHmatSize topo regions := by
      rw [shape.size,length_hmat topo regions (initiating accepted),exact.hmat emitted]
    simp only [Made.acpi,hmat,map_append,map_cons,map_nil,extentOf,dsdt,madt,fadt,srat,slit,size,rsdt,xsdt,root]
    simp only [sizes,acpiLayout,emitted,if_true,pack,cons_append,nil_append,rsdpSize]
    exact rotated [_,_,_,_,_,_,_,_] _
  | false =>
    simp only [Made.acpi,made.hmatAbsent emitted,map_append,map_cons,map_nil,extentOf,dsdt,madt,fadt,srat,
      slit,rsdt,xsdt,root]
    simp only [sizes,acpiLayout,emitted,Bool.false_eq_true,if_false,pack,cons_append,nil_append,append_nil,rsdpSize]
    exact rotated [_,_,_,_,_,_,_] _

theorem sizes_sum : rsdpAddr + (sizes topo regions).sum =
    (acpiLayout topo regions).xsdtAddr + (acpiLayout topo regions).xsdtSize := by
  cases emitted : emitHmat topo with
  | true =>
    simp only [sizes,acpiLayout,emitted,if_true,sum_append,sum_cons,sum_nil,rsdpSize]
    omega
  | false =>
    simp only [sizes,acpiLayout,emitted,Bool.false_eq_true,if_false,sum_append,sum_cons,sum_nil,rsdpSize]
    omega

theorem checked_acpi : ∀ table ∈ made.acpi, Checked table.2 := by
  intro table member
  simp only [Made.acpi,mem_append,mem_cons,not_mem_nil,or_false] at member
  rcases member with ((rfl | rfl | rfl | rfl | rfl) | hmat) | rfl | rfl | rfl
  · exact made.dsdtShape.checked _ _ _ (by decide)
  · exact made.madtShape.checked _ _ _ (by decide)
  · obtain ⟨body,shape,_⟩ := made.fadtShape
    exact shape.checked _ _ _ (by decide)
  · exact made.sratShape.checked _ _ _ (by decide)
  · exact made.slitShape.checked _ _ _ (by decide)
  · cases emitted : emitHmat topo with
    | true =>
      obtain ⟨bytes,is,shape⟩ := made.hmatShape emitted
      rw [is,mem_singleton] at hmat
      subst hmat
      exact shape.checked _ _ _ (by decide)
    | false =>
      rw [made.hmatAbsent emitted] at hmat
      exact absurd hmat not_mem_nil
  · obtain ⟨body,shape,_⟩ := made.rsdtShape
    exact shape.checked _ _ _ (by decide)
  · obtain ⟨body,shape,_⟩ := made.xsdtShape
    exact shape.checked _ _ _ (by decide)
  · exact checked_writeRsdp

end Placed

theorem length_mptable : (mptable topo).length = 284 + 20 * topo.totalCpus := by
  have magic : (ascii "_MP_").length = 4 := by decide
  have table : (ascii "PCMP").length = 4 := by decide
  have oem : (ascii "KTSTR   ").length = 8 := by decide
  have product : (ascii "000000000000").length = 12 := by decide
  have bus : (ascii "ISA   ").length = 6 := by decide
  have cpus : ((List.range topo.totalCpus).flatMap (mpCpu topo)).length = topo.totalCpus * 20 := by
    have each : (fun cpuId => (mpCpu topo cpuId).length) = fun _ => 20 := funext fun cpuId => length_record
    rw [length_flatMap,each,map_const',sum_replicate_nat,length_range]
  have irqs : ((List.range 24).flatMap fun irq =>
      record [(1,3),(1,0),(1,0),(1,0),(1,0),(1,irq),(1,0xFE),(1,irq)]).length = 192 := rfl
  have lints : ((List.range 2).flatMap fun lint =>
      record [(1,4),(1,if lint = 0 then 3 else 1),(4,0),(1,0xFF),(1,lint)]).length = 16 := rfl
  have entries : (mpEntries topo).length = 20 * topo.totalCpus + 224 := by
    rw [mpEntries,length_append,length_append,length_append,length_append,length_append,cpus,
      irqs,lints,bus,length_record,length_record]
    simp only [widths,map_cons,map_nil,sum_cons,sum_nil]
    omega
  simp [mptable,mpFloating,mpHeader,widths]
  omega

variable (memory : Memory)

theorem writeSlices_eq {writes : List Write}
    (covered : ∀ write ∈ writes, ∀ offset < write.2.length, covers regions (write.1 + offset)) :
    writeSlices regions memory writes = some (storeAll memory writes) := by
  induction writes generalizing memory with
  | nil => rfl
  | cons write writes ih =>
    obtain ⟨here,rest⟩ := forall_mem_cons.mp covered
    have stored : writeSlice regions memory write = some (store memory write.1 write.2) :=
      if_pos (by simpa using here)
    rw [writeSlices,foldlM_cons,stored]
    exact ih _ rest

theorem tableAt_eq (address : Nat) (table : List UInt8) (there : load memory address table.length = table)
    (field : readField table 4 4 = table.length) (header : 36 ≤ table.length) : tableAt memory address = table := by
  have start : load memory address 8 = table.take 8 := by
    rw [← there,← Nat.add_zero address,← load_drop_take memory address table.length 0 8 (by omega)]
    simp
  rw [tableAt,start,readField_take (Nat.le_refl 8),field,there]

theorem fits_of_describes (accepted : Accepted topo) (few : regions.length < u32Span)
    (describes : FirmwareDescribes topo regions memory) : Fits topo regions := by
  obtain ⟨booted,layout,final,acpi,mp,set,tables,described⟩ := describes
  constructor
  · rw [setupMptable,writeSlice,Option.ite_none_right_eq_some] at mp
    have start := all_eq_true.mp mp.1 0 (List.mem_range.mpr (by rw [length_mptable]; omega))
    obtain ⟨region,member,inside⟩ := any_eq_true.mp start
    simp only [Bool.and_eq_true,decide_eq_true_eq] at inside
    exact ⟨region,member,by omega⟩
  · obtain ⟨exact,xsdt,member,size⟩ := exact_of_tables topo regions accepted few tables
    rw [← layout_end topo regions exact,← size]
    exact (described.inside _ (mem_append_right _ member)).2

theorem apart_symm (first second : Extent) (apart : Apart first second) : Apart second first := by
  unfold Apart at *
  omega

section Described

variable {topo : Topology} {regions : List NodeRegion} (accepted : Accepted topo) (exact : Exact topo regions)
  (room : rsdpAddr + acpiBytes topo regions ≤ himemStart) (made : Made topo regions)
include accepted room

omit accepted in
theorem few_vcpus : topo.llcs * topo.coresPerLlc * topo.threadsPerCore ≤ 5461 := by
  simp only [acpiBytes,sratBytes,rsdpAddr,himemStart] at room
  omega

theorem mptable_below : mptableStart + (mptable topo).length ≤ rsdpAddr := by
  have few := few_vcpus room
  rw [length_mptable,accepted.counted,mptableStart,rsdpAddr]
  omega

include exact in
theorem placed (table : Write) (member : table ∈ made.acpi) :
    rsdpAddr ≤ table.1 ∧ table.1 + table.2.length ≤ himemStart := by
  have among := (extents_packed accepted exact made).mem_iff.mp (mem_map_of_mem (f := extentOf) member)
  refine ⟨pack_above _ _ _ among,(pack_below _ _ _ among).trans ?_⟩
  rw [sizes_sum,layout_end topo regions exact]
  exact room

include exact in
theorem tables_apart : (([(mptableStart,mptable topo)] ++ made.acpi).map extentOf).Pairwise Apart := by
  have packed := extents_packed accepted exact made
  refine pairwise_cons.mpr ⟨?_,?_⟩
  · intro other member
    have := pack_above _ _ _ (packed.mem_iff.mp member)
    have := mptable_below accepted room
    simp only [Apart,extentOf]
    omega
  · exact (packed.pairwise_iff (fun {first second} => apart_symm first second)).mpr (pack_apart _ _)

theorem apic_bounds (cpuId : Nat) (member : cpuId ∈ vcpus topo) :
    apicId topo cpuId < u32Span ∧ cpuId ≤ apicId topo cpuId := by
  have few := few_vcpus room
  exact apicId_bounds topo accepted cpuId (by omega) (List.mem_range.mp member)

include exact in
theorem describes_of_loaded (entries : List (Nat × Nat)) (stacked : regions = stackRegions 0 0 entries)
    (stackable : Stackable topo entries) (memory : Memory)
    (there : ∀ table ∈ made.acpi, load memory table.1 table.2.length = table.2) :
    Describes topo regions (acpiLayout topo regions) [(mptableStart,mptable topo)] made.acpi memory := by
  have decoded (address : Nat) (signature : String) (body table : List UInt8) (member : (address,table) ∈ made.acpi)
      (shape : Sealed signature body table) : tableAt memory address = table :=
    tableAt_eq memory address table (there _ member) shape.field (by rw [shape.size]; omega)
  have madt := decoded (acpiLayout topo regions).madtAddr _ _ _ (by simp [Made.acpi]) made.madtShape
  have srat := decoded (acpiLayout topo regions).sratAddr _ _ _ (by simp [Made.acpi]) made.sratShape
  have slit := decoded (acpiLayout topo regions).slitAddr _ _ _ (by simp [Made.acpi]) made.slitShape
  have apic := apic_bounds accepted room
  constructor
  · intro table member
    rcases mem_append.mp member with mp | acpi
    · rw [mem_singleton.mp mp]
      exact ⟨Nat.le_refl ebdaStart,(mptable_below accepted room).trans (by decide)⟩
    · obtain ⟨above,below⟩ := placed accepted exact room made table acpi
      exact ⟨Nat.le_trans (by decide) above,below⟩
  · exact tables_apart accepted exact room made
  · intro table member
    rw [there table member]
    exact (checked_acpi made table member).length
  · intro table member
    rw [there table member]
    exact (checked_acpi made table member).sum
  · rw [madt]
    exact madt_cpus topo accepted.counted made.madtShape apic
  · rw [srat]
    refine srat_affinities topo regions accepted.counted made.sratShape accepted.perLlc fun cpuId member => ?_
    refine ⟨(apic cpuId member).1,nodeOf_lt topo accepted cpuId ?_⟩
    exact (apic cpuId member).2.trans_lt (apic cpuId member).1
  · rw [srat]
    refine srat_memories topo regions made.sratShape fun region member => ?_
    rw [stacked] at member
    obtain ⟨among,start⟩ := stackRegions_mem 0 0 entries (by decide) region member
    obtain ⟨mb,narrow,size⟩ := stackable.size _ among
    refine ⟨stackable.node _ among,start,?_⟩
    have bytes : region.size = mb * 2 ^ 20 := size.trans (Nat.shiftLeft_eq mb 20)
    rw [u32Span] at narrow
    omega
  · rw [slit]
    exact (slit_distances topo made.slitShape).1
  · rw [slit]
    exact (slit_distances topo made.slitShape).2
  · intro present
    cases emitted : emitHmat topo with
    | true =>
      obtain ⟨table,is,shape⟩ := made.hmatShape emitted
      rw [decoded (acpiLayout topo regions).hmatAddr _ _ table (by simp [Made.acpi,is]) shape]
      refine hmat_tiled topo regions shape ?_
      rw [initiating accepted]
      simp only [acpiBytes,if_pos (of_decide_eq_true emitted : topo.numaNodes > 1),hmatBytes,rsdpAddr,himemStart] at room
      rw [u32Span]
      omega
    | false => simp [acpiLayout,emitted] at present

end Described

theorem describes_of_fits (accepted : Accepted topo) (entries : List (Nat × Nat))
    (stacked : regions = stackRegions 0 0 entries) (stackable : Stackable topo entries) (fits : Fits topo regions) :
    FirmwareDescribes topo regions memory := by
  obtain ⟨filled,room⟩ := fits
  have few : regions.length < u32Span := by
    rw [stacked,length_stackRegions]
    exact stackable.count.trans_lt topo.numaNodes_u32
  have exact := exact_of_fits topo regions accepted few room
  obtain ⟨made,tables⟩ := tables_made topo regions accepted exact room
  -- All writes lie in the low MiB, which the guest's first memory covers.
  have low (address : Nat) (below : address < himemStart) : covers regions address := by
    rw [stacked] at filled ⊢
    exact stackRegions_low 0 entries address stackable.size filled below
  have mpMade : setupMptable memory topo regions = some (store memory mptableStart (mptable topo)) := by
    refine if_pos (all_eq_true.mpr fun offset member => low _ ?_)
    have inside : offset < (mptable topo).length := List.mem_range.mp member
    have := mptable_below accepted room
    omega
  have acpiMade := writeSlices_eq regions (store memory mptableStart (mptable topo)) fun table member offset below =>
    low _ (by have := (placed accepted exact room made table member).2; omega)
  have loaded := load_storeAll memory (tables_apart accepted exact room made)
  refine ⟨_,_,_,made.acpi,mpMade,?_,tables,describes_of_loaded accepted exact room made entries stacked stackable
    (storeAll (store memory mptableStart (mptable topo)) made.acpi) ?_⟩
  · simp only [setupAcpi,tables,acpiMade,Option.bind_eq_bind,Option.bind_some]
  · exact fun table member => loaded table (mem_append_right _ member)

/-- For every accepted topology and every layout of it, the tables describe the VM exactly when they fit. -/
theorem firmware_describes_iff (topo : Topology) (memoryMb : Nat) (regions : List NodeRegion) (memory : Memory)
    (narrow : memoryMb < u32Span) (valid : topo.validate = .ok ()) (computed : compute topo memoryMb 0 = .ok regions) :
    FirmwareDescribes topo regions memory ↔ Fits topo regions := by
  have accepted := accepted_of_validate valid
  obtain ⟨entries,stacked,stackable⟩ := compute_stackable topo accepted narrow computed
  constructor
  · refine fits_of_describes topo regions memory accepted ?_
    rw [stacked,length_stackRegions]
    exact stackable.count.trans_lt topo.numaNodes_u32
  · exact describes_of_fits topo regions memory accepted entries stacked stackable

theorem sratBytes_le : sratBytes topo regions ≤ acpiBytes topo regions := by
  rw [acpiBytes]
  omega

def smallGuest : Topology where
  llcs := 2
  coresPerLlc := 2
  threadsPerCore := 2
  numaNodes := 2

def manyCores : Topology where
  llcs := 1
  coresPerLlc := 8192
  threadsPerCore := 1
  numaNodes := 1

theorem small_guest_described :
    FirmwareDescribes smallGuest [⟨0,0,536870912,0⟩,⟨1,536870912,536870912,1⟩] fun _ => 0 :=
  (firmware_describes_iff smallGuest 1024 _ _ (by decide) (by decide) rfl).mpr (by decide)

/-- The SRAT of 8192 CPUs alone is longer than the room below one MiB. -/
theorem many_cores_not_described :
    manyCores.validate = .ok () ∧ compute manyCores 1024 0 = .ok [⟨0,0,1073741824,0⟩] ∧
      ¬ FirmwareDescribes manyCores [⟨0,0,1073741824,0⟩] fun _ => 0 := by
  refine ⟨by decide,rfl,?_⟩
  intro describes
  have fits := fits_of_describes manyCores _ _ (accepted_of_validate (by decide)) (by decide) describes
  have room := (Nat.add_le_add_left (sratBytes_le manyCores _) rsdpAddr).trans fits.2
  exact absurd room (by decide)

end Ktstr.FirmwareMap
